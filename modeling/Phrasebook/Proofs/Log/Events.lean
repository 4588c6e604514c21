import Phrasebook.Console
import Phrasebook.Execution
import Phrasebook.Proofs.Json.RoundTrip
import Phrasebook.SelfTest.Harness

/-!
# Log records among events

The least level and the tracing of match decisions are choices for logging. Events that have log
records among them show these choices in the records alone: the lines are the same, and a higher
least level leaves out the records below it and nothing else. A record is told from a line of the
error stream by its first character.

Results:
* `LogsApart.append`, `LogsApart.of_lines`, `LogsApart.of_records`: how such events are made up.
* `log_withLogging`: one event is logged or left out.
* `logsApart_translation`, `logsApart_selfTest`, `logsApart_execution`: whatever logs.
* `head_text_iff`: the first character of a record.
-/

namespace Phrasebook

/-- The settings with other choices for logging. -/
def Settings.withLogging (s : Settings) (level : Log.Level) (trace : Bool) : Settings :=
  { s with logLevel := level, traceMatches := trace }

namespace Console.Event

/-- The event is a log record. -/
def isRecord : Event → Bool
  | .line _ _ => false
  | .record _ => true

/-- The event stays when the records below a level are left out. -/
def isKept (least : Log.Level) : Event → Bool
  | .line _ _ => true
  | .record r => least.rank ≤ r.level.rank

/-- The event is a line, and a coloured one if it is on the error stream. -/
def IsLine : Event → Prop
  | .line .error text => text.toList.head? = some '\x1b'
  | .line _ _ => True
  | .record _ => False

theorem IsLine.isKept_eq_true {e : Event} (h : e.IsLine) (least : Log.Level) :
    e.isKept least = true := by
  cases e with
  | line => rfl
  | record r => cases h

end Console.Event

open Console (Event)

/-! ## Events with records among them -/

/-- The choices for logging show in the records among events alone. -/
structure LogsApart (events : Settings → List Event) : Prop where
  /-- The lines are the same. -/
  lines : ∀ s level trace, (events (s.withLogging level trace)).filter (!·.isRecord) =
    (events s).filter (!·.isRecord)
  /-- A higher level leaves out the records below it. -/
  kept : ∀ s level, s.logLevel.rank ≤ level.rank →
    events (s.withLogging level s.traceMatches) = (events s).filter (·.isKept level)
  /-- What is no record is a line. -/
  told : ∀ s, ∀ e ∈ events s, e.isRecord = true ∨ e.IsLine

namespace LogsApart

variable {f g : Settings → List Event}

theorem append (hf : LogsApart f) (hg : LogsApart g) : LogsApart fun s => f s ++ g s where
  lines s level trace := by
    rw [List.filter_append, hf.lines, hg.lines, List.filter_append]
  kept s level hle := by
    rw [hf.kept s level hle, hg.kept s level hle, List.filter_append]
  told s e he := by
    rcases List.mem_append.1 he with he | he
    · exact hf.told s e he
    · exact hg.told s e he

/-- Lines do not go by the choices for logging. -/
theorem of_lines (hsame : ∀ s level trace, f (s.withLogging level trace) = f s)
    (hline : ∀ s, ∀ e ∈ f s, e.IsLine) : LogsApart f where
  lines s level trace := by rw [hsame]
  kept s level _ := by
    rw [hsame]
    exact (List.filter_eq_self.2 fun e he => (hline s e he).isKept_eq_true level).symm
  told s e he := .inr (hline s e he)

theorem of_const {events : List Event} (h : ∀ e ∈ events, e.IsLine) : LogsApart fun _ => events :=
  .of_lines (fun _ _ _ => rfl) fun _ => h

/-- Records may be left out, and nothing more. -/
theorem of_records {rs : Settings → List Log.Record}
    (h : ∀ s level, s.logLevel.rank ≤ level.rank →
      rs (s.withLogging level s.traceMatches) =
        (rs s).filter fun r => level.rank ≤ r.level.rank) :
    LogsApart fun s => Console.records (rs s) where
  lines s level trace := by
    have hnone : ∀ rs : List Log.Record, (Console.records rs).filter (!·.isRecord) = [] := by
      intro rs
      refine List.filter_eq_nil_iff.2 fun e he => ?_
      obtain ⟨r, -, rfl⟩ := List.mem_map.1 he
      simp [Event.isRecord]
    rw [hnone, hnone]
  kept s level hle := by
    rw [h s level hle, Console.records, Console.records, List.filter_map]
    rfl
  told s e he := by
    obtain ⟨r, -, rfl⟩ := List.mem_map.1 he
    exact .inl rfl

end LogsApart

/-! ## Records -/

section

variable {s : Settings} {level : Log.Level} (hle : s.logLevel.rank ≤ level.rank)
include hle

/-- With a higher least level an event is left out if it is below the level, and else logged as it
was. -/
theorem log_withLogging (trace : Bool) (component : String) (l : Log.Level) (message : String)
    (details : Json.Members) :
    ((s.withLogging level trace).logger component).log l message details =
      ((s.logger component).log l message details).filter fun r => level.rank ≤ r.level.rank := by
  simp only [Log.Logger.log, Log.Logger.isEnabled, Settings.logger, Settings.withLogging]
  by_cases h : level.rank ≤ l.rank
  · simp [h, hle.trans h]
  · by_cases hleast : s.logLevel.rank ≤ l.rank
    · simp [h, hleast]
    · simp [h, hleast]

theorem translationRecords_withLogging (t : RuleTable) (instruction : String) :
    t.translationRecords (s.withLogging level s.traceMatches) instruction =
      (t.translationRecords s instruction).filter fun r => level.rank ≤ r.level.rank := by
  have htrace : ∀ found, RuleTable.traceRecord (s.withLogging level s.traceMatches)
      (normalize instruction) found = (RuleTable.traceRecord s (normalize instruction) found).filter
        fun r => level.rank ≤ r.level.rank := by
    intro found
    cases found with
    | none => exact log_withLogging hle _ _ _ _ _
    | some rule => exact log_withLogging hle _ _ _ _ _
  have hfailure : ∀ outcome, RuleTable.failureRecord (s.withLogging level s.traceMatches) outcome =
      (RuleTable.failureRecord s outcome).filter fun r => level.rank ≤ r.level.rank := by
    intro outcome
    unfold RuleTable.failureRecord
    split
    · exact log_withLogging hle _ _ _ _ _
    · rfl
  simp only [RuleTable.translationRecords]
  split
  · rfl
  · rw [htrace, hfailure, List.filter_append]

theorem executionRecords_withLogging (trace : Bool) (call : Call) (execution : Execution) :
    executionRecords (s.withLogging level trace) call execution =
      (executionRecords s call execution).filter fun r => level.rank ≤ r.level.rank := by
  cases execution with
  | succeeded => rfl
  | failed => exact log_withLogging hle _ _ _ _ _
  | timedOut => exact log_withLogging hle _ _ _ _ _
  | notStarted => exact log_withLogging hle _ _ _ _ _

theorem runRecords_withLogging (t : RuleTable) (cases : List SelfTest.Case) :
    SelfTest.runRecords t (s.withLogging level s.traceMatches) cases =
      (SelfTest.runRecords t s cases).filter fun r => level.rank ≤ r.level.rank := by
  rw [SelfTest.runRecords, SelfTest.runRecords, List.filter_flatMap]
  exact List.flatMap_congr fun c _ => translationRecords_withLogging hle t c.instruction

end

theorem logsApart_translation (t : RuleTable) (instruction : String) :
    LogsApart fun s => Console.records (t.translationRecords s instruction) :=
  .of_records fun _ _ hle => translationRecords_withLogging hle t instruction

theorem logsApart_selfTest (t : RuleTable) (cases : List SelfTest.Case) :
    LogsApart fun s => Console.records (SelfTest.runRecords t s cases) :=
  .of_records fun _ _ hle => runRecords_withLogging hle t cases

theorem logsApart_execution (options : RunOptions) (runner : Runner) (code : String) :
    LogsApart fun s => Console.records (execute s options runner code).records :=
  .of_records fun s _ hle => executionRecords_withLogging hle s.traceMatches _ _

/-! ## Streams -/

theorem filter_stream {stream : Console.Stream} (h : stream ≠ .error) (events : List Event) :
    events.filter (·.stream = stream) =
      (events.filter (!·.isRecord)).filter (·.stream = stream) := by
  rw [List.filter_filter]
  refine List.filter_congr fun e _ => ?_
  cases e with
  | line => simp [Event.isRecord]
  | record r => simp [Event.stream, Ne.symm h]

theorem head_text_iff {e : Event} (htold : e.isRecord = true ∨ e.IsLine)
    (hstream : e.stream = .error)
    (time : String) : e.isRecord = true ↔ (e.text time).toList.head? = some '\x7b' := by
  cases e with
  | record r =>
    have hhead : (r.render time).toList.head? = some '\x7b' := by
      rw [Log.Record.render, Json.toList_render_object, List.head?_cons]
    exact ⟨fun _ => hhead, fun _ => rfl⟩
  | line stream text =>
    obtain rfl : stream = .error := hstream
    have hhead : text.toList.head? = some '\x1b' := by
      rcases htold with hrecord | hline
      · cases hrecord
      · exact hline
    simp [Event.isRecord, Event.text, hhead]

end Phrasebook
