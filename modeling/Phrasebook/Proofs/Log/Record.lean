import Phrasebook.Execution
import Phrasebook.Proofs.Json.RoundTrip
import Phrasebook.Proofs.Rule.Recognition
import Phrasebook.Translation

/-!
# The lines of log records

A record is written on one line, which is an object again. The object has the level, the component
and the message of the event under their keys, unless a detail of the event has the same key: then
the detail counts. Two events have such a detail. Where an instruction is malformed and where an
interpreter cannot be started, the message that is written is that of the failure.

Results:
* `get?_members`: the last detail of a key counts, else the record's own value.
* `carries_render`: what the line of a record carries.
* `exists_failureRecord`, `exists_notStartedRecord`: the warnings about failures.
* `lines_of_events`: the lines that are written for events.
-/

namespace Phrasebook.Log

open Json (Members Exact)

/-! ## Records -/

namespace Record

/-- The members that every record has. -/
def own (r : Record) (time : String) : Members :=
  [("level", .string r.level.name), ("timestamp", .string time),
   ("component", .string r.component), ("message", .string r.message)]

theorem distinct_members (r : Record) (time : String) : (r.members time).Distinct :=
  Members.distinct_putAll r.details (by simp [Members.Distinct])

/-- The last detail of a key counts, else the record's own value. -/
theorem get?_members (r : Record) (time key : String) :
    (r.members time).get? key =
      (Members.get? r.details.reverse key).or ((r.own time).get? key) :=
  Members.get?_putAll _ _ _

theorem exact_members {r : Record} (h : ∀ m ∈ r.details, Exact m.2) (time : String) :
    Exact (.object (r.members time)) := by
  refine .object fun m hm => ?_
  rcases Members.mem_of_mem_putAll hm with hm | hm
  · exact Json.exact_of_strings [("level", r.level.name), ("timestamp", time),
      ("component", r.component), ("message", r.message)] m hm
  · exact h m hm

/-- The line of a record is an object with the members of the record. -/
theorem parse?_render {r : Record} (h : ∀ m ∈ r.details, Exact m.2) (time : String) :
    ∃ ms : Members, Json.parse? (r.render time).toList = some (.object ms) ∧
      ∀ key, ms.get? key = ((r.members time).get? key).map Json.reread := by
  obtain ⟨ms, hms, hget⟩ := Json.get?_rereadObject (r.distinct_members time)
  refine ⟨ms, ?_, hget⟩
  rw [render, Json.parse?_render (exact_members h time), hms]

end Record

/-! ## Events -/

/-- The line carries an event: it has no line break and no other control character, and is an object
with the level, the component and the message under those of their keys that no detail has, and with
the last detail of each key. -/
def Carries (line : List Char) (level : Level) (component message : String) (details : Members) :
    Prop :=
  (∀ c ∈ line, 0x20 ≤ c.toNat) ∧
  ∃ ms : Members, Json.parse? line = some (.object ms) ∧
    ((∀ m ∈ details, m.1 ≠ "level") → ms.get? "level" = some (.string level.name)) ∧
    ((∀ m ∈ details, m.1 ≠ "component") → ms.get? "component" = some (.string component)) ∧
    ((∀ m ∈ details, m.1 ≠ "message") → ms.get? "message" = some (.string message)) ∧
    ∀ key value, Members.get? details.reverse key = some value → ms.get? key = some value.reread

/-- What the line of a record carries. -/
theorem carries_render {r : Record} (h : ∀ m ∈ r.details, Exact m.2) (time : String) :
    Carries (r.render time).toList r.level r.component r.message r.details := by
  obtain ⟨ms, hms, hget⟩ := r.parse?_render h time
  have hown : ∀ key value, (∀ m ∈ r.details, m.1 ≠ key) →
      (r.own time).get? key = some (.string value) → ms.get? key = some (.string value) := by
    intro key value hnot hvalue
    have hnone : Members.get? r.details.reverse key = none :=
      Members.get?_eq_none_iff.2 fun m hm => hnot m (List.mem_reverse.1 hm)
    rw [hget, Record.get?_members, hnone, Option.none_or, hvalue]
    rfl
  refine ⟨Json.not_control_of_mem_render (Record.exact_members h time), ms, hms,
    fun hnot => hown _ _ hnot rfl, fun hnot => hown _ _ hnot rfl, fun hnot => hown _ _ hnot rfl,
    fun key value hvalue => ?_⟩
  rw [hget, Record.get?_members, hvalue]
  rfl

/-- The message and the stack of an error take the place of no other member. -/
theorem carries_of_cause {line : List Char} {level : Level} {component message : String}
    {c : Cause} {details : Members}
    (h : Carries line level component message
      (Members.putAll [("error", .string c.message), ("stack", .string c.stack)] details)) :
    Carries line level component message details := by
  obtain ⟨hline, ms, hms, hlevel, hcomponent, hmessage, hdetails⟩ := h
  let base : Members := [("error", .string c.message), ("stack", .string c.stack)]
  have hnot : ∀ key, key ≠ "error" → key ≠ "stack" → (∀ m ∈ details, m.1 ≠ key) →
      ∀ m ∈ Members.putAll base details, m.1 ≠ key := by
    intro key herror hstack hkey m hm
    rcases Members.mem_of_mem_putAll hm with hm | hm
    · simp only [base, List.mem_cons, List.not_mem_nil, or_false] at hm
      rcases hm with rfl | rfl
      · exact Ne.symm herror
      · exact Ne.symm hstack
    · exact hkey m hm
  have hdistinct : (Members.putAll base details).Distinct :=
    Members.distinct_putAll details (by simp [Members.Distinct, base])
  refine ⟨hline, ms, hms, fun hkey => hlevel (hnot _ (by decide) (by decide) hkey),
    fun hkey => hcomponent (hnot _ (by decide) (by decide) hkey),
    fun hkey => hmessage (hnot _ (by decide) (by decide) hkey), fun key value hvalue => ?_⟩
  refine hdetails key value ?_
  rw [← Members.get?_perm (List.reverse_perm _).symm hdistinct, Members.get?_putAll, hvalue,
    Option.some_or]

/-! ## Loggers -/

theorem log_of_le {l : Logger} {level : Level} (h : l.least.rank ≤ level.rank) (message : String)
    (details : Members) :
    l.log level message details = [⟨level, l.component, message, details⟩] := by
  simp [Logger.log, Logger.isEnabled, h]

theorem exists_log {l : Logger} {level : Level} (hlevel : l.least.rank ≤ level.rank)
    (message : String) {details : Members} (h : ∀ m ∈ details, Exact m.2) :
    ∃ r, l.log level message details = [r] ∧ ∀ time,
      Carries (r.render time).toList level l.component message details :=
  ⟨_, log_of_le hlevel message details, fun time => carries_render h time⟩

/-- An error is never below the least level. -/
theorem exists_logError (l : Logger) (message : String) (cause : Option Cause) {details : Members}
    (h : ∀ m ∈ details, Exact m.2) :
    ∃ r, l.logError message cause details = [r] ∧ ∀ time,
      Carries (r.render time).toList .error l.component message details := by
  have hlevel : l.least.rank ≤ Level.error.rank := by
    cases l.least with
    | debug => decide
    | info => decide
    | warn => decide
    | error => decide
  cases cause with
  | none => exact exists_log hlevel message h
  | some c =>
    have hall : ∀ m ∈ Members.putAll [("error", .string c.message), ("stack", .string c.stack)]
        details, Exact m.2 := by
      intro m hm
      rcases Members.mem_of_mem_putAll hm with hm | hm
      · exact Json.exact_of_strings [("error", c.message), ("stack", c.stack)] m hm
      · exact h m hm
    obtain ⟨r, hr, hcarries⟩ := exists_log hlevel message hall
    exact ⟨r, hr, fun time => carries_of_cause (hcarries time)⟩

/-! ## Warnings about failures -/

/-- The line is an object with a message. -/
def HasMessage (line : List Char) (message : String) : Prop :=
  ∃ ms : Members, Json.parse? line = some (.object ms) ∧
    ms.get? "message" = some (.string message)

theorem HasMessage.unique {line : List Char} {a b : String} (ha : HasMessage line a)
    (hb : HasMessage line b) : a = b := by
  obtain ⟨ms, hms, hget⟩ := ha
  obtain ⟨ms', hms', hget'⟩ := hb
  obtain rfl := Json.object.inj (Option.some.inj (hms.symm.trans hms'))
  exact Json.string.inj (Option.some.inj (hget.symm.trans hget'))

/-- A detail with the key of the message is written in its place. -/
theorem hasMessage_of_details {r : Record} (texts : List (String × String))
    (hr : r.details = texts.map fun t => (t.1, .string t.2)) {message : String}
    (h : Members.get? r.details.reverse "message" = some (.string message)) (time : String) :
    HasMessage (r.render time).toList message := by
  have hexact : ∀ m ∈ r.details, Exact m.2 := by
    rw [hr]
    exact Json.exact_of_strings texts
  obtain ⟨-, ms, hms, -, -, -, hget⟩ := carries_render hexact time
  exact ⟨ms, hms, hget "message" _ h⟩

/-- Where an instruction is malformed, the message of the diagnostic is written in place of that of
the event. -/
theorem exists_failureRecord {settings : Settings}
    (hlevel : settings.logLevel.rank ≤ Level.warn.rank)
    {t : RuleTable} {instruction ruleId : String} {d : Diagnostic}
    (h : t.translate instruction = .error (.synthesis ruleId d)) :
    ∃ r ∈ t.translationRecords settings instruction, r.level = .warn ∧
      r.component = RuleTable.component ∧ r.message = "synthesis failed" ∧
      ∀ time, HasMessage (r.render time).toList d.message := by
  refine ⟨⟨.warn, RuleTable.component, "synthesis failed", [("ruleId", .string ruleId),
    ("code", .string d.code), ("message", .string d.message)]⟩, ?_, rfl, rfl, rfl, fun time => ?_⟩
  · simp only [RuleTable.translate] at h
    split at h
    · cases h
    · next hblank =>
      rw [RuleTable.translationRecords, if_neg hblank, List.mem_append, h]
      right
      rw [RuleTable.failureRecord, log_of_le hlevel]
      exact List.mem_singleton.2 rfl
  · exact hasMessage_of_details [("ruleId", ruleId), ("code", d.code), ("message", d.message)]
      rfl rfl time

/-- Where an interpreter cannot be started, the message of the failure is written in place of that
of the event. -/
theorem exists_notStartedRecord {settings : Settings}
    (hlevel : settings.logLevel.rank ≤ Level.warn.rank) (call : Call) (message : String) :
    ∃ r, executionRecords settings call (.notStarted message) = [r] ∧ r.level = .warn ∧
      r.component = "python-host" ∧ r.message = "failed to start interpreter" ∧
      ∀ time, HasMessage (r.render time).toList message := by
  refine ⟨_, log_of_le hlevel _ _, rfl, rfl, rfl, fun time => ?_⟩
  exact hasMessage_of_details [("pythonBin", call.command), ("message", message)] rfl rfl time

/-- An entry of a dictionary without a colon. -/
theorem exists_malformed_dictionary : ∃ d,
    standardRules.translate "create dictionary a" = .error (.synthesis "create-dictionary" d) ∧
      d.message = "Expected exactly one ':' in dictionary pair 'a'" := by
  rw [standardRules_eq_map]
  exact ⟨_, rfl, by decide +kernel⟩

/-! ## The lines of events -/

/-- For each event at or above its least level a logger writes one line that carries the event. The
level, the component and the message are those of the event where no detail has their key; the two
warnings about failures have a message among their details, which is the one that is written. -/
theorem lines_of_events (l : Logger) (message : String) {details : Members}
    (hdetails : ∀ m ∈ details, Exact m.2) :
    (∀ level, l.least.rank ≤ level.rank → ∃ r, l.log level message details = [r] ∧
      ∀ time, Carries (r.render time).toList level l.component message details) ∧
    (∀ cause, ∃ r, l.logError message cause details = [r] ∧
      ∀ time, Carries (r.render time).toList .error l.component message details) ∧
    (∀ (settings : Settings) (t : RuleTable) (instruction ruleId : String) (d : Diagnostic),
      settings.logLevel.rank ≤ Level.warn.rank →
      t.translate instruction = .error (.synthesis ruleId d) →
      ∃ r ∈ t.translationRecords settings instruction, r.level = .warn ∧
        r.component = RuleTable.component ∧ r.message = "synthesis failed" ∧
        ∀ time, HasMessage (r.render time).toList d.message) ∧
    ∀ (settings : Settings) (call : Call) (failure : String),
      settings.logLevel.rank ≤ Level.warn.rank →
      ∃ r, executionRecords settings call (.notStarted failure) = [r] ∧ r.level = .warn ∧
        r.component = "python-host" ∧ r.message = "failed to start interpreter" ∧
        ∀ time, HasMessage (r.render time).toList failure :=
  ⟨fun _ hlevel => exists_log hlevel message hdetails,
    fun cause => exists_logError l message cause hdetails,
    fun _ _ _ _ _ hlevel h => exists_failureRecord hlevel h,
    fun _ call failure hlevel => exists_notStartedRecord hlevel call failure⟩

/-- Details with line breaks, with keys that are array indices and with objects inside; an
instruction that is malformed. -/
theorem lines_of_nested_details :
    let l : Logger := ⟨"a\n\"b", .warn⟩
    let details : Members :=
      [("10", .object [("message", .string "\r\n")]),
        ("2", .array [.null, .number (.finite true 5 (-1))])]
    (∃ r, l.log .error "\u2028\x00" details = [r] ∧ ∀ time,
      (∀ c ∈ (r.render time).toList, 0x20 ≤ c.toNat) ∧
      ∃ ms : Members, Json.parse? (r.render time).toList = some (.object ms) ∧
        ms.get? "level" = some (.string "ERROR") ∧
        ms.get? "component" = some (.string "a\n\"b") ∧
        ms.get? "message" = some (.string "\u2028\x00")) ∧
    ∃ r ∈ standardRules.translationRecords (.ofEnvironment []) "create dictionary a",
      r.message = "synthesis failed" ∧ ∀ time,
        HasMessage (r.render time).toList "Expected exactly one ':' in dictionary pair 'a'" := by
  intro l details
  have hobject : ∀ m ∈ [("message", Json.string "\r\n")], Exact m.2 :=
    Json.exact_of_strings [("message", "\r\n")]
  have hnumber : Exact (.number (.finite true 5 (-1))) := .number ⟨by decide, by decide, by decide⟩
  have harray : ∀ item ∈ [Json.null, .number (.finite true 5 (-1))], Exact item :=
    List.forall_mem_cons.2 ⟨.null, List.forall_mem_singleton.2 hnumber⟩
  have hdetails : ∀ m ∈ details, Exact m.2 :=
    List.forall_mem_cons.2 ⟨.object hobject, List.forall_mem_singleton.2 (.array harray)⟩
  obtain ⟨hlog, -, hfailure, -⟩ := lines_of_events l "\u2028\x00" hdetails
  obtain ⟨r, hr, hcarries⟩ := hlog .error (by decide)
  refine ⟨⟨r, hr, fun time => ?_⟩, ?_⟩
  · obtain ⟨hline, ms, hms, hlevel, hcomponent, hmessage, -⟩ := hcarries time
    exact ⟨hline, ms, hms, hlevel (by decide), hcomponent (by decide), hmessage (by decide)⟩
  · obtain ⟨d, hd, hmessage⟩ := exists_malformed_dictionary
    obtain ⟨r, hr, -, -, hevent, hline⟩ :=
      hfailure (.ofEnvironment []) standardRules _ _ d (by decide) hd
    rw [hmessage] at hline
    exact ⟨r, hr, hevent, hline⟩

/-- The message of the event is lost where an instruction is malformed, and where an interpreter
cannot be started. -/
theorem line_loses_message :
    (∃ r ∈ standardRules.translationRecords (.ofEnvironment []) "create dictionary a",
      r.message = "synthesis failed" ∧
        ¬ HasMessage (r.render "").toList "synthesis failed") ∧
    ∃ r, executionRecords (.ofEnvironment []) ⟨"python3", [], .ofNat 5000⟩ (.notStarted "boom") =
        [r] ∧
      r.message = "failed to start interpreter" ∧
        ¬ HasMessage (r.render "").toList "failed to start interpreter" := by
  have hlevel : (Settings.ofEnvironment []).logLevel.rank ≤ Level.warn.rank := by decide
  constructor
  · obtain ⟨d, hd, hmessage⟩ := exists_malformed_dictionary
    obtain ⟨r, hr, -, -, hevent, hline⟩ := exists_failureRecord hlevel hd
    refine ⟨r, hr, hevent, fun h => ?_⟩
    have heq := h.unique (hline "")
    rw [hmessage] at heq
    exact absurd heq (by decide)
  · obtain ⟨r, hr, -, -, hevent, hline⟩ :=
      exists_notStartedRecord hlevel ⟨"python3", [], .ofNat 5000⟩ "boom"
    exact ⟨r, hr, hevent, fun h => absurd (h.unique (hline "")) (by decide)⟩

end Phrasebook.Log
