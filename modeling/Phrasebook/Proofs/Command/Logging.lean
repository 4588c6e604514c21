import Phrasebook.Command.Check
import Phrasebook.Command.Rules
import Phrasebook.Proofs.Log.Events
import Phrasebook.Proofs.Rule.Recognition
import Phrasebook.Session

/-!
# Logging does not matter to a command

Whatever the choices for logging are, a command has the same result, makes the same calls, asks for
the same exit code and shows the same lines; only the log records among the lines differ.

Results:
* `discreet_translate`, `discreet_rules`, `discreet_check`, `discreet_run`, `discreet_answer`: the
  commands.
* `Discreet.recordsApart`: a command in two environments.
* `logging_shows_in_records_alone`: all commands in two environments.
-/

namespace Phrasebook

open Console (Event)

/-! ## Lines -/

theorem isLine_error (message : String) : (Console.error message).IsLine := by
  have hstyle : ∃ rest, (Console.style "31").toList = '\x1b' :: rest := ⟨_, rfl⟩
  obtain ⟨rest, hrest⟩ := hstyle
  simp [Console.error, Console.marked, Event.IsLine, hrest]

theorem isLine_output (text : String) : ∀ e ∈ Console.output text, e.IsLine := by
  have hplain : ∀ t, ∀ e ∈ [Console.plain t], e.IsLine := fun _ =>
    List.forall_mem_singleton.2 trivial
  unfold Console.output
  split
  · exact List.forall_mem_nil _
  split
  · exact hplain _
  · exact hplain _

theorem isLine_outputEvents (stdout : String) (truncated : Bool) :
    ∀ e ∈ Command.outputEvents stdout truncated, e.IsLine := by
  refine List.forall_mem_append.2 ⟨isLine_output stdout, ?_⟩
  cases truncated with
  | false => exact List.forall_mem_nil _
  | true => exact List.forall_mem_singleton.2 trivial

theorem isLine_executionReport (execution : Execution) :
    ∀ e ∈ Command.executionReport execution, e.IsLine := by
  cases execution with
  | succeeded stdout truncated =>
    exact List.forall_mem_append.2
      ⟨isLine_outputEvents stdout truncated, List.forall_mem_singleton.2 trivial⟩
  | failed exitCode stdout stderr truncated =>
    exact List.forall_mem_append.2 ⟨isLine_outputEvents stdout truncated,
      List.forall_mem_cons.2 ⟨isLine_error _, List.forall_mem_singleton.2 trivial⟩⟩
  | timedOut timeout stdout truncated =>
    exact List.forall_mem_append.2
      ⟨isLine_outputEvents stdout truncated, List.forall_mem_singleton.2 (isLine_error _)⟩
  | notStarted message => exact List.forall_mem_singleton.2 (isLine_error _)

theorem isLine_translationEvents (json : Bool) (t : Translation) :
    ∀ e ∈ Command.translationEvents json t, e.IsLine := by
  cases json with
  | true => exact List.forall_mem_singleton.2 trivial
  | false =>
    refine List.forall_mem_cons.2 ⟨trivial, ?_⟩
    cases t with
    | rendered ruleId code => exact List.forall_mem_nil _
    | unrecognized => exact List.forall_mem_singleton.2 trivial
    | empty => exact List.forall_mem_nil _

theorem isLine_outcomeEvents (verbose : Bool) (o : SelfTest.Outcome) :
    ∀ e ∈ Command.outcomeEvents verbose o, e.IsLine := by
  unfold Command.outcomeEvents
  split
  · refine List.forall_mem_cons.2 ⟨trivial, ?_⟩
    cases verbose with
    | false => exact List.forall_mem_nil _
    | true => exact List.forall_mem_singleton.2 trivial
  · exact List.forall_mem_cons.2 ⟨isLine_error _,
      List.forall_mem_cons.2 ⟨trivial, List.forall_mem_singleton.2 trivial⟩⟩

theorem isLine_reportEvents (verbose : Bool) (r : SelfTest.Report) :
    ∀ e ∈ Command.reportEvents verbose r, e.IsLine := by
  refine List.forall_mem_append.2 ⟨fun e he => ?_,
    List.forall_mem_cons.2 ⟨trivial, List.forall_mem_singleton.2 trivial⟩⟩
  obtain ⟨o, -, he⟩ := List.mem_flatMap.1 he
  exact isLine_outcomeEvents verbose o e he

/-! ## Commands -/

/-- The choices for logging show in the records among the events of a command, and in nothing else
that it does. -/
structure Discreet {α : Type} (command : Settings → Transcript α) : Prop where
  result : ∀ s level trace, (command (s.withLogging level trace)).result = (command s).result
  calls : ∀ s level trace, (command (s.withLogging level trace)).calls = (command s).calls
  exitCode : ∀ s level trace, (command (s.withLogging level trace)).exitCode = (command s).exitCode
  events : LogsApart fun s => (command s).events

namespace Discreet

variable {α : Type}

theorem of_events {events : Settings → List Event} (h : LogsApart events) (calls : List Call)
    (exitCode : Nat) (result : Except Failure α) :
    Discreet fun s => ⟨events s, calls, exitCode, result⟩ where
  result _ _ _ := rfl
  calls _ _ _ := rfl
  exitCode _ _ _ := rfl
  events := h

/-- Records in front of what a discreet command does. -/
theorem records_append {records : Settings → List Event} (h : LogsApart records)
    {rest : Settings → Transcript α} (hrest : Discreet rest) :
    Discreet fun s => { rest s with events := records s ++ (rest s).events } where
  result := hrest.result
  calls := hrest.calls
  exitCode := hrest.exitCode
  events := h.append hrest.events

end Discreet

theorem discreet_translate (json : Bool) (words : List String) :
    Discreet fun s => Command.translate s json words := by
  have hrecords := logsApart_translation standardRules (Command.instructionOf words)
  cases h : standardRules.translate (Command.instructionOf words) with
  | error e =>
    simp only [Command.translate, h]
    exact .of_events hrecords _ _ _
  | ok t =>
    simp only [Command.translate, h]
    exact .of_events (hrecords.append (.of_const (isLine_translationEvents json t))) _ _ _

theorem discreet_rules (json : Bool) (table : RuleTable) :
    Discreet fun _ => Command.rules json table := by
  refine .of_events (.of_const fun e he => ?_) _ _ _
  split at he
  · rw [List.mem_singleton] at he
    exact he ▸ trivial
  · obtain ⟨entry, -, rfl⟩ := List.mem_map.1 he
    trivial

theorem discreet_check (verbose : Bool)
    (loaded : Except (List Diagnostic) (List SelfTest.Case)) :
    Discreet fun s => Command.check s verbose loaded := by
  cases loaded with
  | error ds => exact .of_events (.of_const (List.forall_mem_nil _)) _ _ _
  | ok cases =>
    have hrecords := logsApart_selfTest standardRules cases
    cases h : SelfTest.run standardRules cases with
    | error e =>
      simp only [Command.check, h]
      exact .of_events hrecords _ _ _
    | ok r =>
      simp only [Command.check, h]
      exact .of_events (hrecords.append (.of_const (isLine_reportEvents verbose r))) _ _ _

theorem discreet_runCode (options : RunOptions) (runner : Runner) (code : String) :
    Discreet fun s => Command.runCode s options runner code where
  result _ _ _ := rfl
  calls _ _ _ := rfl
  exitCode _ _ _ := rfl
  events := by
    have hcode : LogsApart fun _ => [Console.plain code, Console.divider] :=
      .of_const (List.forall_mem_cons.2 ⟨trivial, List.forall_mem_singleton.2 trivial⟩)
    have hreport : LogsApart fun s =>
        Command.executionReport (execute s options runner code).execution :=
      .of_lines (fun _ _ _ => rfl) fun _ => isLine_executionReport _
    exact (hcode.append (logsApart_execution options runner code)).append hreport

theorem discreet_skipCode (text : String) : Discreet fun _ => Command.skipCode text := by
  have hlines : ∀ e ∈ [Console.plain text, Console.warn "Nothing to run"], e.IsLine :=
    List.forall_mem_cons.2 ⟨trivial, List.forall_mem_singleton.2 trivial⟩
  exact .of_events (.of_const hlines) _ _ _

theorem discreet_run (options : RunOptions) (runner : Runner) (words : List String) :
    Discreet fun s => Command.run s options runner words := by
  have hrecords := logsApart_translation standardRules (Command.instructionOf words)
  cases h : standardRules.translate (Command.instructionOf words) with
  | error e =>
    simp only [Command.run, h]
    exact .of_events hrecords _ _ _
  | ok t =>
    simp only [Command.run, h]
    cases t with
    | rendered ruleId code => exact .records_append hrecords (discreet_runCode options runner code)
    | unrecognized => exact .records_append hrecords (discreet_skipCode _)
    | empty => exact .records_append hrecords (discreet_skipCode _)

theorem isLine_codeEvents (t : Translation) : ∀ e ∈ Session.codeEvents t, e.IsLine :=
  List.forall_mem_cons.2
    ⟨trivial, List.forall_mem_cons.2 ⟨trivial, List.forall_mem_singleton.2 trivial⟩⟩

theorem discreet_answerTranslation (options : Session.Options) (runner : Runner)
    (t : Translation) : Discreet fun s => Session.answerTranslation s options runner t := by
  have hcode : LogsApart fun _ => Session.codeEvents t := .of_const (isLine_codeEvents t)
  have hshown : Discreet fun _ => ({ events := Session.codeEvents t, result := .ok .stay } :
      Transcript Session.Next) := .of_events hcode _ _ _
  cases hexecute : options.execute with
  | false =>
    simp only [Session.answerTranslation, hexecute]
    exact hshown
  | true =>
    simp only [Session.answerTranslation, hexecute]
    cases t with
    | rendered ruleId code =>
      have hreport : LogsApart fun s => Command.executionReport
          (execute s { interpreter := options.interpreter } runner code).execution :=
        .of_lines (fun _ _ _ => rfl) fun _ => isLine_executionReport _
      exact ⟨fun _ _ _ => rfl, fun _ _ _ => rfl, fun _ _ _ => rfl,
        (hcode.append (logsApart_execution _ runner code)).append hreport⟩
    | unrecognized => exact hshown
    | empty => exact hshown

theorem discreet_answerInstruction (options : Session.Options) (runner : Runner)
    (instruction : String) :
    Discreet fun s => Session.answerInstruction s options runner instruction := by
  have hrecords := logsApart_translation standardRules instruction
  cases h : standardRules.translate instruction with
  | ok t =>
    simp only [Session.answerInstruction, h]
    exact .records_append hrecords (discreet_answerTranslation options runner t)
  | error e =>
    cases e with
    | broken e =>
      simp only [Session.answerInstruction, h]
      exact .of_events hrecords _ _ _
    | synthesis ruleId d =>
      cases hd : d.display? (some (Session.lowered instruction)) with
      | error e =>
        simp only [Session.answerInstruction, h, hd]
        exact .of_events hrecords _ _ _
      | ok text =>
        simp only [Session.answerInstruction, h, hd]
        exact .of_events
          (hrecords.append (.of_const (List.forall_mem_singleton.2 (isLine_error _)))) _ _ _

theorem discreet_answer (options : Session.Options) (runner : Runner) (line : String) :
    Discreet fun s => Session.answer s options runner line := by
  have hsilent : ∀ next : Session.Next, Discreet fun _ => (⟨[], [], 0, .ok next⟩ :
      Transcript Session.Next) := fun _ => .of_events (.of_const (List.forall_mem_nil _)) _ _ _
  simp only [Session.answer]
  split
  · exact hsilent _
  split
  · exact hsilent _
  · exact discreet_answerInstruction options runner _

/-! ## Environments -/

namespace Environment

/-- The environments agree on every variable except some. -/
def AgreeExcept (names : List String) (a b : Environment) : Prop :=
  ∀ name, name ∉ names → a.get? name = b.get? name

/-- What a command does in an environment, with settings that are read afresh. -/
def perform {α : Type} (env : Environment) (command : Settings → Transcript α) : Transcript α :=
  command ({ environment := env } : Configuration).read.1

end Environment

namespace Settings

/-- The variables that hold the choices for logging. -/
def loggingVariables : List String := [logLevelVariable, traceVariable]

theorem ofEnvironment_of_agree {a b : Environment} (h : a.AgreeExcept loggingVariables b) :
    ofEnvironment b =
      (ofEnvironment a).withLogging (ofEnvironment b).logLevel (ofEnvironment b).traceMatches := by
  have hinterpreter := h interpreterVariable (by decide)
  have htimeout := h timeoutVariable (by decide)
  simp only [ofEnvironment, withLogging, hinterpreter, htimeout]

end Settings

/-- Between two environments a command differs in its log records alone. -/
structure RecordsApart {α : Type} (a b : Environment) (command : Settings → Transcript α) :
    Prop where
  result : (b.perform command).result = (a.perform command).result
  calls : (b.perform command).calls = (a.perform command).calls
  exitCode : (b.perform command).exitCode = (a.perform command).exitCode
  /-- No record reaches the other streams. -/
  shown : ∀ stream, stream ≠ .error →
    (b.perform command).events.filter (·.stream = stream) =
      (a.perform command).events.filter (·.stream = stream)
  /-- All lines, in their order. -/
  lines : (b.perform command).events.filter (!·.isRecord) =
    (a.perform command).events.filter (!·.isRecord)
  /-- A record on the error stream is told from a line by its first character. -/
  told : ∀ e ∈ (a.perform command).events, e.stream = .error → ∀ time,
    (e.isRecord = true ↔ (e.text time).toList.head? = some '\x7b')
  /-- A higher least level leaves out the records below it. -/
  kept : b.get? Settings.traceVariable = a.get? Settings.traceVariable →
    (Settings.ofEnvironment a).logLevel.rank ≤ (Settings.ofEnvironment b).logLevel.rank →
      (b.perform command).events =
        (a.perform command).events.filter (·.isKept (Settings.ofEnvironment b).logLevel)

theorem Discreet.recordsApart {α : Type} {command : Settings → Transcript α} (h : Discreet command)
    {a b : Environment} (hagree : a.AgreeExcept Settings.loggingVariables b) :
    RecordsApart a b command := by
  have hb : b.perform command = command ((Settings.ofEnvironment a).withLogging
      (Settings.ofEnvironment b).logLevel (Settings.ofEnvironment b).traceMatches) := by
    rw [← Settings.ofEnvironment_of_agree hagree]
    rfl
  have hlines : (b.perform command).events.filter (!·.isRecord) =
      (a.perform command).events.filter (!·.isRecord) := by
    rw [hb]
    exact h.events.lines _ _ _
  refine ⟨?_, ?_, ?_, ?_, hlines, ?_, ?_⟩
  · rw [hb]
    exact h.result _ _ _
  · rw [hb]
    exact h.calls _ _ _
  · rw [hb]
    exact h.exitCode _ _ _
  · intro stream hstream
    rw [filter_stream hstream, hlines, ← filter_stream hstream]
  · intro e he hstream time
    exact head_text_iff (h.events.told _ e he) hstream time
  · intro htrace hle
    have hsame : (Settings.ofEnvironment b).traceMatches =
        (Settings.ofEnvironment a).traceMatches := by
      simp only [Settings.ofEnvironment, htrace]
    rw [hb, hsame]
    exact h.events.kept _ _ hle

/-- In two environments that agree on every variable but those for logging, each command has the
same result, asks for the same exit code and shows the same lines; and where they differ in the
least level alone, the higher one leaves out the records below it. -/
theorem logging_shows_in_records_alone {a b : Environment}
    (h : a.AgreeExcept Settings.loggingVariables b) :
    (∀ json words, RecordsApart a b fun s => Command.translate s json words) ∧
    (∀ json (table : RuleTable), RecordsApart a b fun _ => Command.rules json table) ∧
    (∀ verbose loaded, RecordsApart a b fun s => Command.check s verbose loaded) ∧
    (∀ options runner words, RecordsApart a b fun s => Command.run s options runner words) ∧
    (∀ options runner line, RecordsApart a b fun s => Session.answer s options runner line) :=
  ⟨fun json words => (discreet_translate json words).recordsApart h,
    fun json table => (discreet_rules json table).recordsApart h,
    fun verbose loaded => (discreet_check verbose loaded).recordsApart h,
    fun options runner words => (discreet_run options runner words).recordsApart h,
    fun options runner line => (discreet_answer options runner line).recordsApart h⟩

/-- A malformed line is answered with one message. Whether the decision about its match is logged in
front of it goes by the level. -/
theorem logging_of_malformed_line :
    let a : Environment := [("LOG_LEVEL", "Debug"), ("NLCODE_TRACE", "1")]
    let b : Environment := [("NLCODE_TRACE", "1"), ("LOG_LEVEL", "WARN")]
    let command := fun s => Session.answer s {} (fun _ => .error "") "create dictionary :1"
    a.AgreeExcept Settings.loggingVariables b ∧
      (a.perform command).events.map (·.isRecord) = [true, true, false] ∧
      (b.perform command).events = (a.perform command).events.filter (·.isKept .warn) ∧
      (b.perform command).events.map (·.isRecord) = [true, false] ∧
      (b.perform command).events.filter (!·.isRecord) =
        (a.perform command).events.filter (!·.isRecord) := by
  intro a b command
  have hagree : a.AgreeExcept Settings.loggingVariables b := by
    intro name hname
    have hlevel : "LOG_LEVEL" ≠ name := fun h => hname (h ▸ by decide)
    have htrace : "NLCODE_TRACE" ≠ name := fun h => hname (h ▸ by decide)
    simp [a, b, Environment.get?, hlevel, htrace]
  have ha : (a.perform command).events.map (·.isRecord) = [true, true, false] := by
    simp only [Environment.perform, command, Session.answer, Session.answerInstruction,
      standardRules_eq_map]
    decide +kernel
  have hb : (b.perform command).events.map (·.isRecord) = [true, false] := by
    simp only [Environment.perform, command, Session.answer, Session.answerInstruction,
      standardRules_eq_map]
    decide +kernel
  obtain ⟨-, -, -, -, hanswer⟩ := logging_shows_in_records_alone hagree
  have hapart := hanswer {} (fun _ => .error "") "create dictionary :1"
  have hlevel : (Settings.ofEnvironment b).logLevel = .warn := by decide +kernel
  have hkept := hapart.kept (by decide +kernel) (by decide +kernel)
  rw [hlevel] at hkept
  exact ⟨hagree, ha, hkept, hb, hapart.lines⟩

end Phrasebook
