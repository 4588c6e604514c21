import Phrasebook.Command.Run
import Phrasebook.Proofs.Console
import Phrasebook.Proofs.Session.Answer

/-!
# The verdict on a run

Running an instruction makes at most one call, and what it shows and returns tells the truth about
what the call ended with, whatever that is: an outcome of any kind, or anything thrown. Nothing is
called for an instruction that has no code. The output of the snippet is shown in front of the
verdict, without a line feed at its end.

Results:
* `tells_ofResult`: what the end of a run says of the attempt, one exact condition for each reason.
* `prints_output`, `reports_executionReport`: what a report is made of.
* `run_congr`: of what runs commands, only the recorded calls matter.
* `run_of_translation`: a run for each kind of translation.
-/

namespace Phrasebook

open Console (Event)

namespace Execution

/-- Why a run is not ok. -/
inductive Reason where
  | exit
  | timeout
  | spawn
  deriving DecidableEq, Repr

/-- The reason of a run that is not ok. -/
def reason? : Execution → Option Reason
  | .succeeded .. => none
  | .failed .. => some .exit
  | .timedOut .. => some .timeout
  | .notStarted _ => some .spawn

/-- The standard output, and whether a part of the output is missing, where a run has them. -/
def output? : Execution → Option (String × Bool)
  | .succeeded stdout truncated => some (stdout, truncated)
  | .failed _ stdout _ truncated => some (stdout, truncated)
  | .timedOut _ stdout truncated => some (stdout, truncated)
  | .notStarted _ => none

/-- The end of a run tells the truth about what the attempt ended with. -/
structure Tells (reply : Except Thrown Subprocess.Outcome) (e : Execution) : Prop where
  ok_iff : e.ok = true ↔ ∃ o, reply = .ok o ∧ o.timedOut = false ∧ o.exitCode = some 0
  spawn_iff : e.reason? = some .spawn ↔ ∃ thrown, reply = .error thrown
  /-- Running out of time counts before any exit code. -/
  timeout_iff : e.reason? = some .timeout ↔ ∃ o, reply = .ok o ∧ o.timedOut = true
  exit_iff : e.reason? = some .exit ↔
    ∃ o, reply = .ok o ∧ o.timedOut = false ∧ o.exitCode ≠ some 0
  output_eq : e.output? = reply.toOption.map fun o => (o.stdout, o.truncated)

/-- What ran out of time is not ok. -/
theorem Tells.ok_eq_false {o : Subprocess.Outcome} {e : Execution} (h : Tells (.ok o) e)
    (ho : o.timedOut = true) : e.ok = false := by
  rw [← Bool.not_eq_true, h.ok_iff]
  rintro ⟨o', ho', htime, -⟩
  obtain rfl := Except.ok.inj ho'
  rw [ho] at htime
  cases htime

theorem tells_ofResult (timeout : Binary64) (reply : Except Thrown Subprocess.Outcome) :
    Tells reply (ofResult timeout (reply.mapError Thrown.message)) := by
  cases reply with
  | error thrown =>
    constructor <;> simp [Except.mapError, ofResult, ok, reason?, output?, Except.toOption]
  | ok o =>
    simp only [Except.mapError, ofResult]
    cases htime : o.timedOut with
    | true => constructor <;> simp [htime, ok, reason?, output?, Except.toOption]
    | false =>
      by_cases hcode : o.exitCode = some 0
      · constructor <;> simp [htime, hcode, ok, reason?, output?, Except.toOption]
      · constructor <;> simp [htime, hcode, ok, reason?, output?, Except.toOption]

end Execution

namespace Command

/-! ## Reports -/

/-- A text is shown on standard output as it is, except for one line feed at its end. -/
inductive Prints : String → List Event → Prop where
  | nothing : Prints "" []
  | whole {text : String} (hne : text ≠ "") (hlast : text.toList.getLast? ≠ some '\n') :
    Prints text [.line .log text]
  | line (shown : String) : Prints (shown ++ "\n") [.line .log shown]

theorem prints_output (text : String) : Prints text (Console.output text) := by
  unfold Console.output
  split
  · subst text
    exact .nothing
  · next hne =>
    split
    · next hlast =>
      have htext : text = String.ofList text.toList.dropLast ++ "\n" := by
        rw [← String.toList_inj, String.toList_append, String.toList_ofList]
        exact (List.dropLast_append_getLast? '\n' hlast).symm
      conv => lhs; rw [htext]
      exact .line _
    · next hlast => exact .whole hne hlast

/-- A text that ends with a line feed is shown without it. -/
theorem Prints.eq_of_lineFeed {text : String} {events : List Event} {shown : String}
    (h : Prints text events) (htext : text = shown ++ "\n") : events = [.line .log shown] := by
  cases h with
  | nothing => simp at htext
  | whole _ hlast => exact absurd (by simp [htext, String.toList_append]) hlast
  | line other => rw [(String.append_left_inj _).1 htext]

/-- The warning that a part of the output is missing. -/
def missing (truncated : Bool) : List Event :=
  if truncated then
    [.line .warn "\x1b[33m⚠\x1b[0m Output truncated to the first 1048576 bytes"]
  else []

/-- Why a snippet failed: the last line of its error output, or else its exit code. -/
def reasonText (exitCode : Option Int) (stderr : String) : String :=
  if lastErrorLine stderr = "" then "exit code " ++ (exitCode.map toString).getD "null"
  else lastErrorLine stderr

/-- What is shown after the output. -/
def verdict : Execution → List Event
  | .succeeded _ _ => [.line .log "\x1b[32m✓\x1b[0m Code executed successfully"]
  | .failed exitCode _ stderr _ =>
    [.line .error s!"\x1b[31m✗\x1b[0m Error: {reasonText exitCode stderr}",
     .line .warn "\x1b[33m⚠\x1b[0m Make sure to create variables before using them"]
  | .timedOut timeout _ _ =>
    [.line .error s!"\x1b[31m✗\x1b[0m Execution timed out after {timeout.text} ms"]
  | .notStarted message =>
    [.line .error s!"\x1b[31m✗\x1b[0m Cannot start the Python interpreter: {message}"]

/-- A report shows the output and says if a part of it is missing. The verdict comes after that. -/
def Reports (e : Execution) (events : List Event) : Prop :=
  ∃ printed, Prints ((e.output?.map (·.1)).getD "") printed ∧
    events = printed ++ missing ((e.output?.map (·.2)).getD false) ++ verdict e

theorem outputEvents_eq (stdout : String) (truncated : Bool) :
    outputEvents stdout truncated = Console.output stdout ++ missing truncated := by
  rw [outputEvents, Console.warn_eq]
  rfl

theorem reports_executionReport (e : Execution) : Reports e (executionReport e) := by
  cases e with
  | succeeded stdout truncated =>
    refine ⟨_, prints_output stdout, ?_⟩
    rw [executionReport, outputEvents_eq, Console.success_eq]
    rfl
  | failed exitCode stdout stderr truncated =>
    refine ⟨_, prints_output stdout, ?_⟩
    rw [executionReport, outputEvents_eq, Console.error_eq, Console.warn_eq]
    rfl
  | timedOut timeout stdout truncated =>
    refine ⟨_, prints_output stdout, ?_⟩
    rw [executionReport, outputEvents_eq, Console.error_eq]
    rfl
  | notStarted message =>
    refine ⟨_, .nothing, ?_⟩
    rw [executionReport, Console.error_eq]
    rfl

/-! ## Runs -/

/-- The line between the code and the report. -/
def dividingLine : Event := .line .log "\x1b[2m----------------------------------------\x1b[0m"

section

variable {settings : Settings} {options : RunOptions} {words : List String}

/-- Only an instruction that a rule accepts fails, and then before anything is called. -/
theorem run_of_translate_eq_error (runner : Runner) {e : TranslationError}
    (h : standardRules.translate (instructionOf words) = .error e) :
    ∃ id d, e = .synthesis id d ∧ run settings options runner words =
      { events :=
          Console.records (standardRules.translationRecords settings (instructionOf words))
        calls := []
        exitCode := 0
        result := .error (.synthesis id d) } := by
  obtain ⟨id, d, i, j, rfl, -⟩ := exists_spanOf_of_translate h
  refine ⟨id, d, rfl, ?_⟩
  simp [run, h, Failure.ofTranslationError]

theorem run_of_kind_ne (runner : Runner) {t : Translation}
    (h : standardRules.translate (instructionOf words) = .ok t) (hkind : t.kind ≠ "code") :
    run settings options runner words =
      { events :=
          Console.records (standardRules.translationRecords settings (instructionOf words)) ++
            [.line .log t.text, .line .warn "\x1b[33m⚠\x1b[0m Nothing to run"]
        calls := []
        exitCode := 0
        result := .ok none } := by
  cases t with
  | rendered id code => exact absurd rfl hkind
  | unrecognized => simp [run, h, skipCode, Console.plain_eq, Console.warn_eq]
  | empty => simp [run, h, skipCode, Console.plain_eq, Console.warn_eq]

theorem run_of_kind_eq (runner : Runner) {t : Translation}
    (h : standardRules.translate (instructionOf words) = .ok t) (hkind : t.kind = "code") :
    let call := callFor settings options t.text
    let e := Execution.ofResult call.timeout (runner call)
    run settings options runner words =
      { events :=
          Console.records (standardRules.translationRecords settings (instructionOf words)) ++
            [.line .log t.text, dividingLine] ++
            Console.records (executionRecords settings call e) ++ executionReport e
        calls := [call]
        exitCode := if e.ok then 0 else 1
        result := .ok (some e) } := by
  cases t with
  | rendered id code =>
    simp only [run, h, runCode, execute, Translation.text, List.append_assoc, Console.plain_eq,
      Console.divider_eq]
    rfl
  | unrecognized => exact absurd hkind (by decide)
  | empty => exact absurd hkind (by decide)

/-- Of what runs commands, only the answers to the recorded calls matter. -/
theorem run_congr {runner runner' : Runner}
    (h : ∀ call ∈ (run settings options runner words).calls, runner' call = runner call) :
    run settings options runner' words = run settings options runner words := by
  cases htranslate : standardRules.translate (instructionOf words) with
  | error e => simp only [run, htranslate]
  | ok t =>
    by_cases hkind : t.kind = "code"
    · simp only [run_of_kind_eq _ htranslate hkind] at h ⊢
      rw [h _ (List.mem_singleton_self _)]
    · rw [run_of_kind_ne _ htranslate hkind, run_of_kind_ne _ htranslate hkind]

end

/-- A run, whatever the attempt to run the command ends with. A malformed instruction ends it with
the failure of the translation, and shows no code. An instruction without code calls nothing and
has no result. Code is shown and run once, with the chosen or else the configured interpreter and
time. The run does not fail then: its result tells the truth about the attempt, the exit code is 1
exactly when the result is not ok, and the output is shown in front of the verdict. In each case
nothing but the recorded calls is asked of what runs commands. -/
theorem run_of_translation (settings : Settings) (options : RunOptions)
    (attempt : Call → Except Thrown Subprocess.Outcome) (words : List String) :
    let instruction := " ".intercalate words
    let records := Console.records (standardRules.translationRecords settings instruction)
    let done := run settings options (.catching attempt) words
    (∀ e, standardRules.translate instruction = .error e → ∃ id d, e = .synthesis id d ∧
      done =
        { events := records, calls := [], exitCode := 0, result := .error (.synthesis id d) }) ∧
    (∀ t, standardRules.translate instruction = .ok t → t.kind ≠ "code" →
      done =
        { events :=
            records ++ [.line .log t.text, .line .warn "\x1b[33m⚠\x1b[0m Nothing to run"]
          calls := []
          exitCode := 0
          result := .ok none }) ∧
    (∀ t, standardRules.translate instruction = .ok t → t.kind = "code" →
      let call : Call :=
        { command := options.interpreter.getD settings.interpreter
          args := ["-c", setup ++ "\n" ++ t.text ++ "\n"]
          timeout := options.timeout.getD settings.timeout }
      ∃ e report, e.Tells (attempt call) ∧ Reports e report ∧
        done =
          { events := records ++ [.line .log t.text, dividingLine] ++
              Console.records (executionRecords settings call e) ++ report
            calls := [call]
            exitCode := if e.ok then 0 else 1
            result := .ok (some e) }) ∧
    ∀ attempt', (∀ call ∈ done.calls, attempt' call = attempt call) →
      run settings options (.catching attempt') words = done := by
  intro instruction records done
  refine ⟨fun e h => run_of_translate_eq_error _ h, fun t h hkind => run_of_kind_ne _ h hkind,
    fun t h hkind => ?_, fun attempt' h => ?_⟩
  · intro call
    exact ⟨_, _, Execution.tells_ofResult call.timeout (attempt call), reports_executionReport _,
      run_of_kind_eq _ h hkind⟩
  · refine run_congr fun call hcall => ?_
    rw [Runner.catching, Runner.catching, h call hcall]

/-- Running out of time counts before the exit code, and what was written until then is shown. A
malformed instruction and one that no rule accepts are not run. -/
theorem run_of_timed_out :
    let settings := Settings.ofEnvironment []
    let attempt : Call → Except Thrown Subprocess.Outcome := fun _ =>
      .ok { exitCode := some 0, stdout := "1\n", timedOut := true, truncated := true }
    let done := run settings { timeout := some (.ofNat 7) } (.catching attempt)
    (∃ e, (done ["print", "hello"]).result = .ok (some e) ∧ e.ok = false ∧
      e.reason? = some .timeout ∧ e.output? = some ("1\n", true) ∧
      (done ["print", "hello"]).exitCode = 1 ∧
      (done ["print", "hello"]).calls = [⟨"python3", ["-c",
        "my_list = []\nmy_string = \"\"\nmy_dict = \x7b\x7d\nprint(\"hello\")\n"], .ofNat 7⟩] ∧
      .line .log "print(\"hello\")" ∈ (done ["print", "hello"]).events ∧
      .line .log "1" ∈ (done ["print", "hello"]).events) ∧
    (done ["create", "dictionary", "x"]).result =
      .error (.synthesis "create-dictionary" (.malformedPair "x" 18)) ∧
    (done ["do", "a", "backflip"]).result = .ok none ∧
    (done ["do", "a", "backflip"]).calls = [] ∧
    ∃ records, (done ["do", "a", "backflip"]).events = Console.records records ++
      [.line .log "# I don't understand. Type 'help' for available commands.",
       .line .warn "\x1b[33m⚠\x1b[0m Nothing to run"] := by
  intro settings attempt done
  have hhello : standardRules.translate (" ".intercalate ["print", "hello"]) =
      .ok (.rendered "print-text" "print(\"hello\")") := by
    rw [standardRules_eq_map]
    decide +kernel
  have hdictionary : standardRules.translate (" ".intercalate ["create", "dictionary", "x"]) =
      .error (.synthesis "create-dictionary" (.malformedPair "x" 18)) := by
    rw [standardRules_eq_map]
    decide +kernel
  have hbackflip : standardRules.translate (" ".intercalate ["do", "a", "backflip"]) =
      .ok .unrecognized := by
    rw [standardRules_eq_map]
    decide +kernel
  have hruns := run_of_translation settings { timeout := some (.ofNat 7) } attempt
  obtain ⟨-, -, hrun, -⟩ := hruns ["print", "hello"]
  obtain ⟨hfail, -⟩ := hruns ["create", "dictionary", "x"]
  obtain ⟨-, hskip, -⟩ := hruns ["do", "a", "backflip"]
  obtain ⟨e, report, htells, hreport, hdone⟩ := hrun _ hhello rfl
  obtain ⟨id, d, he, hfailed⟩ := hfail _ hdictionary
  have hok : e.ok = false := htells.ok_eq_false rfl
  obtain ⟨printed, hprinted, rfl⟩ := hreport
  rw [htells.output_eq] at hprinted
  have hline : "1\n" = "1" ++ "\n" := by decide
  obtain rfl := hprinted.eq_of_lineFeed hline
  have hprogram : setup ++ "\n" ++ "print(\"hello\")" ++ "\n" =
      "my_list = []\nmy_string = \"\"\nmy_dict = \x7b\x7d\nprint(\"hello\")\n" := by decide
  have hshown : (done ["print", "hello"]).events = _ := congrArg Transcript.events hdone
  cases he
  refine ⟨⟨e, ?_, hok, htells.timeout_iff.2 ⟨_, rfl, rfl⟩, htells.output_eq, ?_, ?_, ?_, ?_⟩,
    ?_, ?_, ?_, _, congrArg Transcript.events (hskip _ hbackflip (by decide))⟩
  · exact congrArg Transcript.result hdone
  · rw [hok] at hdone
    exact congrArg Transcript.exitCode hdone
  · rw [← hprogram]
    exact congrArg Transcript.calls hdone
  · rw [hshown]
    simp [Translation.text]
  · rw [hshown]
    simp
  · exact congrArg Transcript.result hfailed
  · exact congrArg Transcript.result (hskip _ hbackflip (by decide))
  · exact congrArg Transcript.calls (hskip _ hbackflip (by decide))

end Command

end Phrasebook
