import Phrasebook.Proofs.Translation.Normalization
import Phrasebook.Proofs.Translation.Place

/-!
# The answer to a line

A line is answered by what its translation is, and no line makes a session fail: each failure of the
standard rules has a place in the instruction, so a caret can be put under it.

Results:
* `exists_spanOf_of_translate`, `display?_of_span`: every failure can be shown.
* `answers_answer`: the answer to any line.
* `translation_of_normalized`: a session and the other commands give the same code and report the
  same place, since the translation depends on the normal form only.
-/

namespace Phrasebook

/-! ## Failures can be shown -/

/-- Every failure of the standard rules is about a part of the first line. -/
theorem exists_spanOf_of_translate {s : String} {e : TranslationError}
    (h : standardRules.translate s = .error e) :
    ∃ id d i j, e = .synthesis id d ∧ d.span = spanOf i j := by
  rcases eq_of_translate_eq_error h with ⟨body, before, piece, -, -, rfl⟩ |
    ⟨operand, number, message, -, -, rfl⟩
  · exact ⟨_, _, _, _, rfl, span_fault _ piece⟩
  · exact ⟨_, _, _, _, rfl, span_invalidVariable operand 3⟩

theorem display?_of_span {d : Diagnostic} {i j : Nat} (h : d.span = spanOf i j)
    (source : String) : d.display? (some source) = .ok (d.display source) := by
  have hcol : ¬ d.span.start.col < 1 := by
    rw [h, spanOf]
    dsimp only
    omega
  rw [Diagnostic.display?, if_neg fun hboth => hcol hboth.2]

namespace Session

/-! ## What a line gives -/

/-- The line ends a session. -/
def Leaves (line : String) : Prop := lowered (trimmed line) ∈ ["exit", "quit", "q"]

instance (line : String) : Decidable (Leaves line) :=
  inferInstanceAs (Decidable (lowered (trimmed line) ∈ ["exit", "quit", "q"]))

/-- What is shown for a line before any code is run. -/
def shown (settings : Settings) (line : String) : List Console.Event :=
  if Leaves line ∨ normalize line = "" then []
  else
    Console.records (standardRules.translationRecords settings line) ++
      match standardRules.translate line with
      | .ok t => codeEvents t
      | .error (.synthesis _ d) => [Console.error (d.display (normalize line))]
      | .error (.broken _) => []

/-- The call that runs the code of a line, if its translation has code. -/
def callOf? (settings : Settings) (options : Options) (line : String) : Option Call :=
  match standardRules.translate line with
  | .ok (.rendered _ code) =>
    some ⟨options.interpreter.getD settings.interpreter, ["-c", programOf code], settings.timeout⟩
  | _ => none

/-- What is shown of a call that had a reply. -/
def reportOf (settings : Settings) (call : Call) (reply : Except String Subprocess.Outcome) :
    List Console.Event :=
  let execution := Execution.ofResult call.timeout reply
  Console.records (executionRecords settings call execution) ++ Command.executionReport execution

/-- The answer to a line: how it goes on, which call is made, and what is shown. -/
structure Answers (settings : Settings) (options : Options) (runner : Runner) (line : String)
    (t : Transcript Next) : Prop where
  result_eq : t.result = .ok (if Leaves line then .leave else .stay)
  calls_eq : t.calls =
    if options.execute ∧ ¬ Leaves line then (callOf? settings options line).toList else []
  events_eq : t.events =
    shown settings line ++ t.calls.flatMap fun call => reportOf settings call (runner call)

section

variable {settings : Settings} {options : Options} {runner : Runner} {line : String}

theorem exitWords_contains_iff :
    exitWords.contains (lowered (trimmed line)) = true ↔ Leaves line := by
  simp [exitWords, Leaves]

theorem answers_of_leaves (h : Leaves line) :
    Answers settings options runner line (answer settings options runner line) := by
  have hanswer : answer settings options runner line = { events := [], result := .ok .leave } := by
    simp only [answer, if_pos (exitWords_contains_iff.2 h)]
  rw [hanswer]
  exact ⟨by simp [h], by simp [h], by simp [shown, h]⟩

theorem callOf?_of_blank (h : normalize line = "") : callOf? settings options line = none := by
  simp [callOf?, RuleTable.translate, h]

theorem answers_of_blank (hstay : ¬ Leaves line) (h : normalize line = "") :
    Answers settings options runner line (answer settings options runner line) := by
  have hanswer : answer settings options runner line = { events := [], result := .ok .stay } := by
    simp only [answer, if_neg (exitWords_contains_iff.not.2 hstay),
      if_pos (trimmed_eq_empty_iff.2 h)]
  rw [hanswer]
  exact ⟨by simp [hstay], by simp [callOf?_of_blank h], by simp [shown, h]⟩

/-- The answer to a line that is translated, by the translation. -/
theorem answer_eq (hstay : ¬ Leaves line) (h : normalize line ≠ "") :
    answer settings options runner line =
      match standardRules.translate line with
      | .ok t =>
        let rest := answerTranslation settings options runner t
        { rest with
          events :=
            Console.records (standardRules.translationRecords settings line) ++ rest.events }
      | .error (.synthesis _ d) =>
        { events :=
            Console.records (standardRules.translationRecords settings line) ++
              [Console.error (d.display (normalize line))]
          result := .ok .stay }
      | .error e =>
        { events := Console.records (standardRules.translationRecords settings line)
          result := .error (.ofTranslationError e) } := by
  simp only [answer, if_neg (exitWords_contains_iff.not.2 hstay),
    if_neg (trimmed_eq_empty_iff.not.2 h)]
  simp only [answerInstruction, RuleTable.translate_trimmed,
    RuleTable.translationRecords_trimmed, lowered_trimmed]
  cases htranslate : standardRules.translate line with
  | ok t => rfl
  | error e =>
    obtain ⟨id, d, i, j, rfl, hspan⟩ := exists_spanOf_of_translate htranslate
    simp only [display?_of_span hspan]

/-- Showing a translation, and running its code if that is asked for. -/
theorem answerTranslation_of_translate (settings : Settings) (options : Options) (runner : Runner)
    {t : Translation} (h : standardRules.translate line = .ok t) :
    (answerTranslation settings options runner t).result = .ok .stay ∧
    (answerTranslation settings options runner t).calls =
      (if options.execute then (callOf? settings options line).toList else []) ∧
    (answerTranslation settings options runner t).events = codeEvents t ++
      (answerTranslation settings options runner t).calls.flatMap fun call =>
        reportOf settings call (runner call) := by
  cases hexecute : options.execute with
  | true =>
    cases t with
    | rendered id code =>
      have hcall : callOf? settings options line =
          some (callFor settings { interpreter := options.interpreter } code) := by
        simp [callOf?, h, callFor]
      simp [answerTranslation, hexecute, hcall, execute, reportOf]
    | unrecognized => simp [answerTranslation, callOf?, h]
    | empty => simp [answerTranslation, callOf?, h]
  | false => simp [answerTranslation, hexecute]

theorem answers_answer (settings : Settings) (options : Options) (runner : Runner)
    (line : String) :
    Answers settings options runner line (answer settings options runner line) := by
  by_cases hleaves : Leaves line
  · exact answers_of_leaves hleaves
  by_cases hblank : normalize line = ""
  · exact answers_of_blank hleaves hblank
  rw [answer_eq hleaves hblank]
  cases htranslate : standardRules.translate line with
  | ok t =>
    obtain ⟨hresult, hcalls, hevents⟩ :=
      answerTranslation_of_translate settings options runner htranslate
    refine ⟨by simpa [hleaves] using hresult, by simpa [hleaves] using hcalls, ?_⟩
    simp only [shown, hleaves, hblank, htranslate, or_self, if_false, List.append_assoc]
    exact congrArg _ hevents
  | error e =>
    obtain ⟨id, d, i, j, rfl, -⟩ := exists_spanOf_of_translate htranslate
    exact ⟨by simp [hleaves], by simp [callOf?, htranslate],
      by simp [shown, hleaves, hblank, htranslate]⟩

end

end Session

/-! ## Sessions and commands -/

theorem Command.result_translate (settings : Settings) (json : Bool) (s : String) :
    (Command.translate settings json [s]).result =
      (standardRules.translate s).mapError .ofTranslationError := by
  have hword : Command.instructionOf [s] = s := by simp [Command.instructionOf]
  simp only [Command.translate, hword]
  cases standardRules.translate s with
  | ok t => rfl
  | error e => rfl

/-- The translation depends on the normal form only, which lower-casing gives after trimming as well
as before. So a session, which trims a line first, shows the code that a command shows for the same
instruction, or puts the caret into the normal form where the report of the command points. -/
theorem translation_of_normalized (s : String) :
    normalize (normalize s) = normalize s ∧
    (∀ c, (normalize s).toList.head? = some c ∨ (normalize s).toList.getLast? = some c →
      Text.isBlank c = false) ∧
    normalize (Session.trimmed s) = Session.lowered (Session.trimmed s) ∧
    Session.lowered (Session.trimmed s) = normalize s ∧
    (∀ t : RuleTable, t.translate (Session.trimmed s) = t.translate s ∧
      t.translate (normalize s) = t.translate s) ∧
    ∀ settings options runner json, ¬ Session.Leaves s → normalize s ≠ "" →
      let records := Console.records (standardRules.translationRecords settings s)
      let told := (Command.translate settings json [s]).result
      let events := (Session.answer settings options runner s).events
      (∀ t, told = .ok t → records ++ Session.codeEvents t <+: events) ∧
      ∀ id d, told = .error (.synthesis id d) →
        events = records ++ [Console.error (d.display (normalize s))] := by
  refine ⟨normalize_normalize s, fun c => not_isBlank_of_normalize,
    by rw [normalize_trimmed, lowered_trimmed], lowered_trimmed s,
    fun t => ⟨t.translate_trimmed s, t.translate_normalize s⟩, ?_⟩
  intro settings options runner json hstay hblank records told events
  have htold : told = (standardRules.translate s).mapError .ofTranslationError :=
    Command.result_translate settings json s
  obtain ⟨-, hcalls, hevents⟩ := Session.answers_answer settings options runner s
  cases htranslate : standardRules.translate s with
  | ok t =>
    rw [htranslate] at htold
    refine ⟨fun u hu => ?_, fun id d hd => ?_⟩
    · obtain rfl : t = u := Except.ok.inj (htold.symm.trans hu)
      have hshown : Session.shown settings s = records ++ Session.codeEvents t := by
        simp [Session.shown, hstay, hblank, htranslate, records]
      rw [hshown] at hevents
      exact ⟨_, hevents.symm⟩
    · cases htold.symm.trans hd
  | error e =>
    obtain ⟨id, d, i, j, rfl, -⟩ := exists_spanOf_of_translate htranslate
    rw [htranslate] at htold
    refine ⟨fun u hu => ?_, fun id' d' hd => ?_⟩
    · cases htold.symm.trans hu
    · obtain ⟨rfl, rfl⟩ := Failure.synthesis.inj (Except.error.inj (htold.symm.trans hd))
      have hnone : (Session.answer settings options runner s).calls = [] := by
        simp [hcalls, Session.callOf?, htranslate]
      have hshown : Session.shown settings s =
          records ++ [Console.error (d.display (normalize s))] := by
        simp [Session.shown, hstay, hblank, htranslate, records]
      rw [hnone, hshown, List.flatMap_nil, List.append_nil] at hevents
      exact hevents

/-- The case-ignorable blank behind a sigma does not keep it from being the final one. -/
theorem translation_of_final_sigma :
    let s := "\uFEFFCreate dictionary ΟΔΟΣ\uFEFF"
    let settings := Settings.ofEnvironment []
    let d := Diagnostic.malformedPair "οδος" 18
    normalize s = "create dictionary οδος" ∧ ¬ Session.Leaves s ∧
    (Command.translate settings false [s]).result = .error (.synthesis "create-dictionary" d) ∧
    (Session.answer settings {} (fun _ => .ok {}) s).events =
      Console.records (standardRules.translationRecords settings s) ++
        [Console.error (d.display (normalize s))] ∧
    Text.isBlank 'ς' = false := by
  intro s settings d
  have hnormal : normalize s = "create dictionary οδος" := by decide +kernel
  have hstay : ¬ Session.Leaves s := by decide +kernel
  have htranslate : standardRules.translate s = .error (.synthesis "create-dictionary" d) := by
    rw [standardRules_eq_map]
    decide +kernel
  have htold : (Command.translate settings false [s]).result =
      .error (.synthesis "create-dictionary" d) := by
    rw [Command.result_translate, htranslate]
    rfl
  obtain ⟨-, hends, -, -, -, hhosts⟩ := translation_of_normalized s
  have hlast : (normalize s).toList.getLast? = some 'ς' := by
    rw [hnormal]
    decide
  exact ⟨hnormal, hstay, htold,
    (hhosts settings {} (fun _ => .ok {}) false hstay (by rw [hnormal]; decide)).2 _ d htold,
    hends 'ς' (.inr hlast)⟩

end Phrasebook
