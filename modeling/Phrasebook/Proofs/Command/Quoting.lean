import Phrasebook.Program
import Phrasebook.Proofs.Console
import Phrasebook.Proofs.Translation.Failure

/-!
# Quoting an instruction

An instruction can be given to the program as one word or as several: the words are joined by spaces
before anything else is done with them. This holds for any parser that keeps words, whether they are
empty, look like numbers or are the names of commands.

Results:
* `run_translate`: a run is the translation of the joined words.
* `report_of_translate_eq_error`: the report of an instruction that cannot be translated.
* `run_translate_words`: quoting makes no difference, and what the run shows.
-/

namespace Phrasebook

/-! ## Joined words -/

theorem instructionOf_singleton (text : String) : Command.instructionOf [text] = text :=
  String.intercalate_singleton

/-- Joined words start with a dash only if the first word does. -/
theorem head_instructionOf_ne_dash {words : List String}
    (hwords : ∀ w ∈ words, w.toList.head? ≠ some '-') :
    (Command.instructionOf words).toList.head? ≠ some '-' := by
  cases words with
  | nil => decide
  | cons w words =>
    have hw := hwords w List.mem_cons_self
    by_cases hnil : words = []
    · rwa [hnil, instructionOf_singleton]
    · rw [Command.instructionOf, String.intercalate_cons_of_ne_nil hnil, String.toList_append,
        String.toList_append]
      by_cases hempty : w.toList = []
      · rw [hempty]
        simp
      · rwa [List.append_assoc, List.head?_append_of_ne_nil _ hempty]

/-! ## Runs -/

/-- A run is the translation of its words. -/
theorem run_translate {s : Surroundings} (hparser : CommandLine.KeepsWords s.parser)
    {words : List String} (hne : words ≠ []) (hwords : ∀ w ∈ words, w.toList.head? ≠ some '-') :
    Program.run s ("translate" :: words) =
      .ofTranscript (Command.translate (.ofEnvironment s.environment) false words) := by
  obtain ⟨options, hcall, hdefaults⟩ := hparser .translate words hne hwords
  have hreading : s.parser CommandLine.declarations ("translate" :: words) =
      .call .translate words options := hcall
  have hjson : options.get? "json" = some (.flag false) := hdefaults _ List.mem_cons_self
  simp only [Program.run, hreading, Program.perform, hjson]
  rfl

/-- The translation of words depends only on what they are joined to. -/
theorem translate_instructionOf (settings : Settings) (json : Bool) (words : List String) :
    Command.translate settings json [Command.instructionOf words] =
      Command.translate settings json words := by
  rw [Command.translate, instructionOf_singleton]
  rfl

/-- The hint for a fault of an instruction. -/
def faultHint (code : String) : String :=
  if code = "N003" then
    "Variable names start with a letter or underscore and are not Python keywords"
  else
    "Dictionary entries are written as key:value, separated by commas"

/-- The lines that report a failure of a rule. -/
def faultLines (ruleId : String) (d : Diagnostic) : List Console.Event :=
  [.line .error s!"\x1b[31m✗\x1b[0m Rule '{ruleId}' matched but could not render the instruction",
   .line .error s!"\x1b[31m✗\x1b[0m [{d.code}] {d.message}",
   .line .warn s!"\x1b[33m⚠\x1b[0m {faultHint d.code}"]

theorem report_synthesis {id : String} {d : Diagnostic}
    (hhint : Failure.hint? d.code = some (faultHint d.code)) :
    (Failure.synthesis id d).report = faultLines id d := by
  simp only [Failure.report, Failure.reportLine, hhint, Console.error_eq, Console.warn_eq]
  rfl

/-- Every failure of the standard rules has a report of three lines. -/
theorem report_of_translate_eq_error {instruction : String} {e : TranslationError}
    (h : standardRules.translate instruction = .error e) : ∃ id d, e = .synthesis id d ∧
      (Failure.ofTranslationError e).report = faultLines id d := by
  rcases eq_of_translate_eq_error h with ⟨body, before, piece, -, -, rfl⟩ |
    ⟨operand, number, message, -, -, rfl⟩
  · refine ⟨_, _, rfl, report_synthesis ?_⟩
    have hhint : ∀ code ∈ ["N001", "N002"], Failure.hint? code = some (faultHint code) := by
      decide
    refine hhint _ ?_
    rw [code_fault]
    split
    · simp
    · simp
  · exact ⟨_, _, rfl, report_synthesis rfl⟩

/-- What is shown for a translation. -/
def translationLines (t : Translation) : List Console.Event :=
  .line .log t.text ::
    if t = .unrecognized then
      [.line .warn "\x1b[33m⚠\x1b[0m No rule matched this instruction"]
    else []

theorem translationEvents_eq (t : Translation) :
    Command.translationEvents false t = translationLines t := by
  cases t with
  | unrecognized =>
    simp [Command.translationEvents, translationLines, Console.warn_eq, Console.plain_eq]
  | _ => rfl

/-- With a parser that keeps words, a run with the words of an instruction is the run with the
joined words as one word. If the instruction has a translation, the run shows what the command
shows, the log records and the translation, and ends with code 0. Otherwise it shows nothing on
standard output: the log records, the rule, the fault and its hint go to the error stream, in this
order, and the run ends with code 1. -/
theorem run_translate_words {s : Surroundings} (hparser : CommandLine.KeepsWords s.parser)
    {words : List String} (hne : words ≠ []) (hwords : ∀ w ∈ words, w.toList.head? ≠ some '-') :
    let instruction := " ".intercalate words
    let ended := Program.run s ("translate" :: words)
    let records := Console.records
      (standardRules.translationRecords (.ofEnvironment s.environment) instruction)
    ended = Program.run s ["translate", instruction] ∧
    (∀ t, standardRules.translate instruction = .ok t →
      (Command.translate (.ofEnvironment s.environment) false words).events =
        records ++ translationLines t ∧
      ended = ⟨(records ++ translationLines t).map .event, 0⟩) ∧
    ∀ e, standardRules.translate instruction = .error e →
      ∃ id d, e = .synthesis id d ∧
        ended = ⟨(records ++ faultLines id d).map .event, 1⟩ ∧
        ∀ text, Program.Shown.event (.line .log text) ∉ ended.shown := by
  intro instruction ended records
  have hrun : ended = _ := run_translate hparser hne hwords
  have hquoted := run_translate hparser (List.cons_ne_nil (Command.instructionOf words) [])
    (List.forall_mem_singleton.2 (head_instructionOf_ne_dash hwords))
  rw [translate_instructionOf] at hquoted
  refine ⟨hrun.trans hquoted.symm, fun t ht => ?_, fun e he => ?_⟩
  · have htranslate : standardRules.translate (Command.instructionOf words) = .ok t := ht
    have hevents : (Command.translate (.ofEnvironment s.environment) false words).events =
        records ++ translationLines t := by
      simp only [Command.translate, htranslate, translationEvents_eq]
      rfl
    refine ⟨hevents, ?_⟩
    rw [hrun, Program.Ended.ofTranscript, ← hevents]
    simp only [Transcript.allEvents, Transcript.finalExitCode, Command.translate, htranslate]
  · have htranslate : standardRules.translate (Command.instructionOf words) = .error e := he
    obtain ⟨id, d, hid, hreport⟩ := report_of_translate_eq_error he
    have hended : ended = ⟨(records ++ faultLines id d).map .event, 1⟩ := by
      rw [hrun, Program.Ended.ofTranscript]
      simp only [Transcript.allEvents, Transcript.finalExitCode, Command.translate, htranslate,
        hreport]
      rfl
    refine ⟨id, d, hid, hended, fun text hmem => ?_⟩
    rw [hended] at hmem
    simp [records, Console.records, faultLines] at hmem

/-! ## A parser -/

/-- A parser of command lines without options: the first word names the command. -/
def wordParser : CommandLine.Parser := fun declarations words =>
  match words with
  | [] => .noCommand ""
  | name :: words =>
    match declarations.find? (·.name == name) with
    | none => .noCommand ""
    | some c => .call c.verb words (c.options.filterMap fun o => o.default.map (o.name, ·))

theorem keepsWords_wordParser : CommandLine.KeepsWords wordParser := by
  intro verb words _ _
  cases verb <;> exact ⟨_, rfl, by decide⟩

/-- Words that are empty, look like numbers or options with values, or are the names of commands. -/
theorem run_translate_odd_words :
    let s : Surroundings :=
      { environment := [("LOG_LEVEL", "DEBUG")], input := "", file := fun _ => .missing,
        runner := fun _ => .error "", parser := wordParser, compile := fun _ _ => ⟨true, none⟩,
        notJson := "" }
    let words := ["append", "", "007", "json=\"1\"", "rules", "to", "list"]
    let malformed := ["if", "1e5", "equals", "007", "then", "print", "selftest"]
    CommandLine.KeepsWords wordParser ∧
    Program.run s ("translate" :: words) =
      Program.run s ["translate", "append  007 json=\"1\" rules to list"] ∧
    (Program.run s ("translate" :: words)).exitCode = 0 ∧
    Program.Shown.event (.line .log "my_list.append(\"007 json=\\\"1\\\" rules\")") ∈
      (Program.run s ("translate" :: words)).shown ∧
    Program.run s ("translate" :: malformed) =
      Program.run s ["translate", "if 1e5 equals 007 then print selftest"] ∧
    (Program.run s ("translate" :: malformed)).exitCode = 1 ∧
    Program.Shown.event
        (.line .error "\x1b[31m✗\x1b[0m [N003] '1e5' is not a valid variable name") ∈
      (Program.run s ("translate" :: malformed)).shown := by
  intro s words malformed
  have hjoined : " ".intercalate words = "append  007 json=\"1\" rules to list" := by decide
  have hjoined' : " ".intercalate malformed = "if 1e5 equals 007 then print selftest" := by decide
  have ht : standardRules.translate (" ".intercalate words) =
      .ok (.rendered "append-list" "my_list.append(\"007 json=\\\"1\\\" rules\")") := by
    rw [hjoined, standardRules_eq_map]
    decide +kernel
  have he : standardRules.translate (" ".intercalate malformed) =
      .error (.synthesis "conditional" (.invalidVariable "1e5" 3)) := by
    rw [hjoined', standardRules_eq_map]
    decide +kernel
  have hparser : CommandLine.KeepsWords s.parser := keepsWords_wordParser
  obtain ⟨hsame, htranslated, -⟩ :=
    run_translate_words hparser (show words ≠ [] by decide) (by decide)
  obtain ⟨hsame', -, hfailed⟩ :=
    run_translate_words hparser (show malformed ≠ [] by decide) (by decide)
  obtain ⟨-, hended⟩ := htranslated _ ht
  obtain ⟨id, d, hid, hended', -⟩ := hfailed _ he
  cases hid
  rw [hjoined] at hsame
  rw [hjoined'] at hsame'
  refine ⟨keepsWords_wordParser, hsame, ?_, ?_, hsame', ?_, ?_⟩
  · rw [hended]
  · rw [hended]
    simp [translationLines, Translation.text]
  · rw [hended']
  · have hline : .line .error "\x1b[31m✗\x1b[0m [N003] '1e5' is not a valid variable name" ∈
        faultLines "conditional" (.invalidVariable "1e5" 3) :=
      List.mem_cons_of_mem _ List.mem_cons_self
    rw [hended', List.map_append]
    exact List.mem_append_right _ (List.mem_map_of_mem hline)

end Phrasebook
