import Phrasebook.Proofs.Json.RoundTrip
import Phrasebook.Proofs.SelfTest.Report
import Phrasebook.Proofs.SelfTest.Validation
import Phrasebook.Proofs.Snippet.Decoding
import Phrasebook.Proofs.Text.Utf8

/-!
# Golden case files

A golden case expects of an instruction just what the instruction translates to. A file of golden
cases, whatever characters the instructions and their translations hold, is read back as those
cases, and each of them passes.

Results:
* `load_contentOf`, `casesOf_listOf`: cases that expect something are loaded from the file that
  lists them.
* `text_ne_empty`: no translation is the empty text.
* `runCases_of_golden`: golden cases pass.
* `check_golden`: a check of a golden file succeeds.
-/

namespace Phrasebook.SelfTest

open Json (Members)

/-! ## The file of a list of cases -/

/-- The content of the file that lists cases. -/
def contentOf (cases : List Case) : List UInt8 :=
  Text.Utf8.encode (Json.array (cases.map Case.toJson)).render.toList

theorem exact_toJson (c : Case) : Json.Exact c.toJson :=
  .object (Json.exact_of_strings [(instructionKey, c.instruction), (expectedKey, c.expected)])

/-- A case is read as it was written. -/
theorem reread_toJson (c : Case) : c.toJson.reread = c.toJson := by
  have hinstruction : Json.arrayIndex? instructionKey = none := by decide +kernel
  have hexpected : Json.arrayIndex? expectedKey = none := by decide +kernel
  have horder : Json.writingOrder
      [(instructionKey, Json.string c.instruction), (expectedKey, .string c.expected)] =
      [(instructionKey, .string c.instruction), (expectedKey, .string c.expected)] := by
    refine Json.writingOrder_eq_self fun m hm => ?_
    simp only [List.mem_cons, List.not_mem_nil, or_false] at hm
    rcases hm with rfl | rfl
    · exact hinstruction
    · exact hexpected
  rw [Case.toJson, Json.reread_object, horder]
  rfl

/-- The value that lists cases, its texts as code points. -/
def listOf (cases : List Case) : Json Text.Points := .array (cases.map fun c => c.toJson.points)

theorem parsePoints?_contentOf (cases : List Case) :
    Json.parsePoints? (Text.Utf8.decode (contentOf cases)) = some (listOf cases) := by
  have hexact : Json.Exact (.array (cases.map Case.toJson)) := by
    refine .array fun item hitem => ?_
    obtain ⟨c, -, rfl⟩ := List.mem_map.1 hitem
    exact exact_toJson c
  have hreread : (cases.map Case.toJson).map Json.reread = cases.map Case.toJson := by
    rw [List.map_map]
    exact List.map_congr_left fun c _ => reread_toJson c
  rw [contentOf, Text.Utf8.decode_encode, Json.parsePoints?_render hexact, Json.reread,
    Json.rereadItems_eq_map, hreread, Json.points, Json.mapText, Json.mapTextItems_eq_map,
    List.map_map]
  rfl

theorem isCase_toJson {c : Case} (h : c.expected ≠ "") : IsCase c.toJson.points := by
  refine ⟨_, Text.points c.instruction, Text.points c.expected, rfl, fun hnil => h ?_,
    fun _ => rfl⟩
  exact Text.points_inj.1 hnil

theorem caseOf?_toJson (c : Case) : caseOf? c.toJson.points = some c := by
  have hi : Members.get? (Json.mapTextMembers Text.points
      [(instructionKey, .string c.instruction), (expectedKey, .string c.expected)])
      (Text.points instructionKey) = some (.string (Text.points c.instruction)) := rfl
  have he : Members.get? (Json.mapTextMembers Text.points
      [(instructionKey, .string c.instruction), (expectedKey, .string c.expected)])
      (Text.points expectedKey) = some (.string (Text.points c.expected)) := get?_expected _ _
  simp only [Case.toJson, Json.mapText, caseOf?, hi, he, Text.ofPoints_points]

/-- The cases of the value that lists them. -/
theorem casesOf_listOf (cases : List Case) : casesOf (listOf cases) = cases := by
  rw [listOf, casesOf, List.filterMap_map]
  simp only [Function.comp_def, caseOf?_toJson, List.filterMap_some]

/-- Cases that expect something are loaded from the file that lists them. -/
theorem load_contentOf {compile : Schema → Validator}
    (hcheck : Checks caseSchema (compile caseSchema)) {cases : List Case}
    (h : ∀ c ∈ cases, c.expected ≠ "") (notJson path : String) :
    load compile notJson path (.bytes (contentOf cases)) = .ok (listOf cases) := by
  have hcases : ∀ item ∈ cases.map fun c => c.toJson.points, IsCase item := by
    intro item hitem
    obtain ⟨c, hc, rfl⟩ := List.mem_map.1 hitem
    exact isCase_toJson (h c hc)
  simp only [load, parsePoints?_contentOf]
  exact (validate_eq_ok_iff hcheck).2 ⟨rfl, _, rfl, hcases⟩

/-! ## Golden cases -/

/-- The case expects of an instruction just what the instruction translates to. -/
def IsGolden (instruction : String) (c : Case) : Prop :=
  ∃ t, standardRules.translate instruction = .ok t ∧ c = ⟨instruction, t.text⟩

/-- No translation is the empty text. -/
theorem text_ne_empty {instruction : String} {t : Translation}
    (h : standardRules.translate instruction = .ok t) : t.text ≠ "" := by
  cases t with
  | rendered id code =>
    intro hempty
    obtain ⟨q, -, -, hread⟩ := requested_of_translate h
    have hcode : code = "" := hempty
    rw [hcode] at hread
    cases hread
  | unrecognized => decide
  | empty => decide

/-- What becomes of a golden case. -/
def passedOutcome (c : Case) : Outcome := ⟨c.instruction, c.expected, c.expected, true⟩

theorem runCase_of_golden {instruction : String} {c : Case} (h : IsGolden instruction c) :
    runCase standardRules c = .ok (passedOutcome c) := by
  obtain ⟨t, ht, rfl⟩ := h
  simp only [runCase, ht, contains_iff.2 List.infix_rfl, passedOutcome]

/-- Golden cases pass. -/
theorem runCases_of_golden {instructions : List String} {cases : List Case}
    (h : List.Forall₂ IsGolden instructions cases) :
    runCases standardRules cases = .ok (cases.map passedOutcome) := by
  induction h with
  | nil => rfl
  | cons hc _ ih => simp only [runCases, runCase_of_golden hc, ih, List.map_cons]

theorem exists_golden {instructions : List String}
    (h : ∀ s ∈ instructions, ∃ t, standardRules.translate s = .ok t) :
    ∃ cases, List.Forall₂ IsGolden instructions cases := by
  induction instructions with
  | nil => exact ⟨[], .nil⟩
  | cons s instructions ih =>
    obtain ⟨t, ht⟩ := h s List.mem_cons_self
    obtain ⟨cases, hcases⟩ := ih fun s hs => h s (List.mem_cons_of_mem _ hs)
    exact ⟨⟨s, t.text⟩ :: cases, .cons ⟨t, ht, rfl⟩ hcases⟩

theorem expected_ne_empty_of_golden {instructions : List String} {cases : List Case}
    (h : List.Forall₂ IsGolden instructions cases) : ∀ c ∈ cases, c.expected ≠ "" := by
  induction h with
  | nil => simp
  | cons hc _ ih =>
    obtain ⟨t, ht, rfl⟩ := hc
    exact List.forall_mem_cons.2 ⟨text_ne_empty ht, ih⟩

/-! ## Reports -/

theorem passed_of_golden (cases : List Case) :
    (Report.mk (cases.map passedOutcome)).passed = cases.length := by
  rw [Report.passed, List.countP_map]
  exact List.countP_eq_length.2 fun _ _ => rfl

theorem failed_of_golden (cases : List Case) :
    (Report.mk (cases.map passedOutcome)).failed = 0 := by
  rw [Report.failed, passed_of_golden, List.length_map, Nat.sub_self]

/-- With a validator that checks the schema of case files, a file of golden cases is loaded as those
cases, in their order, and a check of it succeeds: each outcome is what was expected, and no exit
code is set. -/
theorem check_golden {compile : Schema → Validator}
    (hcheck : Checks caseSchema (compile caseSchema)) {instructions : List String}
    (h : ∀ s ∈ instructions, ∃ t, standardRules.translate s = .ok t) (settings : Settings)
    (verbose : Bool) (notJson path : String) :
    ∃ cases, List.Forall₂ IsGolden instructions cases ∧
      let loaded := load compile notJson path (.bytes (contentOf cases))
      let transcript := Command.check settings verbose (loaded.map casesOf)
      loaded = .ok (listOf cases) ∧ loaded.map casesOf = .ok cases ∧
      ∃ r : Report, transcript.result = .ok r ∧
        r.outcomes = cases.map (fun c => ⟨c.instruction, c.expected, c.expected, true⟩) ∧
        r.passed = instructions.length ∧ r.failed = 0 ∧ transcript.exitCode = 0 := by
  obtain ⟨cases, hcases⟩ := exists_golden h
  have hload := load_contentOf hcheck (expected_ne_empty_of_golden hcases) notJson path
  have hmap : (load compile notJson path (.bytes (contentOf cases))).map casesOf = .ok cases := by
    rw [hload, Except.map, casesOf_listOf]
  have hrun : run standardRules cases = .ok ⟨cases.map passedOutcome⟩ := by
    rw [run, runCases_of_golden hcases]
    rfl
  refine ⟨cases, hcases, hload, hmap, ⟨cases.map passedOutcome⟩, ?_, rfl, ?_,
    failed_of_golden cases, ?_⟩
  · simp only [hmap, Command.check, hrun]
  · rw [passed_of_golden, hcases.length_eq]
  · simp only [hmap, Command.check, hrun, failed_of_golden, if_true]

/-- Quotes, backslashes, control characters and characters beyond U+FFFF come back as they were. -/
theorem check_golden_escapes :
    let instructions := ["Create list 007, \"]\\, -x", "\x01\n😀", " "]
    let cases : List Case :=
      [⟨"Create list 007, \"]\\, -x", "my_list = [7, \"\\\"]\\\\\", \"-x\"]"⟩,
        ⟨"\x01\n😀", "# I don't understand. Type 'help' for available commands."⟩,
        ⟨" ", "# Please enter an instruction"⟩]
    let loaded := load checker "" "cases.json" (.bytes (contentOf cases))
    Checks caseSchema (checker caseSchema) ∧
      (∀ s ∈ instructions, ∃ t, standardRules.translate s = .ok t) ∧
      loaded = .ok (listOf cases) ∧
      ∃ r : Report, (Command.check (.ofEnvironment []) false (loaded.map casesOf)).result = .ok r ∧
        r.passed = 3 ∧ r.failed = 0 := by
  intro instructions cases loaded
  have hlist : standardRules.translate "Create list 007, \"]\\, -x" =
      .ok (.rendered "create-list" "my_list = [7, \"\\\"]\\\\\", \"-x\"]") := by
    rw [standardRules_eq_map]
    decide +kernel
  have hcontrol : standardRules.translate "\x01\n😀" = .ok .unrecognized := by
    rw [standardRules_eq_map]
    decide +kernel
  have hblank : standardRules.translate " " = .ok .empty := by
    rw [standardRules_eq_map]
    decide +kernel
  have h : ∀ s ∈ instructions, ∃ t, standardRules.translate s = .ok t := by
    intro s hs
    simp only [instructions, List.mem_cons, List.not_mem_nil, or_false] at hs
    rcases hs with rfl | rfl | rfl
    · exact ⟨_, hlist⟩
    · exact ⟨_, hcontrol⟩
    · exact ⟨_, hblank⟩
  have hchecks := checks_checker caseSchema
  obtain ⟨golden, hgolden, hload, -, r, hresult, -, hpassed, hfailed, -⟩ :=
    check_golden hchecks h (.ofEnvironment []) false "" "cases.json"
  obtain rfl : golden = cases := by
    simp only [instructions] at hgolden
    rcases hgolden with _ | ⟨⟨t₁, ht₁, rfl⟩, _ | ⟨⟨t₂, ht₂, rfl⟩, _ | ⟨⟨t₃, ht₃, rfl⟩, ⟨⟩⟩⟩⟩
    obtain rfl := Except.ok.inj (hlist.symm.trans ht₁)
    obtain rfl := Except.ok.inj (hcontrol.symm.trans ht₂)
    obtain rfl := Except.ok.inj (hblank.symm.trans ht₃)
    rfl
  exact ⟨hchecks, h, hload, r, hresult, hpassed, hfailed⟩

end Phrasebook.SelfTest
