import Phrasebook.Proofs.Rule.Order
import Phrasebook.Proofs.Snippet.Failure

/-!
# Instructions that cannot be translated

The standard rules fail for two kinds of instruction only: a dictionary with a faulty piece, and a
comparison whose left side is no operand. No instruction brings out that a snippet does not fit its
trigger.

Results:
* `translate_of_firstFaulty`, `translate_of_notOperand`: how the two kinds fail.
* `eq_of_translate_eq_error`, `exists_synthesis_of_translate`: every failure is one of these.
* `translate_standardRules_outcome`: when there is an answer, and which error there is otherwise.
-/

namespace Phrasebook

open Phrasebook.Text

/-! ## The two kinds of instruction -/

/-- The instruction asks for the dictionary of a text. -/
def AsksDictionary (n body : List Char) : Prop :=
  n = "create dictionary ".toList ++ body ∧ Slot.text.Holds body

/-- The instruction asks for a comparison of a text with a number, and for a message. -/
def AsksComparison (n operand number message : List Char) : Prop :=
  n = "if ".toList ++ (operand ++ (" equals ".toList ++ (number ++
      (" then print ".toList ++ message)))) ∧
    Slot.name.Holds operand ∧ Slot.number.Holds number ∧ Slot.text.Holds message

theorem fills_slot {k : Slot} {w : List Char} (hw : k.Holds w) (o : Nat) :
    Fills [.slot k] o w [⟨String.ofList w, o⟩] := by
  have h : Fills [.slot k] o (w ++ []) [⟨String.ofList w, o⟩] := .slot hw (.nil _)
  rwa [List.append_nil] at h

theorem fit_createDictionary_iff {s : String} {cs : List Capture} :
    Template.Fit (templatesOf "create-dictionary") s cs ↔
      ∃ body, AsksDictionary s.toList body ∧ cs = [⟨String.ofList body, 18⟩] := by
  have htemplates : templatesOf "create-dictionary" =
      [[.words "create dictionary ", .slot .text]] := by
    simp [templatesOf, standardTemplates, List.lookup_cons]
  rw [htemplates, Template.Fit]
  simp only [List.mem_singleton, exists_eq_left]
  constructor
  · intro h
    generalize s.toList = n at h ⊢
    cases h with
    | words h =>
      cases h with
      | slot hw h =>
        cases h
        exact ⟨_, ⟨by simp, hw⟩, rfl⟩
  · rintro ⟨body, ⟨hs, hbody⟩, rfl⟩
    rw [hs]
    exact .words (fills_slot hbody _)

/-- The captures of a comparison. -/
def comparisonCaptures (operand number message : List Char) : List Capture :=
  let start := 3 + units operand + 8
  [⟨String.ofList operand, 3⟩, ⟨String.ofList number, start⟩,
    ⟨String.ofList message, start + units number + 12⟩]

theorem fit_conditional_iff {s : String} {cs : List Capture} :
    Template.Fit (templatesOf "conditional") s cs ↔ ∃ operand number message,
      AsksComparison s.toList operand number message ∧
      cs = comparisonCaptures operand number message := by
  have htemplates : templatesOf "conditional" =
      [[.words "if ", .slot .name, .words " equals ", .slot .number, .words " then print ",
        .slot .text]] := by
    simp [templatesOf, standardTemplates, List.lookup_cons]
  rw [htemplates, Template.Fit]
  simp only [List.mem_singleton, exists_eq_left]
  constructor
  · intro h
    generalize s.toList = n at h ⊢
    rcases h with _ | h | _
    rcases h with _ | _ | ⟨hoperand, h⟩
    rcases h with _ | h | _
    rcases h with _ | _ | ⟨hnumber, h⟩
    rcases h with _ | h | _
    rcases h with _ | _ | ⟨hmessage, h⟩
    cases h
    exact ⟨_, _, _, ⟨by simp, hoperand, hnumber, hmessage⟩, rfl⟩
  · rintro ⟨operand, number, message, ⟨hs, hoperand, hnumber, hmessage⟩, rfl⟩
    rw [hs]
    exact .words (.slot hoperand (.words (.slot hnumber (.words (fills_slot hmessage _)))))

/-! ## How they fail -/

/-- An instruction is translated by the snippet of the rule that the table answers with. -/
theorem translate_of_match {d : RuleDefinition} {s : String} (hne : normalize s ≠ "")
    {cs : List Capture} (h : standardRules.match? (normalize s) = some (templateRule d, cs)) :
    standardRules.translate s =
      match d.snippet.render cs standardRules.catalog with
      | .ok code => .ok (.rendered d.id code)
      | .error e => .error (.ofSnippetError d.id e) := by
  rw [RuleTable.translate]
  simp only [if_neg hne, h]
  rfl

/-- An instruction of a rule that overlaps no other one is translated by its snippet. -/
theorem translate_of_fit {d : RuleDefinition} (hd : d ∈ standardDefinitions)
    (hspecial : d.id ∉ specialPrints) (htext : d.id ≠ "print-text") {s : String}
    (hne : normalize s ≠ "") {cs : List Capture}
    (h : Template.Fit (templatesOf d.id) (normalize s) cs) :
    standardRules.translate s =
      match d.snippet.render cs standardRules.catalog with
      | .ok code => .ok (.rendered d.id code)
      | .error e => .error (.ofSnippetError d.id e) := by
  have hmem : templateRule d ∈ standardRules := by
    rw [standardRules_eq_map]
    exact List.mem_map_of_mem hd
  exact translate_of_match hne (match?_of_fit hmem hspecial htext h)

/-- A dictionary with a faulty piece is reported with the first one. -/
theorem translate_of_firstFaulty {s : String} {body piece : List Char}
    {before : List (List Char)} (h : AsksDictionary (normalize s).toList body)
    (hfirst : FirstFaulty body before piece) : standardRules.translate s =
      .error (.synthesis "create-dictionary"
        (Pair.fault (18 + units (before.flatMap (· ++ [',']))) piece)) := by
  have hne : normalize s ≠ "" := by
    intro hnil
    rw [hnil] at h
    cases h.1
  obtain ⟨d, hd, hid, hsnippet⟩ : ∃ d ∈ standardDefinitions, d.id = "create-dictionary" ∧
      d.snippet = .createDictionary := by
    simp [standardDefinitions]
  have hfit : Template.Fit (templatesOf d.id) (normalize s) [⟨String.ofList body, 18⟩] := by
    rw [hid]
    exact fit_createDictionary_iff.2 ⟨body, h, rfl⟩
  have hrender := render_createDictionary_of_firstFaulty (a := ⟨String.ofList body, 18⟩)
    standardRules.catalog (by rwa [String.toList_ofList])
  rw [translate_of_fit hd (by rw [hid]; decide) (by rw [hid]; decide) hne hfit, hsnippet, hrender,
    hid]
  rfl

/-- A comparison is translated by the snippet of comparisons. -/
theorem translate_of_asksComparison {s : String} {operand number message : List Char}
    (h : AsksComparison (normalize s).toList operand number message) :
    standardRules.translate s =
      match Snippet.conditional.render (comparisonCaptures operand number message)
        standardRules.catalog with
      | .ok code => .ok (.rendered "conditional" code)
      | .error e => .error (.ofSnippetError "conditional" e) := by
  have hne : normalize s ≠ "" := by
    intro hnil
    rw [hnil] at h
    cases h.1
  obtain ⟨d, hd, hid, hsnippet⟩ : ∃ d ∈ standardDefinitions, d.id = "conditional" ∧
      d.snippet = .conditional := by
    simp [standardDefinitions]
  have hfit : Template.Fit (templatesOf d.id) (normalize s)
      (comparisonCaptures operand number message) := by
    rw [hid]
    exact fit_conditional_iff.2 ⟨operand, number, message, h, rfl⟩
  rw [translate_of_fit hd (by rw [hid]; decide) (by rw [hid]; decide) hne hfit, hsnippet, hid]

/-- A comparison whose left side is no operand is reported with the left side. -/
theorem translate_of_notOperand {s : String} {operand number message : List Char}
    (h : AsksComparison (normalize s).toList operand number message)
    (hno : NotOperand operand) : standardRules.translate s =
      .error (.synthesis "conditional" (.invalidVariable (String.ofList operand) 3)) := by
  have hholds : Slot.name.Holds (String.ofList operand).toList := by
    rw [String.toList_ofList]
    exact h.2.1
  have hrender := render_conditional_of_notOperand (a := ⟨String.ofList operand, 3⟩)
    (b := ⟨String.ofList number, 3 + units operand + 8⟩)
    (c := ⟨String.ofList message, 3 + units operand + 8 + units number + 12⟩)
    standardRules.catalog hholds (by rwa [String.toList_ofList])
  rw [translate_of_asksComparison h, comparisonCaptures, hrender]
  rfl

/-! ## Nothing else fails -/

/-- A failure comes from a definition whose snippet cannot be rendered. -/
theorem exists_render_error_of_translate {s : String} {e : TranslationError}
    (h : standardRules.translate s = .error e) : ∃ d ∈ standardDefinitions, ∃ cs f,
      Template.Fit (templatesOf d.id) (normalize s) cs ∧
      d.snippet.render cs standardRules.catalog = .error f := by
  simp only [RuleTable.translate] at h
  split at h
  · cases h
  · cases hm : standardRules.match? (normalize s) with
    | none =>
      rw [hm] at h
      cases h
    | some found =>
      obtain ⟨r, cs⟩ := found
      obtain ⟨d, hd, rfl, hfit⟩ := exists_fit_of_match? hm
      simp only [hm, RuleTable.translateMatched] at h
      split at h
      · cases h
      · next f hf => exact ⟨d, hd, cs, f, hfit, hf⟩

theorem id_eq_of_snippet : ∀ d ∈ standardDefinitions,
    (d.snippet = .createDictionary → d.id = "create-dictionary") ∧
    (d.snippet = .conditional → d.id = "conditional") := by
  simp [standardDefinitions]

/-- Every failure of the standard rules is that of a dictionary or of a comparison. -/
theorem eq_of_translate_eq_error {s : String} {e : TranslationError}
    (h : standardRules.translate s = .error e) :
    (∃ body before piece, AsksDictionary (normalize s).toList body ∧ FirstFaulty body before piece ∧
      e = .synthesis "create-dictionary"
        (Pair.fault (18 + units (before.flatMap (· ++ [',']))) piece)) ∨
    ∃ operand number message, AsksComparison (normalize s).toList operand number message ∧
      NotOperand operand ∧
      e = .synthesis "conditional" (.invalidVariable (String.ofList operand) 3) := by
  obtain ⟨d, hd, cs, f, hfit, hf⟩ := exists_render_error_of_translate h
  obtain ⟨hdictionary, hconditional⟩ := id_eq_of_snippet d hd
  by_cases hsnippet : d.snippet = .createDictionary
  · rw [hdictionary hsnippet] at hfit
    rw [hsnippet] at hf
    obtain ⟨body, hasks, rfl⟩ := fit_createDictionary_iff.1 hfit
    by_cases hfirst : ∃ before piece, FirstFaulty body before piece
    · obtain ⟨before, piece, hfirst⟩ := hfirst
      rw [translate_of_firstFaulty hasks hfirst] at h
      exact .inl ⟨body, before, piece, hasks, hfirst, (Except.error.inj h).symm⟩
    · obtain ⟨code, hcode⟩ := exists_render_createDictionary (a := ⟨String.ofList body, 18⟩)
        standardRules.catalog (by rwa [String.toList_ofList])
      rw [hcode] at hf
      cases hf
  · by_cases hsnippet' : d.snippet = .conditional
    · rw [hconditional hsnippet'] at hfit
      rw [hsnippet'] at hf
      obtain ⟨operand, number, message, hasks, rfl⟩ := fit_conditional_iff.1 hfit
      by_cases hno : NotOperand operand
      · rw [translate_of_notOperand hasks hno] at h
        exact .inr ⟨operand, number, message, hasks, hno, (Except.error.inj h).symm⟩
      · obtain ⟨-, hoperand, hnumber, -⟩ := hasks
        rw [← String.toList_ofList (l := operand)] at hoperand hno
        rw [← String.toList_ofList (l := number)] at hnumber
        obtain ⟨code, hcode⟩ := exists_render_conditional (a := ⟨String.ofList operand, 3⟩)
          (b := ⟨String.ofList number, 3 + units operand + 8⟩)
          (c := ⟨String.ofList message, 3 + units operand + 8 + units number + 12⟩)
          standardRules.catalog hoperand hnumber hno
        rw [comparisonCaptures, hcode] at hf
        cases hf
    · obtain ⟨code, hcode⟩ := exists_render_eq_ok standardRules.catalog hsnippet hsnippet'
        (forall₂_holds_of_fit hd hfit)
      rw [hcode] at hf
      cases hf

/-- Every failure of the standard rules is that of a rule that accepts the instruction. -/
theorem exists_synthesis_of_translate {s : String} {e : TranslationError}
    (h : standardRules.translate s = .error e) : ∃ id d, e = .synthesis id d := by
  rcases eq_of_translate_eq_error h with ⟨_, _, _, -, -, rfl⟩ | ⟨_, _, _, -, -, rfl⟩
  · exact ⟨_, _, rfl⟩
  · exact ⟨_, _, rfl⟩

/-! ## Reports -/

/-- The words in front of what the message of a code quotes, and those behind it. -/
def quoteFrame (code : String) : String × String :=
  if code = "N001" then ("Expected exactly one ':' in dictionary pair '", "'")
  else if code = "N002" then ("Dictionary pair '", "' has an empty key")
  else ("'", "' is not a valid variable name")

/-- The message of the report quotes the fragment. -/
def Quotes (d : Diagnostic) (fragment : List Char) : Prop :=
  d.message = (quoteFrame d.code).1 ++ String.ofList fragment ++ (quoteFrame d.code).2

theorem code_fault (offset : Nat) (piece : List Char) :
    (Pair.fault offset piece).code = if piece.count ':' = 1 then "N002" else "N001" := by
  rw [Pair.fault]
  split <;> rfl

theorem quotes_fault (offset : Nat) (piece : List Char) :
    Quotes (Pair.fault offset piece) (trim piece) := by
  rw [Pair.fault]
  split <;> rfl

theorem quotes_invalidVariable (v : List Char) (offset : Nat) :
    Quotes (.invalidVariable (String.ofList v) offset) v :=
  rfl

/-- What the standard rules make of an instruction: nothing of a blank one; an error of a dictionary
with a faulty piece, about the first of these, and of a comparison whose left side is no operand;
and no other error. -/
theorem translate_standardRules_outcome (s : String) :
    (standardRules.translate s = .ok .empty ↔ normalize s = "") ∧
    ((∃ e, standardRules.translate s = .error e) ↔
      (∃ body, AsksDictionary (normalize s).toList body ∧
        ∃ piece ∈ splitAt ',' body, IsFaulty piece) ∨
      ∃ operand number message, AsksComparison (normalize s).toList operand number message ∧
        NotOperand operand) ∧
    (∀ body before piece, AsksDictionary (normalize s).toList body →
      FirstFaulty body before piece →
      ∃ d, standardRules.translate s = .error (.synthesis "create-dictionary" d) ∧
        Quotes d (trim piece) ∧ d.code = if piece.count ':' = 1 then "N002" else "N001") ∧
    (∀ operand number message, AsksComparison (normalize s).toList operand number message →
      NotOperand operand →
      ∃ d, standardRules.translate s = .error (.synthesis "conditional" d) ∧ Quotes d operand ∧
        d.code = "N003") ∧
    ∀ e, standardRules.translate s = .error e → ∃ id d, e = .synthesis id d := by
  refine ⟨?_, ⟨?_, ?_⟩, ?_, ?_, ?_⟩
  · constructor
    · intro h
      by_contra hne
      simp only [RuleTable.translate, if_neg hne] at h
      cases hm : standardRules.match? (normalize s) with
      | none => rw [hm] at h; cases h
      | some found =>
        rw [hm] at h
        simp only [RuleTable.translateMatched] at h
        split at h <;> cases h
    · intro h
      simp [RuleTable.translate, h]
  · rintro ⟨e, he⟩
    rcases eq_of_translate_eq_error he with ⟨body, before, piece, hasks, hfirst, -⟩ |
      ⟨operand, number, message, hasks, hno, -⟩
    · exact .inl ⟨body, hasks, (exists_firstFaulty_iff body).1 ⟨before, piece, hfirst⟩⟩
    · exact .inr ⟨operand, number, message, hasks, hno⟩
  · rintro (⟨body, hasks, hfaulty⟩ | ⟨operand, number, message, hasks, hno⟩)
    · obtain ⟨before, piece, hfirst⟩ := (exists_firstFaulty_iff body).2 hfaulty
      exact ⟨_, translate_of_firstFaulty hasks hfirst⟩
    · exact ⟨_, translate_of_notOperand hasks hno⟩
  · intro body before piece hasks hfirst
    exact ⟨_, translate_of_firstFaulty hasks hfirst, quotes_fault _ piece, code_fault _ piece⟩
  · intro operand number message hasks hno
    exact ⟨_, translate_of_notOperand hasks hno, quotes_invalidVariable operand 3, rfl⟩
  · exact fun e => exists_synthesis_of_translate

/-- The first faulty piece is reported, also where a later one has no colon at all. -/
theorem translate_blank_key : ∃ d,
    standardRules.translate "Create dictionary a:1, :2,b" =
      .error (.synthesis "create-dictionary" d) ∧ Quotes d ":2".toList ∧ d.code = "N002" := by
  obtain ⟨-, -, hdictionary, -, -⟩ := translate_standardRules_outcome "Create dictionary a:1, :2,b"
  have hasks : AsksDictionary (normalize "Create dictionary a:1, :2,b").toList
      "a:1, :2,b".toList :=
    ⟨by decide +kernel, by simp, List.all_eq_true.1 (by decide +kernel)⟩
  have hfirst : FirstFaulty "a:1, :2,b".toList ["a:1".toList] " :2".toList :=
    ⟨["b".toList], by decide +kernel, by decide +kernel, by decide +kernel⟩
  have htrim : trim " :2".toList = ":2".toList := by decide +kernel
  have hcount : " :2".toList.count ':' = 1 := by decide +kernel
  obtain ⟨d, hd, hquotes, hcode⟩ := hdictionary _ _ _ hasks hfirst
  rw [htrim] at hquotes
  rw [if_pos hcount] at hcode
  exact ⟨d, hd, hquotes, hcode⟩

end Phrasebook
