import Phrasebook.Proofs.Literal.Numeral
import Phrasebook.Proofs.Text.Identifier
import Phrasebook.Proofs.Translation.Failure
import Phrasebook.Proofs.Translation.Normalization

/-!
# The left side of a comparison

The left side of a comparison is a text of letters, numbers and underscores of any script. Digits
stand in the code as their numeral, and any other text as it is. Python takes such a text for a name
only if it is an identifier, which is decided by other properties of its characters.

Results:
* `mem_keywords_iff`: the keywords of Python that an instruction can hold are the reserved words.
* `isIdentifier_iff_of_not_notOperand`: the left sides that are identifiers.
* `translate_of_operand`: the code of a comparison.
* `left_of_comparison`: what stands on the left of the code, and what is rejected.
* `left_not_identifier`: a left side that is no identifier and is not rejected.
-/

namespace Phrasebook

open Phrasebook.Text

/-! ## Keywords -/

/-- The keywords of Python. -/
def keywords : List String :=
  ["False", "None", "True", "and", "as", "assert", "async", "await", "break", "class", "continue",
   "def", "del", "elif", "else", "except", "finally", "for", "from", "global", "if", "import", "in",
   "is", "lambda", "nonlocal", "not", "or", "pass", "raise", "return", "try", "while", "with",
   "yield"]

instance (c : Char) : Decidable (Settled c) := inferInstanceAs (Decidable (_ ∧ _))

theorem mem_keywords_of_mem_reservedWords : ∀ w ∈ Snippet.reservedWords, w ∈ keywords := by
  decide +kernel

/-- Lower-casing leaves all characters of the text where they are. -/
def allSettled (s : List Char) : Bool := s.all fun c => decide (Settled c)

theorem allSettled_iff {s : List Char} : allSettled s = true ↔ ∀ c ∈ s, Settled c := by
  simp [allSettled]

/-- A keyword that is not reserved has a capital letter. -/
theorem mem_reservedWords_or_capital : ∀ w ∈ keywords,
    w ∈ Snippet.reservedWords ∨ allSettled w.toList = false := by
  decide +kernel

theorem mem_keywords_iff {v : List Char} (h : ∀ c ∈ v, Settled c) :
    String.ofList v ∈ keywords ↔ String.ofList v ∈ Snippet.reservedWords := by
  constructor
  · intro hkeyword
    rcases mem_reservedWords_or_capital _ hkeyword with hreserved | hcapital
    · exact hreserved
    · rw [String.toList_ofList, allSettled_iff.2 h] at hcapital
      cases hcapital
  · exact mem_keywords_of_mem_reservedWords _

theorem settled_of_mem_normalize {s : String} {c : Char} (h : c ∈ (normalize s).toList) :
    Settled c := by
  rw [toList_normalize] at h
  exact settled_of_mem_lowerFrom (mem_of_mem_trim h)

/-! ## Operands -/

/-- The left side of a comparison that is no fault is an identifier iff it is regular. -/
theorem isIdentifier_iff_of_not_notOperand {v : List Char} (h : Slot.name.Holds v)
    (hdigits : ¬ AllDigits v) (hno : ¬ NotOperand v) : IsIdentifier v ↔ Regular v := by
  obtain ⟨hne, hall⟩ := h
  obtain ⟨c, v, rfl⟩ := List.exists_cons_of_ne_nil hne
  have hadmits : ∀ d ∈ c :: v, isLetter d = true ∨ isNumber d = true ∨ d = '_' := by
    intro d hd
    have hd := hall d hd
    simp only [Slot.admits, Bool.or_eq_true, beq_iff_eq] at hd
    tauto
  have hstart : ¬ isNumber c = true := fun hnumber => hno ⟨hdigits, .inl ⟨c, rfl, hnumber⟩⟩
  have hc : isLetter c = true ∨ c = '_' := by
    have := hadmits c List.mem_cons_self
    tauto
  exact isIdentifier_iff hc fun d hd => hadmits d (List.mem_cons_of_mem c hd)

section Operand

variable {c : Capture}

theorem ofCapture?_of_digits (h : AllDigits c.text.toList) :
    Snippet.Operand.ofCapture? c = .ok (.integer (decimalValue c.text.toList)) := by
  have hdigits : (!c.text.toList.isEmpty && c.text.toList.all isDigit) = true := by
    simpa [AllDigits] using h
  rw [Snippet.Operand.ofCapture?, if_pos hdigits, integer_of_holds h]
  rfl

theorem ofCapture?_of_name (h : Slot.name.Holds c.text.toList) (hdigits : ¬ AllDigits c.text.toList)
    (hno : ¬ NotOperand c.text.toList) : Snippet.Operand.ofCapture? c = .ok (.variable c.text) := by
  have hfalse : ¬ (!c.text.toList.isEmpty && c.text.toList.all isDigit) = true := by
    simpa [AllDigits] using hdigits
  rcases ofCapture?_eq h with ⟨hyes, -⟩ | ⟨-, o, ho⟩
  · exact absurd hyes hno
  · rw [Snippet.Operand.ofCapture?, if_neg hfalse] at ho ⊢
    split at ho
    · next hname => rw [if_pos hname]
    · cases ho

end Operand

/-! ## Code -/

/-- The code of a comparison with the text on its left. -/
def comparisonCode (left : String) (number message : List Char) : String :=
  "if " ++ left ++ " == " ++ Integer.numeral (decimalValue number) ++ ": print(" ++
    Quoted.quote (String.ofList message) ++ ")"

section Translation

variable {s : String} {operand number message : List Char}

/-- A comparison whose left side is an operand is translated. -/
theorem translate_of_operand (h : AsksComparison (normalize s).toList operand number message)
    {o : Snippet.Operand} (ho : Snippet.Operand.ofCapture? ⟨String.ofList operand, 3⟩ = .ok o) :
    standardRules.translate s =
      .ok (.rendered "conditional" (comparisonCode o.render number message)) := by
  have hnumber : Snippet.integer (String.ofList number) = .ok (decimalValue number : Int) := by
    have hholds : AllDigits (String.ofList number).toList := by
      rw [String.toList_ofList]
      exact h.2.2.1
    rw [integer_of_holds hholds, String.toList_ofList]
  have hrender : Snippet.conditional.render (comparisonCaptures operand number message)
      standardRules.catalog = .ok (comparisonCode o.render number message) := by
    simp only [Snippet.render, comparisonCaptures, Snippet.captureAt, List.getElem?_cons_zero,
      List.getElem?_cons_succ, bind, Except.bind, ho, hnumber]
    rfl
  rw [translate_of_asksComparison h, hrender]

/-- Digits stand on the left as their numeral. -/
theorem translate_of_digits (h : AsksComparison (normalize s).toList operand number message)
    (hdigits : AllDigits operand) : standardRules.translate s = .ok (.rendered "conditional"
      (comparisonCode (Integer.numeral (decimalValue operand)) number message)) := by
  have ho := ofCapture?_of_digits (c := ⟨String.ofList operand, 3⟩)
    (by rwa [String.toList_ofList])
  rw [String.toList_ofList] at ho
  rw [translate_of_operand h ho, Snippet.Operand.render]

/-- A name stands on the left as it is. -/
theorem translate_of_name (h : AsksComparison (normalize s).toList operand number message)
    (hdigits : ¬ AllDigits operand) (hno : ¬ NotOperand operand) : standardRules.translate s =
      .ok (.rendered "conditional" (comparisonCode (String.ofList operand) number message)) := by
  have ho := ofCapture?_of_name (c := ⟨String.ofList operand, 3⟩)
    (by rw [String.toList_ofList]; exact h.2.1) (by rwa [String.toList_ofList])
    (by rwa [String.toList_ofList])
  rw [translate_of_operand h ho, Snippet.Operand.render]

/-- Only a comparison is translated by the rule of comparisons. -/
theorem exists_asksComparison {code : String}
    (h : standardRules.translate s = .ok (.rendered "conditional" code)) :
    ∃ operand number message, AsksComparison (normalize s).toList operand number message := by
  obtain ⟨r, cs, hmatch, hid, -⟩ := exists_render_of_translate h
  obtain ⟨d, -, rfl, hfit⟩ := exists_fit_of_match? hmatch
  have hd : d.id = "conditional" := hid
  rw [hd] at hfit
  obtain ⟨operand, number, message, hasks, -⟩ := fit_conditional_iff.1 hfit
  exact ⟨operand, number, message, hasks⟩

end Translation

/-! ## What stands on the left -/

/-- No text of a name slot has a space in it. -/
theorem space_notMem_of_holds {v : List Char} (h : Slot.name.Holds v) : ' ' ∉ v := by
  intro hmem
  have hadmits := h.2 ' ' hmem
  exact absurd hadmits (by decide +kernel)

/-- On the left of the code of a comparison stands the numeral of the digits there, or a text that
is no keyword and stands there as it is; this text is an identifier iff it is regular. Any other
text is rejected if it is regular or starts with a number. -/
theorem left_of_comparison (s : String) :
    (∀ code, standardRules.translate s = .ok (.rendered "conditional" code) →
      ∃ operand number message left,
        AsksComparison (normalize s).toList operand number message ∧
        code = comparisonCode left number message ∧ ' ' ∉ left.toList ∧
        (AllDigits operand → IsNumeral left (decimalValue operand)) ∧
        (¬ AllDigits operand → left = String.ofList operand ∧ left ∉ keywords ∧
          (IsIdentifier operand ↔ Regular operand))) ∧
    ∀ operand number message, AsksComparison (normalize s).toList operand number message →
      ¬ AllDigits operand → ¬ (IsIdentifier operand ∧ String.ofList operand ∉ keywords) →
      Regular operand ∨ (∃ c, operand.head? = some c ∧ isNumber c = true) →
      ∃ d, standardRules.translate s = .error (.synthesis "conditional" d) ∧ d.code = "N003" ∧
        Quotes d operand := by
  have hsettled : ∀ {operand number message},
      AsksComparison (normalize s).toList operand number message → ∀ c ∈ operand, Settled c := by
    intro operand number message hasks c hc
    refine settled_of_mem_normalize (s := s) ?_
    rw [hasks.1]
    simp [hc]
  constructor
  · intro code hcode
    obtain ⟨operand, number, message, hasks⟩ := exists_asksComparison hcode
    by_cases hdigits : AllDigits operand
    · rw [translate_of_digits hasks hdigits] at hcode
      cases hcode
      have hnumeral := isNumeral_numeral (decimalValue operand)
      refine ⟨operand, number, message, _, hasks, rfl, ?_, fun _ => hnumeral, absurd hdigits⟩
      intro hmem
      exact absurd (hnumeral.digits.2 ' ' hmem) (by decide)
    · have hno : ¬ NotOperand operand := by
        intro hno
        rw [translate_of_notOperand hasks hno] at hcode
        cases hcode
      rw [translate_of_name hasks hdigits hno] at hcode
      cases hcode
      refine ⟨operand, number, message, _, hasks, rfl, ?_, fun h => absurd h hdigits,
        fun _ => ⟨rfl, ?_, isIdentifier_iff_of_not_notOperand hasks.2.1 hdigits hno⟩⟩
      · rw [String.toList_ofList]
        exact space_notMem_of_holds hasks.2.1
      · rw [mem_keywords_iff (hsettled hasks)]
        exact fun hreserved => hno ⟨hdigits, .inr hreserved⟩
  · intro operand number message hasks hdigits hbad hcase
    have hno : NotOperand operand := by
      by_contra hno
      have hregular : Regular operand := by
        rcases hcase with hregular | hnumber
        · exact hregular
        · exact absurd ⟨hdigits, .inl hnumber⟩ hno
      refine hbad ⟨(isIdentifier_iff_of_not_notOperand hasks.2.1 hdigits hno).2 hregular, ?_⟩
      rw [mem_keywords_iff (hsettled hasks)]
      exact fun hreserved => hno ⟨hdigits, .inr hreserved⟩
    exact ⟨_, translate_of_notOperand hasks hno, rfl, quotes_invalidVariable operand 3⟩

/-- A name in capitals, and a word that starts with a digit. -/
theorem left_of_comparison_words :
    (standardRules.translate "If ÉTÉ_2 equals 007 then print ok" =
        .ok (.rendered "conditional" "if été_2 == 7: print(\"ok\")") ∧
      "été_2" ∉ keywords ∧ (IsIdentifier "été_2".toList ↔ Regular "été_2".toList)) ∧
    ∃ d, standardRules.translate "If 1abc equals 007 then print ok" =
        .error (.synthesis "conditional" d) ∧ d.code = "N003" ∧ Quotes d "1abc".toList := by
  have htranslate : standardRules.translate "If ÉTÉ_2 equals 007 then print ok" =
      .ok (.rendered "conditional" "if été_2 == 7: print(\"ok\")") := by
    rw [standardRules_eq_map]
    decide +kernel
  constructor
  · refine ⟨htranslate, ?_⟩
    obtain ⟨operand, number, message, left, hasks, -, -, -, hname⟩ :=
      (left_of_comparison "If ÉTÉ_2 equals 007 then print ok").1 _ htranslate
    have hoperand : operand = "été_2".toList := by
      have hword : ((normalize "If ÉTÉ_2 equals 007 then print ok").toList.drop 3).takeWhile
          Slot.name.admits = "été_2".toList := by
        decide +kernel
      have hdrop : "if ".toList.length = 3 := by decide
      rw [hasks.1, ← hdrop, List.drop_left, Fills.takeWhile_admits hasks.2.1.admits] at hword
      · exact hword
      · have hspace : Slot.name.admits ' ' = false := by decide +kernel
        simp [hspace]
    subst hoperand
    obtain ⟨hleft, hkeyword, hidentifier⟩ := hname (by decide)
    rw [String.ofList_toList] at hleft
    subst hleft
    exact ⟨hkeyword, hidentifier⟩
  · have hasks : AsksComparison (normalize "If 1abc equals 007 then print ok").toList
        "1abc".toList "007".toList "ok".toList :=
      ⟨by decide +kernel, ⟨by simp, List.all_eq_true.1 (by decide +kernel)⟩,
        ⟨by simp, List.all_eq_true.1 (by decide +kernel)⟩,
        ⟨by simp, List.all_eq_true.1 (by decide +kernel)⟩⟩
    exact (left_of_comparison "If 1abc equals 007 then print ok").2 _ _ _ hasks
      (by decide) (by decide +kernel) (.inl (by decide +kernel))

/-- A superscript goes on a name, and the code is not one of Python. -/
theorem left_not_identifier :
    standardRules.translate "if x² equals 1 then print a" =
      .ok (.rendered "conditional" "if x² == 1: print(\"a\")") ∧
    "if x² == 1: print(\"a\")" = comparisonCode "x²" ['1'] ['a'] ∧
    ¬ AllDigits "x²".toList ∧ ¬ IsIdentifier "x²".toList := by
  refine ⟨?_, by decide +kernel, by decide +kernel, by decide +kernel⟩
  rw [standardRules_eq_map]
  decide +kernel

end Phrasebook
