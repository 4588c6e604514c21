import Phrasebook.Proofs.Literal.Inference
import Phrasebook.Proofs.Literal.Numeral
import Phrasebook.Snippet

/-!
# The notations of an integer

An integer may be written in several ways: as decimal digits with or without a sign, or as digits of
base 16, 8 or 2 behind the mark of the base; nothing at all stands for zero. `Denotes` says which
integer a text without blanks around it stands for. The narrow form that a token needs to count as
an integer is one of these ways, so what is inferred for a token and what the reader of integers
makes of it agree. What is written for an integer is its one numeral, which has the narrow form.

Results:
* `digitValue?_eq_some_iff`, `ofDigits?_eq_some_iff_digits`: the digits of a base.
* `ofTrimmed?_eq_some_iff`: the reader of integers accepts exactly these notations.
* `isIntegerNumeral_numeral`, `ofSource?_numeral`, `isToken_numeral`: what is written for one.
* `infer?_eq`: a token that has the narrow form is read without a failure.
* `inference_agrees_with_notation`: inference, the reader and what is written agree.
-/

namespace Phrasebook

open Phrasebook.Text

/-! ## Digits of a base -/

/-- The character is the digit for a value, in lower or upper case. -/
def IsDigitFor (v : Nat) (c : Char) : Prop :=
  "0123456789abcdef".toList[v]? = some c ∨ "0123456789ABCDEF".toList[v]? = some c

instance (v : Nat) (c : Char) : Decidable (IsDigitFor v c) := inferInstanceAs (Decidable (_ ∨ _))

/-- One or more digits of a base, with their values. -/
def Digits (base : Nat) (s : List Char) (vs : List Nat) : Prop :=
  s ≠ [] ∧ List.Forall₂ (fun c v => IsDigitFor v c ∧ v < base) s vs

/-- The number with digits of these values, of which the first one counts most. -/
def numberOf (base : Nat) (vs : List Nat) : Nat := Nat.ofDigits base vs.reverse

theorem numberOf_eq_foldl (base : Nat) (vs : List Nat) :
    numberOf base vs = vs.foldl (fun n v => n * base + v) 0 := by
  rw [numberOf, Nat.ofDigits_eq_foldr, List.foldr_reverse]
  congr 1
  funext n v
  rw [Nat.cast_id]
  ring

theorem isDigitFor_bounds {v : Nat} {c : Char} (h : IsDigitFor v c) : v < 16 ∧ c.toNat < 103 := by
  have hrow : ∀ row ∈ ["0123456789abcdef".toList, "0123456789ABCDEF".toList],
      row.length = 16 ∧ ∀ d ∈ row, d.toNat < 103 := by
    simp
  have hget : ∀ row ∈ ["0123456789abcdef".toList, "0123456789ABCDEF".toList],
      row[v]? = some c → v < 16 ∧ c.toNat < 103 := by
    intro row hmem hc
    obtain ⟨hlength, hsmall⟩ := hrow row hmem
    obtain ⟨hv, -⟩ := List.getElem?_eq_some_iff.1 hc
    exact ⟨hlength ▸ hv, hsmall c (List.mem_of_getElem? hc)⟩
  rcases h with h | h
  · exact hget _ (by simp) h
  · exact hget _ (by simp) h

theorem digitValue?_bounds {v : Nat} {c : Char} (h : digitValue? c = some v) :
    v < 16 ∧ c.toNat < 103 := by
  simp only [digitValue?, Char.le_def, UInt32.le_iff_toNat_le] at h
  split_ifs at h with hdigit hlower hupper
  all_goals
    obtain rfl := Option.some.inj h
    simp only [Char.toNat, Char.reduceVal, UInt32.reduceToNat] at *
    omega

/-- The reader of digits knows exactly these digits. -/
theorem digitValue?_eq_some_iff {v : Nat} {c : Char} :
    digitValue? c = some v ↔ IsDigitFor v c := by
  have htable : ∀ n < 103, ∀ w < 16,
      digitValue? (Char.ofNat n) = some w ↔ IsDigitFor w (Char.ofNat n) := by
    decide +kernel
  have hchar : Char.ofNat c.toNat = c := Char.ofNat_toNat c
  constructor
  · intro h
    obtain ⟨hv, hc⟩ := digitValue?_bounds h
    have hiff := htable c.toNat hc v hv
    rw [hchar] at hiff
    exact hiff.1 h
  · intro h
    obtain ⟨hv, hc⟩ := isDigitFor_bounds h
    have hiff := htable c.toNat hc v hv
    rw [hchar] at hiff
    exact hiff.2 h

namespace Integer

theorem continueDigits?_eq_some_iff {base : Nat} {s : List Char} {acc n : Nat} :
    continueDigits? base acc s = some n ↔
      ∃ vs, List.Forall₂ (fun c v => IsDigitFor v c ∧ v < base) s vs ∧
        n = vs.foldl (fun n v => n * base + v) acc := by
  induction s generalizing acc with
  | nil => simp [continueDigits?, eq_comm]
  | cons c s ih =>
    have hdigit : ∀ v, digitOf? base c = some v ↔ IsDigitFor v c ∧ v < base := by
      intro v
      rw [digitOf?, Option.filter_eq_some_iff, digitValue?_eq_some_iff, decide_eq_true_eq]
    rw [continueDigits?, Option.bind_eq_some_iff]
    simp only [hdigit, ih, List.forall₂_cons_left_iff]
    constructor
    · rintro ⟨v, hv, vs, hvs, rfl⟩
      exact ⟨v :: vs, ⟨v, vs, hv, hvs, rfl⟩, rfl⟩
    · rintro ⟨_, ⟨v, vs, hv, hvs, rfl⟩, rfl⟩
      exact ⟨v, hv, vs, hvs, rfl⟩

/-- The reader of digits takes exactly the digits of the base, as the number that they make up. -/
theorem ofDigits?_eq_some_iff_digits {base : Nat} {s : List Char} {n : Nat} :
    ofDigits? base s = some n ↔ ∃ vs, Digits base s vs ∧ n = numberOf base vs := by
  rw [ofDigits?]
  split_ifs with hempty
  · have hs : s = [] := List.isEmpty_iff.1 hempty
    simp [Digits, hs]
  · have hs : s ≠ [] := fun h => hempty (List.isEmpty_iff.2 h)
    simp [continueDigits?_eq_some_iff, Digits, hs, numberOf_eq_foldl]

end Integer

/-! ## Notations -/

/-- The letters that mark the bases other than ten. -/
def baseMarks : List (Nat × Char) :=
  [(16, 'x'), (16, 'X'), (8, 'o'), (8, 'O'), (2, 'b'), (2, 'B')]

/-- The integer that a text without blanks around it stands for. A sign stands in front of decimal
digits only. -/
inductive Denotes : List Char → Int → Prop where
  | nothing : Denotes [] 0
  | decimal {s vs} (h : Digits 10 s vs) : Denotes s (numberOf 10 vs)
  | positive {s vs} (h : Digits 10 s vs) : Denotes ('+' :: s) (numberOf 10 vs)
  | negative {s vs} (h : Digits 10 s vs) : Denotes ('-' :: s) (-(numberOf 10 vs : Int))
  | marked {base mark s vs} (hmark : (base, mark) ∈ baseMarks) (h : Digits base s vs) :
    Denotes ('0' :: mark :: s) (numberOf base vs)

namespace Integer

theorem denotes_of_ofMarked? {s : List Char} {n : Nat} (h : ofMarked? s = some n) :
    Denotes s n := by
  unfold ofMarked? at h
  split at h
  all_goals first
    | exact absurd h (by simp)
    | obtain ⟨vs, hvs, rfl⟩ := ofDigits?_eq_some_iff_digits.1 h
      exact .marked (by decide) hvs

theorem exists_digits_of_cast {s : List Char} {n : Int}
    (h : (ofDigits? 10 s : Option Int) = some n) :
    ∃ vs, Digits 10 s vs ∧ n = numberOf 10 vs := by
  obtain ⟨m, hm, hn⟩ := Option.bind_eq_some_iff.1 h
  obtain ⟨vs, hvs, rfl⟩ := ofDigits?_eq_some_iff_digits.1 hm
  exact ⟨vs, hvs, (Option.some.inj hn).symm⟩

theorem denotes_of_ofSigned? {s : List Char} {n : Int} (h : ofSigned? s = some n) :
    Denotes s n := by
  unfold ofSigned? at h
  split at h
  all_goals
    obtain ⟨m, hm, rfl⟩ := Option.map_eq_some_iff.1 h
    obtain ⟨vs, hvs, rfl⟩ := exists_digits_of_cast hm
  · exact .negative hvs
  · exact .positive hvs
  · exact .decimal hvs

theorem allDigits_of_digits {s : List Char} {vs : List Nat} (h : Digits 10 s vs) :
    AllDigits s ∧ decimalValue s = numberOf 10 vs :=
  ofDigits?_eq_some_iff.1 (ofDigits?_eq_some_iff_digits.2 ⟨vs, h, rfl⟩)

theorem ofMarked?_of_mem {base : Nat} {mark : Char} (h : (base, mark) ∈ baseMarks)
    (s : List Char) : ofMarked? ('0' :: mark :: s) = ofDigits? base s := by
  simp only [baseMarks, List.mem_cons, Prod.mk.injEq, List.not_mem_nil, or_false] at h
  rcases h with ⟨rfl, rfl⟩ | ⟨rfl, rfl⟩ | ⟨rfl, rfl⟩ | ⟨rfl, rfl⟩ | ⟨rfl, rfl⟩ | ⟨rfl, rfl⟩ <;> rfl

/-- The reader of integers accepts exactly these notations. -/
theorem ofTrimmed?_eq_some_iff {s : List Char} {n : Int} :
    ofTrimmed? s = some n ↔ Denotes s n := by
  constructor
  · intro h
    unfold ofTrimmed? at h
    split_ifs at h with hempty
    · rw [List.isEmpty_iff.1 hempty, ← Option.some.inj h]
      exact .nothing
    · split at h
      · next m hm =>
        rw [← Option.some.inj h]
        exact denotes_of_ofMarked? hm
      · exact denotes_of_ofSigned? h
  · intro h
    cases h with
    | nothing => rfl
    | decimal h =>
      obtain ⟨hdigits, hvalue⟩ := allDigits_of_digits h
      rw [ofTrimmed?_of_digits hdigits, hvalue]
    | positive h =>
      obtain ⟨hdigits, hvalue⟩ := allDigits_of_digits h
      rw [← hvalue, ofTrimmed?, ofMarked?, ofSigned?, ofDigits?_of_digits hdigits]
      · rfl
      all_goals simp
    | negative h =>
      obtain ⟨hdigits, hvalue⟩ := allDigits_of_digits h
      rw [ofTrimmed?_of_negative hdigits, hvalue]
    | marked hmark h =>
      rw [ofTrimmed?, ofMarked?_of_mem hmark, ofDigits?_eq_some_iff_digits.2 ⟨_, h, rfl⟩]
      rfl

/-! ## What is written for an integer -/

theorem not_isBlank_of_mem_numeral {n : Int} {c : Char} (h : c ∈ (numeral n).toList) :
    isBlank c = false := by
  have hdigit : ∀ k, c ∈ Nat.toDigits 10 k → isBlank c = false :=
    fun k hc => not_isBlank_of_isDigit ((allDigits_toDigits k).2 c hc)
  rcases numeral_cases n with ⟨k, -, hk⟩ | ⟨k, -, hk⟩
  · exact hdigit k (hk ▸ h)
  · rw [hk] at h
    rcases List.mem_cons.1 h with rfl | hc
    · decide
    · exact hdigit _ hc

theorem trim_numeral (n : Int) : trim (numeral n).toList = (numeral n).toList :=
  trim_eq_self_of_forall fun _ => not_isBlank_of_mem_numeral

/-- The numeral of an integer is read as the integer. -/
theorem ofSource?_numeral (n : Int) : ofSource? (numeral n) = some n := by
  rw [ofSource?, trim_numeral]
  rcases numeral_cases n with ⟨k, rfl, hk⟩ | ⟨k, rfl, hk⟩
  · rw [hk, ofTrimmed?_of_digits (allDigits_toDigits k), decimalValue_toDigits]
  · rw [hk, ofTrimmed?_of_negative (allDigits_toDigits (k + 1)), decimalValue_toDigits]

/-- The numeral of an integer has the narrow form. -/
theorem isToken_numeral (n : Int) : isToken (numeral n) = true := by
  rw [isToken, trim_numeral, isNarrow_iff]
  rcases numeral_cases n with ⟨k, -, hk⟩ | ⟨k, -, hk⟩
  · exact .inl (hk ▸ allDigits_toDigits k)
  · exact .inr ⟨_, hk, allDigits_toDigits (k + 1)⟩

end Integer

/-- The text is the decimal numeral of an integer: that of its absolute value, behind a minus sign
exactly if the integer is below zero. -/
def IsIntegerNumeral (s : String) (n : Int) : Prop :=
  ∃ r, IsNumeral r n.natAbs ∧ s = if n < 0 then "-" ++ r else r

theorem isIntegerNumeral_numeral (n : Int) : IsIntegerNumeral (Integer.numeral n) n := by
  rcases Integer.numeral_cases n with ⟨k, rfl, -⟩ | ⟨k, rfl, hk⟩
  · exact ⟨_, isNumeral_numeral k, by rw [if_neg (by omega)]⟩
  · have habs : (-((k + 1 : Nat) : Int)).natAbs = k + 1 := by omega
    refine ⟨_, habs ▸ isNumeral_numeral (k + 1), ?_⟩
    rw [if_pos (by omega), ← String.toList_inj, hk, String.toList_append,
      Integer.toList_numeral_natCast]
    rfl

/-! ## Inference -/

/-- The numeral of the integer that a text denotes. -/
def Integer.normal? (s : String) : Except SnippetError String :=
  (Snippet.integer s).map Integer.numeral

/-- The value of a token, where a token in the narrow form is left to the reader of integers. -/
def Literal.infer? (token : String) : Except SnippetError Literal :=
  let trimmed := String.ofList (trim token.toList)
  if Integer.isToken trimmed then (Snippet.integer trimmed).map .integer else .ok (.text trimmed)

namespace Integer

theorem isToken_trimmed (t : String) : isToken (String.ofList (trim t.toList)) = isToken t := by
  rw [isToken, String.toList_ofList, trim_trim, isToken]

theorem ofSource?_trimmed (t : String) :
    ofSource? (String.ofList (trim t.toList)) = ofSource? t := by
  rw [ofSource?, String.toList_ofList, trim_trim, ofSource?]

theorem integer_eq_ok_iff {t : String} {n : Int} :
    Snippet.integer t = .ok n ↔ Denotes (trim t.toList) n := by
  rw [← ofTrimmed?_eq_some_iff, Snippet.integer, Snippet.integerOf, ← ofSource?]
  cases ofSource? t <;> simp

/-- The narrow form is a notation of an integer. -/
theorem exists_denotes_of_isToken {t : String} (h : isToken t = true) :
    ∃ n, Denotes (trim t.toList) n := by
  rcases (isNarrow_iff _).1 h with hdigits | ⟨ds, hds, hdigits⟩
  · exact ⟨_, ofTrimmed?_eq_some_iff.1 (ofTrimmed?_of_digits hdigits)⟩
  · rw [hds]
    exact ⟨_, ofTrimmed?_eq_some_iff.1 (ofTrimmed?_of_negative hdigits)⟩

theorem normal?_eq_ok_iff {t r : String} :
    normal? t = .ok r ↔ ∃ n, Denotes (trim t.toList) n ∧ r = numeral n := by
  simp only [← integer_eq_ok_iff, normal?]
  cases Snippet.integer t <;> simp [Except.map, eq_comm]

end Integer

namespace Literal

theorem infer_of_denotes {t : String} {n : Int} (h : Integer.isToken t = true)
    (hn : Denotes (trim t.toList) n) : infer t = .integer n := by
  have hread : Integer.ofSource? t = some n := Integer.ofTrimmed?_eq_some_iff.2 hn
  simp only [infer, Integer.isToken_trimmed, Integer.ofSource?_trimmed, h, hread, if_true]

theorem infer_of_not_isToken {t : String} (h : Integer.isToken t = false) :
    infer t = .text (String.ofList (trim t.toList)) := by
  simp [infer, Integer.isToken_trimmed, h]

/-- The reader of integers does not fail for a token that is left to it. -/
theorem infer?_eq (t : String) : infer? t = .ok (infer t) := by
  cases htoken : Integer.isToken t with
  | true =>
    obtain ⟨n, hn⟩ := Integer.exists_denotes_of_isToken htoken
    have hread : Snippet.integer (String.ofList (trim t.toList)) = .ok n := by
      rw [Integer.integer_eq_ok_iff, String.toList_ofList, trim_trim]
      exact hn
    simp only [infer?, Integer.isToken_trimmed, htoken, if_true, hread, infer_of_denotes htoken hn]
    rfl
  | false => simp [infer?, Integer.isToken_trimmed, htoken, infer_of_not_isToken htoken]

end Literal

/-- Inference does not fail, and the blanks around a token do not count. A token in the narrow form
is inferred to be the integer that it denotes, and what the reader of integers gives for it is
written: the numeral of the integer. Any other token is written between quotes. What is written for
a notation that the reader accepts has the narrow form, and gives the same again. -/
theorem inference_agrees_with_notation (t : String) :
    Literal.infer? t = .ok (Literal.infer t) ∧
    (Integer.isToken t = true → ∃ n, Denotes (trim t.toList) n ∧
      Integer.normal? t = .ok (Literal.infer t).render ∧
      IsIntegerNumeral (Literal.infer t).render n) ∧
    (Integer.isToken t = false → ∃ body, (Literal.infer t).render = "\"" ++ body ++ "\"") ∧
    Literal.infer t = Literal.infer (String.ofList (trim t.toList)) ∧
    ((∃ r, Integer.normal? t = .ok r) ↔ ∃ n, Denotes (trim t.toList) n) ∧
    ∀ r, Integer.normal? t = .ok r →
      (∃ n, Denotes (trim t.toList) n ∧ IsIntegerNumeral r n) ∧
      Integer.isToken r = true ∧ Integer.normal? r = .ok r := by
  refine ⟨Literal.infer?_eq t, fun htoken => ?_, fun htoken => ?_, ?_, ?_, fun r hr => ?_⟩
  · obtain ⟨n, hn⟩ := Integer.exists_denotes_of_isToken htoken
    rw [Literal.infer_of_denotes htoken hn]
    exact ⟨n, hn, Integer.normal?_eq_ok_iff.2 ⟨n, hn, rfl⟩, isIntegerNumeral_numeral n⟩
  · rw [Literal.infer_of_not_isToken htoken]
    refine ⟨String.ofList (Quoted.body (trim t.toList)), ?_⟩
    rw [← String.toList_inj]
    simp [Literal.render, Quoted.quote]
  · simp only [Literal.infer, String.toList_ofList, trim_trim]
  · simp only [Integer.normal?_eq_ok_iff]
    constructor
    · rintro ⟨r, n, hn, -⟩
      exact ⟨n, hn⟩
    · rintro ⟨n, hn⟩
      exact ⟨_, n, hn, rfl⟩
  · obtain ⟨n, hn, rfl⟩ := Integer.normal?_eq_ok_iff.1 hr
    refine ⟨⟨n, hn, isIntegerNumeral_numeral n⟩, Integer.isToken_numeral n, ?_⟩
    refine Integer.normal?_eq_ok_iff.2 ⟨n, ?_, rfl⟩
    rw [← Integer.ofTrimmed?_eq_some_iff]
    exact Integer.ofSource?_numeral n

/-- A token with leading zeros and other blanks around it, and a numeral of base 16 that is no
token. -/
theorem inference_of_padded_zeros :
    (Integer.isToken "\u00a0-0070\ufeff" = true ∧
      Integer.normal? "\u00a0-0070\ufeff" = .ok (Literal.infer "\u00a0-0070\ufeff").render ∧
      (Literal.infer "\u00a0-0070\ufeff").render = "-70") ∧
    Integer.isToken " 0XfF" = false ∧
      (∃ body, (Literal.infer " 0XfF").render = "\"" ++ body ++ "\"") ∧
      Integer.normal? " 0XfF" = .ok "255" ∧ Integer.normal? "255" = .ok "255" := by
  have htoken : Integer.isToken "\u00a0-0070\ufeff" = true := by decide
  have hplain : Integer.isToken " 0XfF" = false := by decide
  have hhex : Integer.normal? " 0XfF" = .ok "255" := by
    have hread : Snippet.integer " 0XfF" = .ok 255 := by decide
    rw [Integer.normal?, hread]
    decide
  obtain ⟨-, hnarrow, -⟩ := inference_agrees_with_notation "\u00a0-0070\ufeff"
  obtain ⟨-, -, hquoted, -, -, hagain⟩ := inference_agrees_with_notation " 0XfF"
  obtain ⟨n, -, hnormal, -⟩ := hnarrow htoken
  obtain ⟨-, -, hsame⟩ := hagain "255" hhex
  exact ⟨⟨htoken, hnormal, by decide⟩, hplain, hquoted hplain, hhex, hsame⟩

end Phrasebook
