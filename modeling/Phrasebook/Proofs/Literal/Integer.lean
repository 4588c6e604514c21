import Phrasebook.Literal.Integer
import Phrasebook.Proofs.Text.Trim

/-!
# The value of a numeral

`decimalValue` is the number that decimal digits denote. The reader of integers agrees with it on
digits with or without a minus sign, whatever leading zeros there are.

Results:
* `ofDigits?_eq_some_iff`: what is read as digits.
* `ofSource?_of_digits`, `ofTrimmed?_of_negative`: the integer that digits denote, also after a
  minus sign.
* `decimalValue_toDigits`: the digits of a number denote it.
-/

namespace Phrasebook

open Phrasebook.Text

/-- The number that decimal digits denote. -/
def decimalValue (ds : List Char) : Nat := Nat.ofDigitChars 10 ds 0

/-- One or more decimal digits. -/
def AllDigits (s : List Char) : Prop := s ≠ [] ∧ ∀ c ∈ s, isDigit c = true

instance (s : List Char) : Decidable (AllDigits s) :=
  @instDecidableAnd _ _ inferInstance (List.decidableBAll _ s)

namespace Integer

/-! ## Digits -/

theorem toNat_of_isDigit {c : Char} (h : isDigit c = true) : 48 ≤ c.toNat ∧ c.toNat ≤ 57 := by
  simp only [isDigit, Bool.and_eq_true, decide_eq_true_eq, Char.le_def, UInt32.le_iff_toNat_le] at h
  exact h

theorem not_isBlank_of_isDigit {c : Char} (h : isDigit c = true) : isBlank c = false := by
  obtain ⟨hlo, hhi⟩ := toNat_of_isDigit h
  simp only [isBlank, Bool.or_eq_false_iff, Bool.and_eq_false_iff, decide_eq_false_iff_not,
    beq_eq_false_iff_ne]
  omega

theorem digitOf?_of_isDigit {c : Char} (h : isDigit c = true) :
    digitOf? 10 c = some (c.toNat - 48) := by
  obtain ⟨hlo, hhi⟩ := toNat_of_isDigit h
  have hrange : '0' ≤ c ∧ c ≤ '9' := by simpa [isDigit] using h
  have hlt : c.toNat - 48 < 10 := by omega
  simp [digitOf?, digitValue?, hrange, Option.filter, hlt]

theorem continueDigits?_of_digits {s : List Char} (h : ∀ c ∈ s, isDigit c = true) :
    ∀ acc, continueDigits? 10 acc s = some (Nat.ofDigitChars 10 s acc) := by
  induction s with
  | nil => intro acc; rfl
  | cons c s ih =>
    intro acc
    rw [continueDigits?, digitOf?_of_isDigit (h c (by simp)), Option.bind_some,
      ih fun d hd => h d (by simp [hd]), Nat.ofDigitChars_cons, Nat.mul_comm]
    rfl

theorem ofDigits?_of_digits {s : List Char} (h : AllDigits s) :
    ofDigits? 10 s = some (decimalValue s) := by
  have hne : s.isEmpty = false := by simpa using h.1
  rw [ofDigits?, hne, decimalValue]
  exact continueDigits?_of_digits h.2 0

theorem isDigit_of_digitOf? {c : Char} {d : Nat} (h : digitOf? 10 c = some d) :
    isDigit c = true := by
  unfold digitOf? at h
  obtain ⟨hvalue, hlt⟩ := Option.filter_eq_some_iff.1 h
  have hbelow : d < 10 := by simpa using hlt
  unfold digitValue? at hvalue
  split_ifs at hvalue with hdigit hlower hupper
  · simpa [isDigit] using hdigit
  · obtain rfl := Option.some.inj hvalue
    omega
  · obtain rfl := Option.some.inj hvalue
    omega

theorem isDigit_of_continueDigits? {s : List Char} {acc n : Nat}
    (h : continueDigits? 10 acc s = some n) : ∀ c ∈ s, isDigit c = true := by
  induction s generalizing acc with
  | nil => simp
  | cons c s ih =>
    obtain ⟨d, hd, hrest⟩ := Option.bind_eq_some_iff.1 h
    exact List.forall_mem_cons.2 ⟨isDigit_of_digitOf? hd, ih hrest⟩

/-- Only digits are read, and as the number that they denote. -/
theorem ofDigits?_eq_some_iff {s : List Char} {n : Nat} :
    ofDigits? 10 s = some n ↔ AllDigits s ∧ decimalValue s = n := by
  constructor
  · intro h
    have hdigits : AllDigits s := by
      unfold ofDigits? at h
      split_ifs at h with hempty
      exact ⟨by simpa using hempty, isDigit_of_continueDigits? h⟩
    rw [ofDigits?_of_digits hdigits] at h
    exact ⟨hdigits, Option.some.inj h⟩
  · rintro ⟨hdigits, rfl⟩
    exact ofDigits?_of_digits hdigits

/-- No mark of a base is made of digits. -/
theorem ofMarked?_of_digits {s : List Char} (h : ∀ c ∈ s, isDigit c = true) :
    ofMarked? s = none := by
  unfold ofMarked?
  split <;> first
    | rfl
    | exact absurd (h _ (List.mem_cons_of_mem _ List.mem_cons_self)) (by decide)

theorem ofSigned?_of_digits {s : List Char} (h : AllDigits s) :
    ofSigned? s = some (decimalValue s : Int) := by
  unfold ofSigned?
  split
  · exact absurd (h.2 '-' List.mem_cons_self) (by decide)
  · exact absurd (h.2 '+' List.mem_cons_self) (by decide)
  · rw [ofDigits?_of_digits h]
    rfl

/-! ## Integers -/

/-- The integer that digits denote. -/
theorem ofTrimmed?_of_digits {s : List Char} (h : AllDigits s) :
    ofTrimmed? s = some (decimalValue s : Int) := by
  have hne : s.isEmpty = false := by simpa using h.1
  rw [ofTrimmed?, hne, ofMarked?_of_digits h.2, ofSigned?_of_digits h]
  rfl

theorem ofSource?_of_digits {s : String} (h : AllDigits s.toList) :
    ofSource? s = some (decimalValue s.toList : Int) := by
  have htrim := trim_eq_self_of_forall fun c hc => not_isBlank_of_isDigit (h.2 c hc)
  rw [ofSource?, htrim, ofTrimmed?_of_digits h]

/-- The integer that digits after a minus sign denote. -/
theorem ofTrimmed?_of_negative {s : List Char} (h : AllDigits s) :
    ofTrimmed? ('-' :: s) = some (-(decimalValue s : Int)) := by
  have hmark : ofMarked? ('-' :: s) = none := by
    unfold ofMarked?
    split <;> first
      | rfl
      | next he => cases he
  rw [ofTrimmed?, hmark]
  simp [ofSigned?, ofDigits?_of_digits h]

/-! ## Numerals -/

/-- The digits of a number denote it. -/
theorem decimalValue_toDigits (n : Nat) : decimalValue (Nat.toDigits 10 n) = n :=
  Nat.ofDigitChars_toDigits (by decide) (by decide)

theorem allDigits_toDigits (n : Nat) : AllDigits (Nat.toDigits 10 n) := by
  refine ⟨Nat.toDigits_ne_nil, fun c hc => ?_⟩
  have h : c.isDigit = true := Nat.isDigit_of_mem_toDigits (by decide) (by decide) hc
  simpa [isDigit, Char.isDigit, Char.le_def] using h

theorem toList_numeral_natCast (n : Nat) : (numeral (n : Int)).toList = Nat.toDigits 10 n :=
  Nat.toList_repr

theorem toList_numeral_neg (n : Nat) :
    (numeral (-((n + 1 : Nat) : Int))).toList = '-' :: Nat.toDigits 10 (n + 1) := by
  have hneg : numeral (-((n + 1 : Nat) : Int)) = "-" ++ Nat.repr (n + 1) := rfl
  rw [hneg, String.toList_append, Nat.toList_repr]
  rfl

/-- A numeral has the digits of a number, or a minus sign in front of those of a positive one. -/
theorem numeral_cases (n : Int) :
    (∃ k : Nat, n = k ∧ (numeral n).toList = Nat.toDigits 10 k) ∨
      ∃ k : Nat, n = -((k + 1 : Nat) : Int) ∧
        (numeral n).toList = '-' :: Nat.toDigits 10 (k + 1) := by
  rcases Int.eq_nat_or_neg n with ⟨k, rfl | rfl⟩
  · exact .inl ⟨k, rfl, toList_numeral_natCast k⟩
  · cases k with
    | zero => exact .inl ⟨0, rfl, toList_numeral_natCast 0⟩
    | succ k => exact .inr ⟨k, rfl, toList_numeral_neg k⟩

end Integer

end Phrasebook
