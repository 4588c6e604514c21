import Phrasebook.Json.Parser
import Phrasebook.Proofs.Literal.Integer

/-!
# Reading numerals

A numeral has a whole part without a leading zero, and may have a fraction and an exponent. It is
read to its end if what follows cannot go on with it, and then denotes the number that its digits
and its exponent give.

Results:
* `unsignedNumber_chars`: a numeral without a sign is read to its end.
* `numberValue_chars`: so is one with or without a minus sign.
-/

namespace Phrasebook.Json

open Phrasebook.Text

/-- The parts of a numeral: the digits of the whole part, those of the fraction, of which there are
none without a decimal point, and the sign and the digits of the exponent. -/
structure Numeral where
  whole : List Char
  fraction : List Char := []
  exponent : Option (Char × List Char) := none
  allDigits_whole : AllDigits whole
  whole_of_head : whole.head? = some '0' → whole = ['0']
  isDigit_fraction : ∀ c ∈ fraction, isDigit c = true
  allDigits_exponent : ∀ sign ds, exponent = some (sign, ds) →
    (sign = '+' ∨ sign = '-') ∧ AllDigits ds

namespace Numeral

/-- The fraction behind its point. -/
def fractionChars (n : Numeral) : List Char :=
  if n.fraction = [] then [] else '.' :: n.fraction

/-- The exponent behind its mark. -/
def exponentChars (n : Numeral) : List Char :=
  match n.exponent with
  | none => []
  | some (sign, ds) => 'e' :: sign :: ds

/-- The numeral as it is written. -/
def chars (n : Numeral) : List Char := n.whole ++ (n.fractionChars ++ n.exponentChars)

theorem fractionChars_of_ne_nil {n : Numeral} (h : n.fraction ≠ []) :
    n.fractionChars = '.' :: n.fraction := by
  rw [fractionChars, if_neg h]

/-- The number that the exponent denotes. -/
def power (n : Numeral) : Int :=
  match n.exponent with
  | none => 0
  | some (sign, ds) => if sign = '-' then -(natOf ds : Int) else natOf ds

/-- The number that the numeral denotes. -/
def value (n : Numeral) (negative : Bool) : Binary64 :=
  .ofDecimal negative (natOf (n.whole ++ n.fraction)) (n.power - n.fraction.length)

end Numeral

/-- The text does not go on with a numeral. -/
def Ends (s : List Char) : Prop :=
  ∀ c, s.head? = some c → isDigit c = false ∧ c ≠ '.' ∧ c ≠ 'e' ∧ c ≠ 'E'

theorem ends_nil : Ends [] := by
  intro c h
  cases h

theorem ends_cons {c : Char} (h : c = ',' ∨ c = ']' ∨ c = '\x7d') (s : List Char) :
    Ends (c :: s) := by
  intro d hd
  obtain rfl : c = d := Option.some.inj hd
  rcases h with rfl | rfl | rfl
  · decide
  · decide
  · decide

/-! ## Parts -/

section

variable {rest : List Char}

theorem digits1_append {ds : List Char} (h : AllDigits ds)
    (hr : ∀ c, rest.head? = some c → isDigit c = false) :
    digits1 (ds ++ rest) = some (ds, rest) := by
  have hempty : ds.isEmpty = false := by simpa using h.1
  have htake : rest.takeWhile isDigit = [] := by
    cases rest with
    | nil => rfl
    | cons c rest => exact List.takeWhile_cons_of_neg (by simp [hr c rfl])
  have hdrop : rest.dropWhile isDigit = rest := by
    cases rest with
    | nil => rfl
    | cons c rest => exact List.dropWhile_cons_of_neg (by simp [hr c rfl])
  rw [digits1, List.takeWhile_append_of_pos h.2, List.dropWhile_append_of_pos h.2, htake, hdrop,
    List.append_nil]
  simp [hempty]

theorem wholePart_append {n : Numeral} (hr : ∀ c, rest.head? = some c → isDigit c = false) :
    wholePart (n.whole ++ rest) = some (n.whole, rest) := by
  rw [wholePart, digits1_append n.allDigits_whole hr]
  by_cases h : n.whole.head? = some '0'
  · rw [n.whole_of_head h]
    rfl
  · simp [Option.filter, h]

theorem fractionPart_append {n : Numeral}
    (hr : ∀ c, rest.head? = some c → isDigit c = false ∧ c ≠ '.') :
    fractionPart (n.fractionChars ++ rest) = some (n.fraction, rest) := by
  by_cases h : n.fraction = []
  · have hpoint : ∀ s, rest ≠ '.' :: s := fun s hs => (hr '.' (by rw [hs]; rfl)).2 rfl
    rw [Numeral.fractionChars, if_pos h, h, List.nil_append]
    unfold fractionPart
    split
    · next s => exact absurd rfl (hpoint s)
    · rfl
  · rw [Numeral.fractionChars_of_ne_nil h, List.cons_append, fractionPart,
      digits1_append ⟨h, n.isDigit_fraction⟩ fun c hc => (hr c hc).1]

theorem exponentPart_append {n : Numeral} (hr : Ends rest) :
    exponentPart (n.exponentChars ++ rest) = some (n.power, rest) := by
  cases h : n.exponent with
  | none =>
    simp only [Numeral.exponentChars, Numeral.power, h, List.nil_append]
    unfold exponentPart
    split
    · next s => exact absurd rfl (hr 'e' rfl).2.2.1
    · next s => exact absurd rfl (hr 'E' rfl).2.2.2
    · rfl
  | some e =>
    obtain ⟨sign, ds⟩ := e
    obtain ⟨hsign, hds⟩ := n.allDigits_exponent sign ds h
    simp only [Numeral.exponentChars, Numeral.power, h, List.cons_append]
    have hread := digits1_append hds fun c hc => (hr c hc).1
    rcases hsign with rfl | rfl
    · simp [exponentPart, signedExponent, hread]
    · simp [exponentPart, signedExponent, hread]

/-! ## Numerals -/

theorem head_exponentChars {n : Numeral} (hr : Ends rest) {c : Char}
    (hc : (n.exponentChars ++ rest).head? = some c) : isDigit c = false ∧ c ≠ '.' := by
  unfold Numeral.exponentChars at hc
  split at hc
  · obtain ⟨hdigit, hpoint, -⟩ := hr c hc
    exact ⟨hdigit, hpoint⟩
  · obtain rfl : 'e' = c := Option.some.inj hc
    decide

theorem head_fractionChars {n : Numeral} (hr : Ends rest) {c : Char}
    (hc : (n.fractionChars ++ (n.exponentChars ++ rest)).head? = some c) : isDigit c = false := by
  unfold Numeral.fractionChars at hc
  split at hc
  · exact (head_exponentChars hr hc).1
  · obtain rfl : '.' = c := Option.some.inj hc
    rfl

/-- A numeral without a sign is read to its end. -/
theorem unsignedNumber_chars (n : Numeral) (negative : Bool) (hr : Ends rest) :
    unsignedNumber negative (n.chars ++ rest) = some (n.value negative, rest) := by
  rw [unsignedNumber, Numeral.chars, List.append_assoc, List.append_assoc,
    wholePart_append fun c => head_fractionChars hr]
  simp only [Option.bind_eq_bind, Option.bind_some]
  rw [fractionPart_append fun c => head_exponentChars hr, Option.bind_some,
    exponentPart_append hr]
  rfl

theorem head_chars (n : Numeral) : ∃ c s, n.chars = c :: s ∧ isDigit c = true := by
  obtain ⟨hne, hdigits⟩ := n.allDigits_whole
  obtain ⟨c, s, hcs⟩ := List.exists_cons_of_ne_nil hne
  refine ⟨c, s ++ (n.fractionChars ++ n.exponentChars), by rw [Numeral.chars, hcs]; rfl, ?_⟩
  exact hdigits c (by rw [hcs]; exact List.mem_cons_self)

/-- A numeral behind the sign it has is read to its end. -/
theorem numberValue_chars (n : Numeral) (negative : Bool) (hr : Ends rest) :
    numberValue ((if negative then ['-'] else []) ++ n.chars ++ rest) =
      some (n.value negative, rest) := by
  cases negative with
  | true => exact unsignedNumber_chars n true hr
  | false =>
    obtain ⟨c, s, hcs, hc⟩ := head_chars n
    have hread := unsignedNumber_chars n false hr
    rw [hcs] at hread
    simp only [Bool.false_eq_true, if_false, List.nil_append, hcs, List.cons_append] at hread ⊢
    unfold numberValue
    split
    · next h =>
      obtain rfl := (List.cons.inj h).1
      cases hc
    · exact hread

end

end Phrasebook.Json
