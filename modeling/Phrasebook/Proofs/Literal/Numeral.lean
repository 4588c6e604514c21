import Phrasebook.Proofs.Number.Shortest

/-!
# Decimal numerals

A number has one decimal numeral: digits that denote it, without a zero in front of them. That is
how natural numbers are written.

Results:
* `isNumeral_numeral`: what is written for a natural number is its numeral.
-/

namespace Phrasebook

open Phrasebook.Text

/-- The text is the decimal numeral of a number: its digits denote the number, and it starts with a
zero only if it is one. -/
structure IsNumeral (s : String) (n : Nat) : Prop where
  digits : AllDigits s.toList
  value : decimalValue s.toList = n
  canonical : s.toList.head? = some '0' → s = "0"

/-- What is written for a natural number is its numeral. -/
theorem isNumeral_numeral (n : Nat) : IsNumeral (Integer.numeral n) n := by
  refine ⟨?_, ?_, ?_⟩
  · rw [Integer.toList_numeral_natCast]
    exact Integer.allDigits_toDigits n
  · rw [Integer.toList_numeral_natCast]
    exact Integer.decimalValue_toDigits n
  · intro h
    rw [Integer.toList_numeral_natCast] at h
    by_cases hn : n = 0
    · subst hn
      rfl
    · exact absurd h (Binary64.head_toDigits hn)

end Phrasebook
