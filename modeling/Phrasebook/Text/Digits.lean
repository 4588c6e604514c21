/-!
# Digits

Reading natural numbers in base 10 or another base up to 16. Only ASCII digits count, and there is
no sign, blank or separator among them.
-/

namespace Phrasebook.Text

/-- An ASCII decimal digit. -/
def isDigit (c : Char) : Bool := '0' ≤ c && c ≤ '9'

/-- The value of a digit or letter, `a` and `A` being 10. -/
def digitValue? (c : Char) : Option Nat :=
  if '0' ≤ c ∧ c ≤ '9' then some (c.toNat - '0'.toNat)
  else if 'a' ≤ c ∧ c ≤ 'f' then some (c.toNat - 'a'.toNat + 10)
  else if 'A' ≤ c ∧ c ≤ 'F' then some (c.toNat - 'A'.toNat + 10)
  else none

/-- The value of a digit in a base. -/
def digitOf? (base : Nat) (c : Char) : Option Nat := (digitValue? c).filter (· < base)

/-- The number that digits denote when `acc` was read before them. -/
def continueDigits? (base : Nat) (acc : Nat) : List Char → Option Nat
  | [] => some acc
  | c :: s => (digitOf? base c).bind fun d => continueDigits? base (acc * base + d) s

/-- The number that a non-empty text of digits denotes. -/
def ofDigits? (base : Nat) (s : List Char) : Option Nat :=
  if s.isEmpty then none else continueDigits? base 0 s

example : ofDigits? 10 "0042".toList = some 42 ∧ ofDigits? 16 "fF".toList = some 255 := by decide

example : ofDigits? 10 [] = none ∧ ofDigits? 2 "12".toList = none := by decide

end Phrasebook.Text
