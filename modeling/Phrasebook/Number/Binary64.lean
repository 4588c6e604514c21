/-!
# Binary floating-point numbers

The finite numbers of the 64-bit binary format and its two infinities, as exact values: a finite
number is a significand below `2 ^ 53` times a power of two. There is no "not a number" here, since
none of the program's numbers can be one. `ofRatio` rounds a positive ratio to the nearest number, a
tie to the even significand, and `ofDecimal` does so for a decimal numeral.
-/

namespace Phrasebook

/-- A number of the 64-bit binary format. -/
inductive Binary64 where
  /-- The number `significand * 2 ^ exponent`, or its negative. -/
  | finite (negative : Bool) (significand : Nat) (exponent : Int)
  | infinite (negative : Bool)
  deriving DecidableEq, Repr

namespace Binary64

/-- The exponent of the smallest numbers. -/
def minExponent : Int := -1074

/-- The exponent of the largest numbers. -/
def maxExponent : Int := 971

/-- The number is above zero. -/
def isPositive : Binary64 → Bool
  | .finite negative significand _ => !negative && significand != 0
  | .infinite negative => !negative

/-- The quotient rounded to the nearest natural number, a tie to the even one. -/
def roundDiv (num den : Nat) : Nat :=
  let q := num / den
  let twice := 2 * (num % den)
  if twice < den ∨ (twice = den ∧ q % 2 = 0) then q else q + 1

/-- The ratio of `num / den` to a power of two, as numerator and denominator. -/
def scale (num den : Nat) (exponent : Int) : Nat × Nat :=
  if 0 ≤ exponent then (num, den * Nat.pow 2 exponent.toNat)
  else (num * Nat.pow 2 (-exponent).toNat, den)

/-- The exponent that gives `num / den` a significand of 53 bits, or the least exponent if that
would be below it. -/
def exponentFor (num den : Nat) : Int :=
  let e := max minExponent ((Nat.log2 num : Int) - Nat.log2 den - 53)
  let (n, d) := scale num den e
  if n / d < Nat.pow 2 53 then e else e + 1

/-- The number nearest to `num / den`. -/
def ofRatio (negative : Bool) (num den : Nat) : Binary64 :=
  if num = 0 then .finite negative 0 minExponent
  else
    let e := exponentFor num den
    let (n, d) := scale num den e
    let m := roundDiv n d
    let (m, e) := if m = Nat.pow 2 53 then (Nat.pow 2 52, e + 1) else (m, e)
    if maxExponent < e then .infinite negative else .finite negative m e

/-- The number nearest to `digits * 10 ^ exponent`. Numerals far outside the range of the format are
decided by their count of digits. -/
def ofDecimal (negative : Bool) (digits : Nat) (exponent : Int) : Binary64 :=
  let magnitude : Int := (Nat.toDigits 10 digits).length + exponent
  if digits = 0 ∨ magnitude < -330 then .finite negative 0 minExponent
  else if 310 < magnitude then .infinite negative
  else if 0 ≤ exponent then ofRatio negative (digits * Nat.pow 10 exponent.toNat) 1
  else ofRatio negative digits (Nat.pow 10 (-exponent).toNat)

/-- The number nearest to an integer. -/
def ofInt (n : Int) : Binary64 := ofDecimal (decide (n < 0)) n.natAbs 0

/-- The number nearest to a natural number. -/
def ofNat (n : Nat) : Binary64 := ofDecimal false n 0

example : ofNat 9007199254740993 = .finite false (2 ^ 52) 1 := by decide +kernel

example : ofDecimal false 5 (-324) = .finite false 1 (-1074) ∧
    ofDecimal false 2 (-324) = ofNat 0 := by
  decide +kernel

example : ofNat (10 ^ 309) = .infinite false := by decide +kernel

end Binary64

end Phrasebook
