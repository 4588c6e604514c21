import Phrasebook.Number.Binary64

/-!
# The shortest decimal numeral

A finite number is written with the fewest significant digits that read back as that number; of the
numerals with that many digits, the nearest one is taken. The search tries one digit, two digits and
so on: on the grid of decimal numerals of a given length it suffices to look at the two neighbours
of the value. Seventeen digits always suffice.

Numerals are positional from `10 ^ (-6)` up to, but not including, `10 ^ 21`, and have an exponent
outside that range.
-/

namespace Phrasebook.Binary64

/-- The decimal number `digits * 10 ^ exponent`. -/
structure Decimal where
  digits : Nat
  exponent : Int
  deriving DecidableEq, Repr

/-- The comparison `digits * 10 ^ exponent` to `count * 2 ^ power`, as an ordering. -/
def Decimal.compare (d : Decimal) (count : Nat) (power : Int) : Ordering :=
  let left := d.digits * Nat.pow 10 d.exponent.toNat * Nat.pow 2 (-power).toNat
  let right := count * Nat.pow 2 power.toNat * Nat.pow 10 (-d.exponent).toNat
  Ord.compare left right

/-- The decimal number reads back as `m * 2 ^ e`: it lies between the halfway points to the two
neighbours, which themselves read back as the number whose significand is even. Below a power of two
the neighbour is at half the distance. -/
def readsBack (m : Nat) (e : Int) (d : Decimal) : Bool :=
  let low := if m = Nat.pow 2 52 ∧ minExponent < e then 4 * m - 1 else 4 * m - 2
  let atLow := d.compare low (e - 2)
  let atHigh := d.compare (4 * m + 2) (e - 2)
  if m % 2 = 0 then atLow != .lt && atHigh != .gt else atLow == .gt && atHigh == .lt

/-- A number of places by which every finite number can be moved in front of the decimal point. -/
def places : Nat := 400

/-- The number of digits in front of the decimal point; for a value below `1`, the negated number of
zeros after it. -/
def magnitude (m : Nat) (e : Int) : Int :=
  let scaled := m * Nat.pow 2 e.toNat * Nat.pow 10 places / Nat.pow 2 (-e).toNat
  (Nat.toDigits 10 scaled).length - places

/-- The two decimal numbers with `count` digits on either side of `m * 2 ^ e`, the lower one first,
and whether the upper one is nearer; a tie goes to the even one. -/
def neighbours (m : Nat) (e : Int) (count : Nat) : Decimal × Decimal × Bool :=
  let p := magnitude m e - count
  let num := m * Nat.pow 2 e.toNat * Nat.pow 10 (-p).toNat
  let den := Nat.pow 2 (-e).toNat * Nat.pow 10 p.toNat
  let q := num / den
  (⟨q, p⟩, ⟨q + 1, p⟩, roundDiv num den == q + 1)

/-- The decimal number with `count` digits that reads back as `m * 2 ^ e`, if there is one. -/
def withDigits (m : Nat) (e : Int) (count : Nat) : Option Decimal :=
  let (low, high, upper) := neighbours m e count
  let candidates := if upper then [high, low] else [low, high]
  candidates.find? (readsBack m e)

/-- The shortest decimal number that reads back as `m * 2 ^ e`. -/
def shortest (m : Nat) (e : Int) : Decimal :=
  ((List.range 17).findSome? fun i => withDigits m e (i + 1)).getD (neighbours m e 17).1

/-- The digits of a decimal number without zeros at the end, and its magnitude. -/
def Decimal.significant (d : Decimal) : List Char × Int :=
  let ds := Nat.toDigits 10 d.digits
  ((ds.reverse.dropWhile (· == '0')).reverse, ds.length + d.exponent)

/-- The numeral of significant digits `ds`, the decimal point being `n` digits from the left. -/
def layout (ds : List Char) (n : Int) : List Char :=
  let k : Int := ds.length
  if k ≤ n ∧ n ≤ 21 then ds ++ List.replicate (n - k).toNat '0'
  else if 0 < n ∧ n ≤ 21 then ds.take n.toNat ++ '.' :: ds.drop n.toNat
  else if -6 < n ∧ n ≤ 0 then '0' :: '.' :: List.replicate (-n).toNat '0' ++ ds
  else
    let exponent := (if n ≤ 0 then '-' else '+') :: Nat.toDigits 10 (n - 1).natAbs
    match ds with
    | d :: rest@(_ :: _) => d :: '.' :: rest ++ 'e' :: exponent
    | _ => ds ++ 'e' :: exponent

/-- The numeral of a number. Zero has no sign. -/
def text : Binary64 → String
  | .infinite negative => if negative then "-Infinity" else "Infinity"
  | .finite negative m e =>
    if m = 0 then "0"
    else
      let (ds, n) := (shortest m e).significant
      String.ofList ((if negative then ['-'] else []) ++ layout ds n)

example : (ofNat 123456789012345678901234).text = "1.2345678901234569e+23" := by decide +kernel

example : (ofNat (10 ^ 20)).text = "100000000000000000000" ∧ (ofNat (10 ^ 21)).text = "1e+21" := by
  decide +kernel

example : (ofDecimal false 5 (-324)).text = "5e-324" ∧ (ofDecimal true 15 (-1)).text = "-1.5" ∧
    (ofDecimal false 1 (-6)).text = "0.000001" ∧ (ofDecimal false 1 (-7)).text = "1e-7" := by
  decide +kernel

end Phrasebook.Binary64
