import Phrasebook.Text.Blank
import Phrasebook.Text.Digits

/-!
# Integer literals

Reading and writing integers of any size. Blanks around an integer are ignored.

* `ofSource?` reads the full form: the empty text is zero, decimal digits may carry one sign, and
  the bases 16, 8 and 2 are marked by `0x`, `0o` or `0b` and carry none.
* `isToken` recognises the narrow form in which an instruction may name an integer: decimal digits
  with an optional minus sign.

`isToken` models `isIntegerToken`, and `ofSource?` with `numeral` models `renderInteger`.
-/

namespace Phrasebook.Integer

/-- Digits after the mark of a base, the mark in either case. -/
def ofMarked? : List Char → Option Nat
  | '0' :: 'x' :: s | '0' :: 'X' :: s => Text.ofDigits? 16 s
  | '0' :: 'o' :: s | '0' :: 'O' :: s => Text.ofDigits? 8 s
  | '0' :: 'b' :: s | '0' :: 'B' :: s => Text.ofDigits? 2 s
  | _ => none

/-- Decimal digits with at most one sign. -/
def ofSigned? : List Char → Option Int
  | '-' :: s => (Text.ofDigits? 10 s).map fun n => -(n : Int)
  | '+' :: s => (Text.ofDigits? 10 s).map fun n => (n : Int)
  | s => (Text.ofDigits? 10 s).map fun n => (n : Int)

/-- The integer that a text without blanks around it denotes. -/
def ofTrimmed? (s : List Char) : Option Int :=
  if s.isEmpty then some 0
  else match ofMarked? s with
    | some n => some n
    | none => ofSigned? s

/-- The integer that a text denotes. -/
def ofSource? (s : String) : Option Int := ofTrimmed? (Text.trim s.toList)

/-- One or more decimal digits after an optional minus sign. -/
def isNarrow : List Char → Bool
  | '-' :: s => !s.isEmpty && s.all Text.isDigit
  | s => !s.isEmpty && s.all Text.isDigit

/-- The text names an integer. -/
def isToken (s : String) : Bool := isNarrow (Text.trim s.toList)

/-- The decimal numeral of an integer: no leading zero, and a minus sign only below zero. -/
def numeral (n : Int) : String := toString n

example : ofSource? " -007 " = some (-7) ∧ ofSource? "" = some 0 ∧ ofSource? "0XfF" = some 255 := by
  decide

example : ofSource? "-0x1" = none ∧ ofSource? "1_0" = none ∧ ofSource? "- 1" = none ∧
    ofSource? "0b2" = none := by decide

example : isToken " -12" ∧ ¬ isToken "+1" ∧ ¬ isToken "-" ∧ ¬ isToken "" := by decide

end Phrasebook.Integer
