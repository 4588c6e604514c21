import Phrasebook.Literal.Integer
import Phrasebook.Literal.Quoted

/-!
# Literals

A value in an instruction is written without quotes. `Literal.infer` decides what it is: an integer
if it has the form of one, else a text. The blanks around it never belong to the value.

`infer` models `inferLiteral`.
-/

namespace Phrasebook

/-- A value of a program. -/
inductive Literal where
  | integer (n : Int)
  | text (s : String)
  deriving DecidableEq, Repr

namespace Literal

/-- The source form of a value. -/
def render : Literal → String
  | .integer n => Integer.numeral n
  | .text s => Quoted.quote s

/-- The value that a token of an instruction stands for. -/
def infer (token : String) : Literal :=
  let trimmed := String.ofList (Text.trim token.toList)
  if Integer.isToken trimmed then
    match Integer.ofSource? trimmed with
    | some n => .integer n
    | none => .text trimmed
  else .text trimmed

example : infer " 007 " = .integer 7 ∧ infer "-0" = .integer 0 ∧ infer "+1" = .text "+1" := by
  decide

end Literal

end Phrasebook
