/-!
# Quoted text

A text is written between double quotes; a backslash stands in front of each backslash and each
double quote, and every other character stands for itself.

`quote` models `renderString`.
-/

namespace Phrasebook.Quoted

/-- A character inside quotes. -/
def escape (c : Char) : List Char :=
  if c = '\\' ∨ c = '"' then ['\\', c] else [c]

/-- The characters between the quotes. -/
def body (s : List Char) : List Char := s.flatMap escape

/-- The quoted form of a text. -/
def quote (s : String) : String := String.ofList ('"' :: body s.toList ++ ['"'])

@[simp] theorem body_nil : body [] = [] := rfl

@[simp] theorem body_cons (c : Char) (s : List Char) : body (c :: s) = escape c ++ body s := rfl

example : quote "a\"b\\" = "\"a\\\"b\\\\\"" := by decide

end Phrasebook.Quoted
