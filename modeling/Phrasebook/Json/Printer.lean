import Phrasebook.Json.Basic
import Phrasebook.Number.Shortest
import Phrasebook.Text.Digits

/-!
# Writing JSON

`Json.render` writes a value without spaces, and `Json.pretty` writes each member and item on a line
of its own, indented by two spaces for each level. In a string only the double quote, the backslash
and the control characters below U+0020 are escaped. Members whose keys are array indices come
first, in ascending order; the others follow in their own order.
-/

namespace Phrasebook.Json

/-- The last hexadecimal digit of a number, in lower case. -/
def hexChar (n : Nat) : Char := Nat.digitChar (n % 16)

/-- A character inside a string. -/
def escape (c : Char) : List Char :=
  if c = '"' then ['\\', '"']
  else if c = '\\' then ['\\', '\\']
  else if c.toNat = 0x08 then ['\\', 'b']
  else if c.toNat = 0x09 then ['\\', 't']
  else if c.toNat = 0x0A then ['\\', 'n']
  else if c.toNat = 0x0C then ['\\', 'f']
  else if c.toNat = 0x0D then ['\\', 'r']
  else if c.toNat < 0x20 then ['\\', 'u', '0', '0', hexChar (c.toNat / 16), hexChar c.toNat]
  else [c]

/-- A string with its quotes. -/
def quote (s : String) : String := String.ofList ('"' :: s.toList.flatMap escape ++ ['"'])

/-- The number that a key denotes if it is an array index: the numeral, without leading zeros, of a
number below `2 ^ 32 - 1`. -/
def arrayIndex? (key : String) : Option Nat :=
  if key.toList.head? = some '0' ∧ key ≠ "0" then none
  else (Text.ofDigits? 10 key.toList).filter (· < Nat.pow 2 32 - 1)

/-- Puts a numbered item in front of the first one with a greater number. -/
def insertAscending {β : Type} (x : Nat × β) : List (Nat × β) → List (Nat × β)
  | [] => [x]
  | y :: ys => if x.1 < y.1 then x :: y :: ys else y :: insertAscending x ys

/-- Members in the order in which they are written. -/
def writingOrder {α : Type} (ms : List (String × α)) : List (String × α) :=
  let indices := ms.filterMap fun m => (arrayIndex? m.1).map (·, m)
  (indices.foldr insertAscending []).map (·.2) ++ ms.filter (arrayIndex? ·.1 |>.isNone)

/-- How values are spread over lines: all on one, or indented, with the depth of the value. -/
inductive Layout where
  | compact
  | indented (depth : Nat)

namespace Layout

/-- The layout of what stands inside a value. -/
def deeper : Layout → Layout
  | .compact => .compact
  | .indented depth => .indented (depth + 1)

/-- A line break and the indentation of a level, or nothing. -/
def lineBreak : Layout → String
  | .compact => ""
  | .indented depth => String.ofList ('\n' :: List.replicate (2 * depth) ' ')

/-- What stands between a key and its value. -/
def colon : Layout → String
  | .compact => ":"
  | .indented _ => ": "

/-- Parts between an opening and a closing mark, with commas. -/
def enclose (layout : Layout) (opening closing : String) (parts : List String) : String :=
  if parts.isEmpty then opening ++ closing
  else
    opening ++ layout.deeper.lineBreak ++ ("," ++ layout.deeper.lineBreak).intercalate parts ++
      layout.lineBreak ++ closing

end Layout

mutual

/-- The text of a value in a layout. A number that is not finite is written as `null`. -/
def write (layout : Layout) : Json → String
  | .null => "null"
  | .bool b => if b then "true" else "false"
  | .number x =>
    match x with
    | .finite _ _ _ => x.text
    | .infinite _ => "null"
  | .string s => quote s
  | .array items => layout.enclose "[" "]" (writeItems layout.deeper items)
  | .object members =>
    layout.enclose "\x7b" "\x7d"
      ((writingOrder (writeMembers layout.deeper members)).map fun m =>
        quote m.1 ++ layout.colon ++ m.2)

/-- The texts of the items of an array. -/
def writeItems (layout : Layout) : List Json → List String
  | [] => []
  | item :: items => write layout item :: writeItems layout items

/-- The keys of an object with the texts of their values. -/
def writeMembers (layout : Layout) : List (String × Json) → List (String × String)
  | [] => []
  | (key, value) :: members => (key, write layout value) :: writeMembers layout members

end

/-- The text of a value, on one line. -/
def render (j : Json) : String := write .compact j

/-- The text of a value, on indented lines. -/
def pretty (j : Json) : String := write (.indented 0) j

example : quote "a\"\\\n\x01é" = "\"a\\\"\\\\\\n\\u0001é\"" := by decide +kernel

example : render (.object [("b", ofInt (-1)), ("10", .array []), ("9", .null)]) =
    "\x7b\"9\":null,\"10\":[],\"b\":-1\x7d" := by decide +kernel

example : pretty (.array [.object [("a", .bool true)], .object []]) =
    "[\n  \x7b\n    \"a\": true\n  \x7d,\n  \x7b\x7d\n]" := by decide +kernel

end Phrasebook.Json
