import Phrasebook.Diagnostic.Fault
import Phrasebook.Literal.Basic
import Phrasebook.Text.Lines

/-!
# Lists and dictionaries

A list is written as tokens separated by commas. A dictionary is written as pieces separated by
commas, each with exactly one colon between a key and a value; a key is a text and is not blank. The
first piece that breaks this is reported with the place where it stands in the instruction.

`listItems` models `renderListItems`, and `dictionaryPairs` models `renderDictionaryEntries`.
-/

namespace Phrasebook

/-- The pieces between the commas of a text. -/
def pieces (s : String) : List (List Char) := Text.splitAt ',' s.toList

/-- The values of a list. -/
def listItems (s : String) : List Literal := (pieces s).map fun t => .infer (String.ofList t)

/-- A key of a dictionary with its value. -/
structure Pair where
  key : String
  value : Literal
  deriving DecidableEq, Repr

namespace Pair

/-- The source form of a pair. -/
def render (e : Pair) : String := s!"{Quoted.quote e.key}: {e.value.render}"

/-- The offset of the first character of a piece that is not blank, or the end of a blank piece. -/
def contentStart (offset : Nat) (piece : List Char) : Nat :=
  offset + (Text.units piece - Text.units (Text.trimStart piece))

/-- Reads one piece that starts at an offset. -/
def ofPiece? (offset : Nat) (piece : List Char) : Except Diagnostic Pair :=
  let quoted := String.ofList (Text.trim piece)
  let place : Int := contentStart offset piece
  match Text.splitAt ':' piece with
  | [key, value] =>
    if Text.isBlankText key then .error (.emptyKey quoted place)
    else .ok ⟨String.ofList (Text.trim key), .infer (String.ofList value)⟩
  | _ => .error (.malformedPair quoted place)

/-- Reads pieces in order, the first one at an offset and a comma between two of them. -/
def ofPieces? (offset : Nat) : List (List Char) → Except Diagnostic (List Pair)
  | [] => .ok []
  | piece :: rest =>
    match ofPiece? offset piece with
    | .error d => .error d
    | .ok e =>
      match ofPieces? (offset + Text.units piece + 1) rest with
      | .error d => .error d
      | .ok es => .ok (e :: es)

end Pair

/-- The pairs of a dictionary whose text starts at an offset of the instruction. -/
def dictionaryPairs (s : String) (start : Nat) : Except Diagnostic (List Pair) :=
  Pair.ofPieces? start (pieces s)

example : listItems "1, a b,,-2" = [.integer 1, .text "a b", .text "", .integer (-2)] := by decide

example : dictionaryPairs "a:1, b : x " 18 = .ok [⟨"a", .integer 1⟩, ⟨"b", .text "x"⟩] := rfl

example : dictionaryPairs "a:1, :2" 18 = .error (.emptyKey ":2" 23) := rfl

end Phrasebook
