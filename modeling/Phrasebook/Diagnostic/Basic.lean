/-!
# Diagnostics

A diagnostic reports one fault with a code, a message and the span of text that it is about. Codes
fall into families by their first two characters: `N0` for instructions, `N1` for case files, `N2`
for rule tables.

Models `Position`, `Span` and `Diagnostic`; `Position.origin` is `dummyPosition`.
-/

namespace Phrasebook

/-- A place in a text: line and column, both counted from 1, the column in units. -/
structure Position where
  line : Int
  col : Int
  deriving DecidableEq, Repr

/-- The start of a text, for faults that have no place in one. -/
def Position.origin : Position := ⟨1, 1⟩

/-- The part of a text from `start` up to, but not including, `stop`. -/
structure Span where
  start : Position
  stop : Position
  deriving DecidableEq, Repr

namespace Span

/-- The empty span at a position. -/
def single (p : Position) : Span := ⟨p, p⟩

/-- The span between two offsets of a text of one line. -/
def columns (start stop : Int) : Span := ⟨⟨1, start + 1⟩, ⟨1, stop + 1⟩⟩

end Span

inductive Severity where
  | error
  | warning
  deriving DecidableEq, Repr

def Severity.name : Severity → String
  | .error => "error"
  | .warning => "warning"

/-- A report of one fault. -/
structure Diagnostic where
  severity : Severity
  code : String
  message : String
  span : Span
  deriving DecidableEq, Repr

namespace Diagnostic

/-! ## Codes -/

def malformedPairCode : String := "N001"
def emptyKeyCode : String := "N002"
def invalidVariableCode : String := "N003"
def caseFileMissingCode : String := "N101"
def caseFileUnreadableCode : String := "N102"
def caseFileInvalidCode : String := "N103"
def duplicateRuleCode : String := "N201"

/-- The kinds of fault that codes are grouped by. -/
inductive Family where
  | instruction
  | caseFile
  | ruleTable
  | other
  deriving DecidableEq, Repr

/-- The family of a code, by how it starts. -/
def family (code : String) : Family :=
  match code.toList with
  | 'N' :: '0' :: _ => .instruction
  | 'N' :: '1' :: _ => .caseFile
  | 'N' :: '2' :: _ => .ruleTable
  | _ => .other

end Diagnostic

end Phrasebook
