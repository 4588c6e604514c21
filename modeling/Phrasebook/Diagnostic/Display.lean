import Phrasebook.Diagnostic.Basic
import Phrasebook.Text.Lines

/-!
# Showing diagnostics

A diagnostic is shown as one line. With a source text whose line is there and not empty, two more
lines follow: the source line behind its number, and a caret under the column where the span starts.

`display?` models `formatDiagnostic`.
-/

namespace Phrasebook.Diagnostic

/-- The line with severity, code, message and position. -/
def headline (d : Diagnostic) : String :=
  s!"{d.severity.name} {d.code}: {d.message} at {d.span.start.line}:{d.span.start.col}"

/-- The line of a source that a diagnostic is about, if the source has it and it is not empty. -/
def sourceLine? (d : Diagnostic) (source : String) : Option String :=
  if d.span.start.line < 1 then none
  else
    let line := (Text.lines source.toList)[(d.span.start.line - 1).toNat]?
    (line.filter (!·.isEmpty)).map String.ofList

/-- A text of blanks. -/
def indent (n : Nat) : String := String.ofList (List.replicate n ' ')

/-- The source line behind its number. -/
def echoLine (d : Diagnostic) (line : String) : String := s!"> {d.span.start.line}| {line}"

/-- A caret under the column where the span starts. A column before the first counts as the
first. -/
def caretLine (d : Diagnostic) : String :=
  s!"> {indent (toString d.span.start.line).length}  {indent (d.span.start.col - 1).toNat}^"

/-- The diagnostic with the source line that it is about. -/
def display (d : Diagnostic) (source : String) : String :=
  match d.sourceLine? source with
  | none => d.headline
  | some line => s!"{d.headline}\n{d.echoLine line}\n{d.caretLine}"

/-- A caret cannot be placed before the first column. -/
structure NegativeIndent where
  count : Int
  deriving DecidableEq, Repr

def NegativeIndent.describe (e : NegativeIndent) : String := s!"Invalid count value: {e.count}"

/-- The diagnostic with the source line that it is about, if a source is given. It fails when the
caret would have to stand before the first column. -/
def display? (d : Diagnostic) : Option String → Except NegativeIndent String
  | none => .ok d.headline
  | some source =>
    if (d.sourceLine? source).isSome ∧ d.span.start.col < 1 then .error ⟨d.span.start.col - 1⟩
    else .ok (d.display source)

end Phrasebook.Diagnostic
