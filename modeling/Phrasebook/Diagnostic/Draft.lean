import Phrasebook.Diagnostic.Basic

/-!
# Drafts of diagnostics

A draft collects the parts of a diagnostic in any order. It can be finished once it has a code, a
message and a span; an empty code or message counts as none, and the first missing part in that
order is reported.

Models `DiagnosticBuilder`. `build` takes the proof that no part is missing and so always has a
diagnostic; `finish` is the builder that asks.
-/

namespace Phrasebook.Diagnostic

/-- The parts of a diagnostic given so far. -/
structure Draft where
  severity : Severity := .error
  code : String := ""
  message : String := ""
  span : Option Span := none
  deriving DecidableEq, Repr

namespace Draft

/-- A part that a draft lacks. -/
inductive Missing where
  | code
  | message
  | span
  deriving DecidableEq, Repr

def Missing.describe : Missing → String
  | .code => "Diagnostic code is required"
  | .message => "Diagnostic message is required"
  | .span => "Diagnostic span is required"

/-- A draft with a severity and a code. -/
def of (severity : Severity) (code : String) : Draft := { severity, code }

def withMessage (d : Draft) (message : String) : Draft := { d with message }

/-- The draft of a fault at one position. -/
def withPosition (d : Draft) (p : Position) : Draft := { d with span := some (.single p) }

/-- The draft of a fault between two offsets of a text of one line. -/
def withColumns (d : Draft) (start stop : Int) : Draft :=
  { d with span := some (.columns start stop) }

/-- The first part that is missing. -/
def missing? (d : Draft) : Option Missing :=
  if d.code = "" then some .code
  else if d.message = "" then some .message
  else if d.span.isNone then some .span
  else none

theorem missing?_eq_none_iff {d : Draft} :
    d.missing? = none ↔ d.code ≠ "" ∧ d.message ≠ "" ∧ d.span.isSome = true := by
  rw [missing?]
  by_cases hcode : d.code = ""
  · simp [hcode]
  · by_cases hmessage : d.message = ""
    · simp [hcode, hmessage]
    · cases d.span <;> simp [hcode, hmessage]

/-- The diagnostic of a draft in which no part is missing. -/
def build (d : Draft) (h : d.missing? = none) : Diagnostic :=
  { severity := d.severity
    code := d.code
    message := d.message
    span := d.span.get (missing?_eq_none_iff.1 h).2.2 }

/-- The diagnostic of a draft, unless a part is missing. -/
def finish (d : Draft) : Except Missing Diagnostic :=
  match h : d.missing? with
  | some part => .error part
  | none => .ok (d.build h)

end Draft

end Phrasebook.Diagnostic
