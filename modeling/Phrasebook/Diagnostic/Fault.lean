import Phrasebook.Diagnostic.Draft
import Phrasebook.Text.Units

/-!
# Faults

Each kind of fault has one function here, which words its message. A fault in an instruction quotes
a piece of the instruction and has it for its span; the other faults have no place in a text and
stand at its start.

Models `Diagnostics`. Each function there returns a builder that lacks no part: the proof of that
stands beside the words here, and the functions return what is built.
-/

namespace Phrasebook.Diagnostic

/-- What a draft needs to be complete once it has a span. -/
def Worded (code message : String) : Prop := code ≠ "" ∧ message ≠ ""

/-- A fault that quotes a piece of an instruction: its span is that piece. -/
def about (code message fragment : String) (offset : Int) (h : Worded code message) : Diagnostic :=
  (((Draft.of .error code).withMessage message).withColumns offset
    (offset + Text.units fragment.toList)).build (Draft.missing?_eq_none_iff.2 ⟨h.1, h.2, rfl⟩)

/-- A fault that has no place in a text. -/
def placeless (code message : String) (h : Worded code message) : Diagnostic :=
  (((Draft.of .error code).withMessage message).withPosition .origin).build
    (Draft.missing?_eq_none_iff.2 ⟨h.1, h.2, rfl⟩)

/-- A piece of a dictionary does not have exactly one colon. -/
def malformedPair (pair : String) (offset : Int) : Diagnostic :=
  about malformedPairCode s!"Expected exactly one ':' in dictionary pair '{pair}'" pair offset
    (by simp [Worded, malformedPairCode, toString])

/-- A piece of a dictionary has a blank key. -/
def emptyKey (pair : String) (offset : Int) : Diagnostic :=
  about emptyKeyCode s!"Dictionary pair '{pair}' has an empty key" pair offset
    (by simp [Worded, emptyKeyCode, toString])

/-- The left side of a comparison is neither a number nor a variable. -/
def invalidVariable (name : String) (offset : Int) : Diagnostic :=
  about invalidVariableCode s!"'{name}' is not a valid variable name" name offset
    (by simp [Worded, invalidVariableCode, toString])

/-- There is no case file at a path. -/
def caseFileMissing (path : String) : Diagnostic :=
  placeless caseFileMissingCode s!"Case file not found: {path}"
    (by simp [Worded, caseFileMissingCode, toString])

/-- The case file at a path cannot be read or is not JSON. -/
def caseFileUnreadable (path reason : String) : Diagnostic :=
  placeless caseFileUnreadableCode s!"Cannot parse case file {path}: {reason}"
    (by simp [Worded, caseFileUnreadableCode, toString])

/-- A case file does not have the required form; `path` leads to the entry. -/
def caseFileInvalid (path reason : String) : Diagnostic :=
  placeless caseFileInvalidCode s!"Invalid case file entry at {path}: {reason}"
    (by simp [Worded, caseFileInvalidCode, toString])

/-- Two rules of a table have one id. -/
def duplicateRule (id : String) : Diagnostic :=
  placeless duplicateRuleCode s!"Duplicate rule id '{id}'"
    (by simp [Worded, duplicateRuleCode, toString])

end Phrasebook.Diagnostic
