import Phrasebook.Diagnostic.Fault
import Phrasebook.Json.Parser
import Phrasebook.SelfTest.Schema
import Phrasebook.Text.Utf8

/-!
# Case files

Loading a case file answers with the data of the file, if the validator of the schema accepts it, or
with diagnostics of what is wrong with the file. The texts of the data are code points, as they are
in the file; in the cases that are then run they are strings, so a lone surrogate is run as U+FFFD.

`validate` models `validateCaseData`, `load` models `loadCaseFile`, and `SchemaError.diagnostic`
models `mapAjvError`. The content of the file and the validator are arguments.
-/

namespace Phrasebook.SelfTest

/-- An instruction with a text that its translation has to contain. -/
structure Case where
  instruction : String
  expected : String
  deriving DecidableEq, Repr

namespace Case

/-- The case as JSON. -/
def toJson (c : Case) : Json :=
  .object [(instructionKey, .string c.instruction), (expectedKey, .string c.expected)]

end Case

/-- The case of an item that the schema allows. -/
def caseOf? : Json Text.Points → Option Case
  | .object ms =>
    match Json.Members.get? ms (Text.points instructionKey),
        Json.Members.get? ms (Text.points expectedKey) with
    | some (.string instruction), some (.string expected) =>
      some ⟨Text.ofPoints instruction, Text.ofPoints expected⟩
    | _, _ => none
  | _ => none

/-- The cases of data that the schema allows. -/
def casesOf : Json Text.Points → List Case
  | .array items => items.filterMap caseOf?
  | _ => []

/-! ## Validation -/

/-- What loading a case file answers with. -/
abbrev Loaded := Except (List Diagnostic) (Json Text.Points)

/-- The diagnostic of an error: its path, or that of the root, and its message, or else the name of
its keyword. -/
def SchemaError.diagnostic (e : SchemaError) : Diagnostic :=
  .caseFileInvalid (if e.instancePath = "" then "/" else e.instancePath)
    (e.message.getD e.violation.keyword)

/-- The data, if it is valid, or the diagnostics of its errors. -/
def validate (compile : Schema → Validator) (data : Json Text.Points) : Loaded :=
  let verdict := compile caseSchema data
  if verdict.valid then .ok data
  else .error (verdict.reported.map SchemaError.diagnostic)

/-! ## Files -/

/-- What is found at the path of a file. -/
inductive FileContent where
  | bytes (content : List UInt8)
  | missing
  | unreadable (reason : String)

/-- The data of a file, or its diagnostics. `notJson` is the reason that is given for a text that is
not JSON. -/
def load (compile : Schema → Validator) (notJson path : String) : FileContent → Loaded
  | .missing => .error [.caseFileMissing path]
  | .unreadable reason => .error [.caseFileUnreadable path reason]
  | .bytes content =>
    match Json.parsePoints? (Text.Utf8.decode content) with
    | none => .error [.caseFileUnreadable path notJson]
    | some data => validate compile data

end Phrasebook.SelfTest
