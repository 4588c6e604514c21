import Phrasebook.Json.Basic

/-!
# The schema of case files

A case file is a list of objects with exactly two members: an instruction, and a text that its
translation has to contain, which is not empty. A JSON schema says so, and a validator that is made
from the schema checks the file. The validator is not part of the library: whatever is proved of
validation is proved of any validator with the properties that are named with it.

`Schema` has the keywords that the schema uses; its annotations (a title, the version of the schema
language) decide nothing and are left out.

`caseSchema` models `schema`, and a `Validator` models `validateCases` with the errors that it
leaves behind.
-/

namespace Phrasebook.SelfTest

/-- A JSON schema. A keyword that is missing allows everything. -/
structure Schema where
  /-- The name of the type that a value has. -/
  type : Option String := none
  /-- The least number of code points of a string. -/
  minLength : Option Nat := none
  /-- The keys that an object has. -/
  required : List String := []
  /-- An object may have keys that have no schema. -/
  additionalProperties : Bool := true
  /-- The schemas of the values of keys. -/
  properties : List (String × Schema) := []
  /-- The schema of the items of an array. -/
  items : Option Schema := none

def instructionKey : String := "instruction"
def expectedKey : String := "expected"

/-- The schema of an instruction. -/
def instructionSchema : Schema := { type := "string" }

/-- The schema of an expected text. -/
def expectedSchema : Schema := { type := "string", minLength := some 1 }

/-- The schema of a case. -/
def itemSchema : Schema where
  type := "object"
  properties := [(instructionKey, instructionSchema), (expectedKey, expectedSchema)]
  required := [instructionKey, expectedKey]
  additionalProperties := false

/-- The schema of a case file. -/
def caseSchema : Schema := { type := "array", items := itemSchema }

/-! ## Validators -/

/-- A keyword of a schema that a value violates. -/
inductive Violation where
  | type (expected : String)
  | minLength (limit : Nat)
  | required (key : String)
  | additionalProperties (key : Text.Points)
  deriving DecidableEq, Repr

/-- The name of the keyword. -/
def Violation.keyword : Violation → String
  | .type _ => "type"
  | .minLength _ => "minLength"
  | .required _ => "required"
  | .additionalProperties _ => "additionalProperties"

/-- What a validator reports of one violation. -/
structure SchemaError where
  /-- The JSON pointer to the value: `/` and a key or an index for each step from the root. -/
  instancePath : String
  violation : Violation
  message : Option String
  deriving DecidableEq, Repr

/-- What a validator says of a value. -/
structure Verdict where
  valid : Bool
  errors : Option (List SchemaError)

/-- The errors, if there are any. -/
def Verdict.reported (v : Verdict) : List SchemaError := v.errors.getD []

/-- What checks values against a schema. -/
abbrev Validator := Json Text.Points → Verdict

end Phrasebook.SelfTest
