import Phrasebook.Console
import Phrasebook.Translation

/-!
# Failures

What ends a command early, and how it is reported. Every failure is reported on the error stream,
and the program then exits with code 1. A failure that comes with diagnostics is reported as one
line for each, with a hint where the family of its code has one. Failures can come from outside the
program too, so the diagnostics of an error are JSON, and count as diagnostics only if each of them
has a code.

`report` models `handleError`, with `hint?` for `hintFor`, `listReport?` for `isDiagnosticArray` and
`printDiagnostics`, and `systemReport` for `handleNodeError`; `ofDiagnostics` models
`createDiagnosticsError`. There the class of a thrown value tells it apart, here the constructor of
`Failure`.
-/

namespace Phrasebook

/-- The position as JSON. -/
def Position.toJson (p : Position) : Json :=
  .object [("line", .ofInt p.line), ("col", .ofInt p.col)]

/-- The diagnostic as JSON. -/
def Diagnostic.toJson (d : Diagnostic) : Json :=
  .object
    [("severity", .string d.severity.name), ("code", .string d.code),
     ("message", .string d.message),
     ("span", .object [("start", d.span.start.toJson), ("end", d.span.stop.toJson)])]

namespace Json

mutual

/-- A value as it stands inside a sentence. Items of an array are separated by commas, and objects
are not looked into. -/
def inSentence : Json → String
  | .null => "null"
  | .bool b => if b then "true" else "false"
  | .number x => x.text
  | .string s => s
  | .array items => ",".intercalate (itemsInSentence items)
  | .object _ => "[object Object]"

/-- The items of an array as they stand inside a sentence; `null` leaves its place empty. -/
def itemsInSentence : List Json → List String
  | [] => []
  | .null :: items => "" :: itemsInSentence items
  | item :: items => inSentence item :: itemsInSentence items

end

end Json

/-- What ends a command early. -/
inductive Failure where
  /-- A rule accepted an instruction of which a part is malformed. -/
  | synthesis (ruleId : String) (d : Diagnostic)
  /-- A fault described by a diagnostic. -/
  | diagnostic (d : Diagnostic)
  /-- An error with a message, and with further properties. -/
  | error (message : String) (properties : Json.Members)
  /-- A value that is no error. -/
  | value (v : Json)

namespace Failure

/-- The property of an error that holds diagnostics. -/
def diagnosticsKey : String := "diagnostics"

/-- The property of an error that holds its code. -/
def codeKey : String := "code"

/-- The property of an error, and the member of a diagnostic, that holds its message. -/
def messageKey : String := "message"

/-- The property that says what a value is derived from. -/
def originKey : String := "__proto__"

/-- The message of an error that exists to carry diagnostics. -/
def carrierMessage : String := "CLI_DIAGNOSTIC_ERROR"

/-- An error that carries diagnostics. -/
def ofDiagnostics (ds : List Diagnostic) : Failure :=
  .error carrierMessage [(diagnosticsKey, .array (ds.map Diagnostic.toJson))]

def ofTranslationError : TranslationError → Failure
  | .synthesis ruleId d => .synthesis ruleId d
  | .broken e => .error e.describe []

/-! ## Reports -/

/-- The hint for a code, if there is one. -/
def hint? (code : String) : Option String :=
  if code = Diagnostic.invalidVariableCode then
    some "Variable names start with a letter or underscore and are not Python keywords"
  else match Diagnostic.family code with
    | .instruction => some "Dictionary entries are written as key:value, separated by commas"
    | .caseFile =>
      some "A case file is a JSON array of \x7b \"instruction\", \"expected\" \x7d objects"
    | _ => none

/-- The lines for a diagnostic. -/
def reportLine (code message : String) : List Console.Event :=
  Console.error s!"[{code}] {message}" ::
    match hint? code with
    | some hint => [Console.warn hint]
    | none => []

/-- The code and the message of a diagnostic that is given as JSON, if it has a code. -/
def codeAndMessage? : Json → Option (String × String)
  | .object ms =>
    match Json.Members.get? ms codeKey with
    | some (.string code) =>
      some (code, ((Json.Members.get? ms messageKey).map Json.inSentence).getD "undefined")
    | _ => none
  | _ => none

/-- The lines for diagnostics, if a value is a list of them. -/
def listReport? : Json → Option (List Console.Event)
  | .array items =>
    (items.mapM codeAndMessage?).map fun ds => ds.flatMap fun d => reportLine d.1 d.2
  | _ => none

/-- The line for an error that the operating system gave a code. -/
def systemReport (code message : String) : List Console.Event :=
  if code = "EACCES" ∨ code = "EPERM" then [Console.error s!"Permission denied: {message}"]
  else if code = "ENOENT" then [Console.error s!"File not found: {message}"]
  else [Console.error s!"File system error ({code}): {message}"]

/-- The line for a value that says nothing about itself. -/
def unknownReport : List Console.Event := [Console.error "An unknown error occurred"]

/-- An error with such a property is derived from something that is no error. -/
def isForeignOrigin : Json → Bool
  | .null | .array _ | .object _ => true
  | _ => false

/-- The report of an error: its diagnostics come first, then its code, then its message. A property
can take the place of the message, and can make the error something that is none. -/
def errorReport (message : String) (properties : Json.Members) : List Console.Event :=
  let message := ((Json.Members.get? properties messageKey).map Json.inSentence).getD message
  if ((Json.Members.get? properties originKey).map isForeignOrigin).getD false then unknownReport
  else
    match (Json.Members.get? properties diagnosticsKey).bind listReport? with
    | some lines => lines
    | none =>
      match Json.Members.get? properties codeKey with
      | some (.string code) => systemReport code message
      | _ => [Console.error message]

/-- The report of a failure. -/
def report : Failure → List Console.Event
  | .synthesis ruleId d =>
    Console.error s!"Rule '{ruleId}' matched but could not render the instruction" ::
      reportLine d.code d.message
  | .diagnostic d => reportLine d.code d.message
  | .error message properties => errorReport message properties
  | .value v => (listReport? v).getD unknownReport

/-- The exit code of the program after a failure. -/
def exitCode : Nat := 1

end Failure

end Phrasebook
