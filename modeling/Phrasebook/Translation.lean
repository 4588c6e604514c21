import Phrasebook.Rule.Standard
import Phrasebook.Settings
import Phrasebook.Text.Lowercase

/-!
# Translation

An instruction is translated in three steps: it is normalized, the first rule that accepts it is
looked up, and the snippet of that rule is rendered. An instruction that no rule accepts, and one
that is blank, have answers of their own and are no errors. It is an error when a rule accepts an
instruction and its snippet cannot be rendered.

The result depends only on the rules and the instruction. The settings decide which log records come
with it.

`normalize` models `normalize`, `RuleTable.translate` models `translateDetailed`, `Translation.text`
models what `translate` makes of its answer, and `traceRecord` models `trace`.
-/

namespace Phrasebook

/-- The form in which instructions are matched: lower case, without blanks at the ends. -/
def normalize (instruction : String) : String :=
  String.ofList (Text.trim (Text.lower instruction.toList))

/-- What an instruction means. -/
inductive Translation where
  /-- A rule rendered its snippet. -/
  | rendered (ruleId code : String)
  /-- No rule accepts the instruction. -/
  | unrecognized
  /-- The instruction is blank. -/
  | empty
  deriving DecidableEq, Repr

namespace Translation

def unrecognizedMarker : String := "# I don't understand. Type 'help' for available commands."
def emptyMarker : String := "# Please enter an instruction"

/-- The text that is shown for a translation. -/
def text : Translation → String
  | .rendered _ code => code
  | .unrecognized => unrecognizedMarker
  | .empty => emptyMarker

def kind : Translation → String
  | .rendered _ _ => "code"
  | .unrecognized => "unrecognized"
  | .empty => "empty"

/-- The translation as JSON. -/
def toJson : Translation → Json
  | .rendered ruleId code =>
    .object [("kind", .string "code"), ("ruleId", .string ruleId), ("code", .string code)]
  | t => .object [("kind", .string t.kind), ("code", .string t.text)]

end Translation

/-- Why an instruction cannot be translated. -/
inductive TranslationError where
  /-- A rule accepts the instruction, and a part of it is malformed. -/
  | synthesis (ruleId : String) (d : Diagnostic)
  /-- The snippet of a rule does not fit its trigger. -/
  | broken (e : SnippetError)
  deriving DecidableEq, Repr

namespace TranslationError

def ofSnippetError (ruleId : String) : SnippetError → TranslationError
  | .malformed d => .synthesis ruleId d
  | e => .broken e

end TranslationError

namespace RuleTable

/-- The translation of an instruction that is normalized and not blank. -/
def translateMatched (t : RuleTable) : Option (Rule × List Capture) →
    Except TranslationError Translation
  | none => .ok .unrecognized
  | some (rule, captures) =>
    match rule.snippet.render captures t.catalog with
    | .ok code => .ok (.rendered rule.id code)
    | .error e => .error (.ofSnippetError rule.id e)

/-- The translation of an instruction. -/
def translate (t : RuleTable) (instruction : String) : Except TranslationError Translation :=
  let normalized := normalize instruction
  if normalized = "" then .ok .empty else t.translateMatched (t.match? normalized)

/-! ## Log records -/

/-- The component that translation is logged under. -/
def component : String := "translator"

/-- The record of a match decision. -/
def traceRecord (settings : Settings) (normalized : String) (found : Option Rule) :
    List Log.Record :=
  let level := if settings.traceMatches then .info else .debug
  let instruction := ("instruction", Json.string normalized)
  match found with
  | none => (settings.logger component).log level "no rule matched" [instruction]
  | some rule =>
    (settings.logger component).log level "rule matched" [instruction, ("ruleId", .string rule.id)]

/-- The record of a malformed instruction. -/
def failureRecord (settings : Settings) : Except TranslationError Translation → List Log.Record
  | .error (.synthesis ruleId d) =>
    (settings.logger component).log .warn "synthesis failed"
      [("ruleId", .string ruleId), ("code", .string d.code), ("message", .string d.message)]
  | _ => []

/-- The records that come with the translation of an instruction. -/
def translationRecords (t : RuleTable) (settings : Settings) (instruction : String) :
    List Log.Record :=
  let normalized := normalize instruction
  if normalized = "" then []
  else
    let found := t.match? normalized
    traceRecord settings normalized (found.map (·.1)) ++
      failureRecord settings (t.translateMatched found)

end RuleTable

end Phrasebook
