import Phrasebook.Transcript

/-!
# Translating an instruction

The words are joined by spaces to one instruction. Its translation is shown as code, or as indented
JSON. An instruction that no rule accepts is no failure, but a warning.

`translate` models `translateCommand`.
-/

namespace Phrasebook.Command

/-- The instruction that words make up. -/
def instructionOf (words : List String) : String := " ".intercalate words

/-- What is shown for a translation. -/
def translationEvents (json : Bool) (t : Translation) : List Console.Event :=
  if json then [Console.plain t.toJson.pretty]
  else
    Console.plain t.text ::
      match t with
      | .unrecognized => [Console.warn "No rule matched this instruction"]
      | _ => []

/-- Translates the instruction that words make up. -/
def translate (settings : Settings) (json : Bool) (words : List String) : Transcript Translation :=
  let instruction := instructionOf words
  let records := Console.records (standardRules.translationRecords settings instruction)
  match standardRules.translate instruction with
  | .error e => { events := records, result := .error (.ofTranslationError e) }
  | .ok t => { events := records ++ translationEvents json t, result := .ok t }

end Phrasebook.Command
