import Phrasebook.Command.Run
import Phrasebook.Diagnostic.Display

/-!
# Interactive sessions

A session answers one line after the other. A line that holds only an exit word ends it, and blank
lines are passed over. Any other line is an instruction: its code is shown between two dividers and,
if that is asked for, run in a fresh interpreter. A malformed instruction is shown with a caret
under the part that is malformed, and the session goes on.

Every line is answered on its own: nothing that an earlier line did matters to a later one.

`answer` models `handleReplLine`, and `conversation` the loop of `replCommand`.
-/

namespace Phrasebook.Session

/-- What follows a line. -/
inductive Next where
  | leave
  | stay
  deriving DecidableEq, Repr

/-- The choices of a session. -/
structure Options where
  /-- The code that a rule renders is run. -/
  execute : Bool := false
  /-- The interpreter that takes the place of the one of the settings. -/
  interpreter : Option String := none

/-- The words that end a session, in any letter case. -/
def exitWords : List String := ["exit", "quit", "q"]

/-- A line without the blanks at its ends. -/
def trimmed (line : String) : String := String.ofList (Text.trim line.toList)

/-- A text in lower case. -/
def lowered (s : String) : String := String.ofList (Text.lower s.toList)

/-- The code of an instruction, between two dividers. -/
def codeEvents (t : Translation) : List Console.Event :=
  [Console.divider, Console.plain t.text, Console.divider]

/-- Shows a translation and, if that is asked for, runs its code. -/
def answerTranslation (settings : Settings) (options : Options) (runner : Runner)
    (t : Translation) : Transcript Next :=
  match options.execute, t with
  | true, .rendered _ code =>
    let run := execute settings { interpreter := options.interpreter } runner code
    { events :=
        codeEvents t ++ Console.records run.records ++ Command.executionReport run.execution
      calls := [run.call]
      result := .ok .stay }
  | _, _ => { events := codeEvents t, result := .ok .stay }

/-- Answers an instruction that is not blank. -/
def answerInstruction (settings : Settings) (options : Options) (runner : Runner)
    (instruction : String) : Transcript Next :=
  let records := Console.records (standardRules.translationRecords settings instruction)
  match standardRules.translate instruction with
  | .ok t =>
    let rest := answerTranslation settings options runner t
    { rest with events := records ++ rest.events }
  | .error (.synthesis _ d) =>
    match d.display? (some (lowered instruction)) with
    | .ok text => { events := records ++ [Console.error text], result := .ok .stay }
    | .error e => { events := records, result := .error (.error e.describe []) }
  | .error e => { events := records, result := .error (.ofTranslationError e) }

/-- Answers a line. -/
def answer (settings : Settings) (options : Options) (runner : Runner) (line : String) :
    Transcript Next :=
  let instruction := trimmed line
  if exitWords.contains (lowered instruction) then { events := [], result := .ok .leave }
  else if instruction = "" then { events := [], result := .ok .stay }
  else answerInstruction settings options runner instruction

/-- The answers to lines, in order, up to the first one after which no line is read. What runs a
command may go by the calls that were made before; `made` are those. -/
def conversation (settings : Settings) (options : Options) (runners : List Call → Runner)
    (made : List Call) : List String → List (Transcript Next)
  | [] => []
  | line :: lines =>
    let t := answer settings options (runners made) line
    match t.result with
    | .ok .stay => t :: conversation settings options runners (made ++ t.calls) lines
    | _ => [t]

end Phrasebook.Session
