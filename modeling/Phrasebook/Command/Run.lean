import Phrasebook.Command.Translate

/-!
# Running an instruction

The code of an instruction is shown and then run; only code that a rule rendered is run. The report
shows the standard output of the snippet as it is and, if the snippet failed, why. The exit code is
1 exactly when the code was run and did not succeed.

`run` models `runCommand`, `executionReport` models `reportExecution`, and `outputEvents` models
`printOutput`. The interpreter is a `Runner`.
-/

namespace Phrasebook.Command

/-- The standard output of a snippet, with a warning if a part of it is missing. -/
def outputEvents (stdout : String) (truncated : Bool) : List Console.Event :=
  Console.output stdout ++
    if truncated then
      [Console.warn s!"Output truncated to the first {Subprocess.BoundedOutput.defaultLimit} bytes"]
    else []

/-- The text of an exit code. -/
def exitCodeText (exitCode : Option Int) : String := (exitCode.map toString).getD "null"

/-- What is named as the reason of a failed run: the last line of the error output, or else the exit
code. -/
def failureReason (exitCode : Option Int) (stderr : String) : String :=
  if lastErrorLine stderr = "" then s!"exit code {exitCodeText exitCode}" else lastErrorLine stderr

/-- The report of a run. -/
def executionReport : Execution → List Console.Event
  | .succeeded stdout truncated =>
    outputEvents stdout truncated ++ [Console.success "Code executed successfully"]
  | .failed exitCode stdout stderr truncated =>
    outputEvents stdout truncated ++
      [Console.error s!"Error: {failureReason exitCode stderr}",
       Console.warn "Make sure to create variables before using them"]
  | .timedOut timeout stdout truncated =>
    outputEvents stdout truncated ++
      [Console.error s!"Execution timed out after {timeout.text} ms"]
  | .notStarted message =>
    [Console.error s!"Cannot start the Python interpreter: {message}"]

/-- Runs the code of a translation that a rule rendered. -/
def runCode (settings : Settings) (options : RunOptions) (runner : Runner) (code : String) :
    Transcript (Option Execution) :=
  let run := execute settings options runner code
  { events :=
      [Console.plain code, Console.divider] ++ Console.records run.records ++
        executionReport run.execution
    calls := [run.call]
    exitCode := if run.execution.ok then 0 else 1
    result := .ok (some run.execution) }

/-- Shows the text of a translation that is not run. -/
def skipCode (text : String) : Transcript (Option Execution) :=
  { events := [Console.plain text, Console.warn "Nothing to run"], result := .ok none }

/-- Translates and runs the instruction that words make up. -/
def run (settings : Settings) (options : RunOptions) (runner : Runner) (words : List String) :
    Transcript (Option Execution) :=
  let instruction := instructionOf words
  let records := Console.records (standardRules.translationRecords settings instruction)
  match standardRules.translate instruction with
  | .error e => { events := records, result := .error (.ofTranslationError e) }
  | .ok t =>
    let rest := match t with
      | .rendered _ code => runCode settings options runner code
      | t => skipCode t.text
    { rest with events := records ++ rest.events }

end Phrasebook.Command
