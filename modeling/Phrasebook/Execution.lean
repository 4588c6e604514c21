import Phrasebook.Settings
import Phrasebook.Subprocess.Run
import Phrasebook.Text.Blank
import Phrasebook.Text.Lines

/-!
# Running snippets

A snippet is run in a fresh interpreter, as part of a program that first provides the three
variables snippets use. Whatever the interpreter does, running ends in one of four ways and never
fails: the snippet succeeded, it ended with another exit code, it took too long, or the interpreter
could not be started. Taking too long counts before any exit code.

`programOf` models `buildProgram`, `Runner` models `ProcessRunner`, `Execution` models
`ExecutionResult`, `execute` models `executeSnippet`, and `lastErrorLine` models `lastErrorLine`. A
runner is a function of its call: the promise that it gives there is what it is settled with here.
-/

namespace Phrasebook

/-- The lines that provide the variables of a snippet. -/
def setup : String := "my_list = []\nmy_string = \"\"\nmy_dict = \x7b\x7d"

/-- The program that runs a snippet. -/
def programOf (code : String) : String := setup ++ "\n" ++ code ++ "\n"

/-- A command that is to be run, with the time it may take in milliseconds. -/
structure Call where
  command : String
  args : List String
  timeout : Binary64
  deriving DecidableEq

/-- What runs a command: it gives the outcome, or the message of a failure to start. -/
abbrev Runner := Call → Except String Subprocess.Outcome

/-- What an attempt to run a command can end with in place of an outcome. -/
inductive Thrown where
  /-- An error with a message. -/
  | error (message : String)
  /-- A text that is no error. -/
  | text (s : String)
  deriving DecidableEq, Repr

/-- What is told of it: the message of an error, and a text as it is. -/
def Thrown.message : Thrown → String
  | .error message => message
  | .text s => s

/-- The runner that takes whatever is thrown as a failure to start. -/
def Runner.catching (attempt : Call → Except Thrown Subprocess.Outcome) : Runner := fun call =>
  (attempt call).mapError Thrown.message

/-- How the run of a snippet ended. -/
inductive Execution where
  | succeeded (stdout : String) (truncated : Bool)
  | failed (exitCode : Option Int) (stdout stderr : String) (truncated : Bool)
  | timedOut (timeout : Binary64) (stdout : String) (truncated : Bool)
  | notStarted (message : String)
  deriving DecidableEq

namespace Execution

/-- The snippet ran to its end without an error. -/
def ok : Execution → Bool
  | .succeeded _ _ => true
  | _ => false

/-- The end of a run with a given result. -/
def ofResult (timeout : Binary64) : Except String Subprocess.Outcome → Execution
  | .error message => .notStarted message
  | .ok o =>
    if o.timedOut then .timedOut timeout o.stdout o.truncated
    else if o.exitCode = some 0 then .succeeded o.stdout o.truncated
    else .failed o.exitCode o.stdout o.stderr o.truncated

end Execution

/-- Choices that take the place of the settings for one run. -/
structure RunOptions where
  interpreter : Option String := none
  timeout : Option Binary64 := none

/-- The call that runs a snippet. -/
def callFor (settings : Settings) (options : RunOptions) (code : String) : Call where
  command := options.interpreter.getD settings.interpreter
  args := ["-c", programOf code]
  timeout := options.timeout.getD settings.timeout

/-- The log records of a run. -/
def executionRecords (settings : Settings) (call : Call) : Execution → List Log.Record
  | .succeeded _ _ => []
  | .failed exitCode _ _ _ =>
    (settings.logger "python-host").log .debug "execution failed"
      [("exitCode", (exitCode.map Json.ofInt).getD .null)]
  | .timedOut timeout _ _ =>
    (settings.logger "python-host").log .warn "execution timed out" [("timeoutMs", .number timeout)]
  | .notStarted message =>
    (settings.logger "python-host").log .warn "failed to start interpreter"
      [("pythonBin", .string call.command), ("message", .string message)]

/-- The run of a snippet: the one call it makes, how it ended, and its log records. -/
structure Executed where
  call : Call
  execution : Execution
  records : List Log.Record

/-- Runs a snippet. -/
def execute (settings : Settings) (options : RunOptions) (runner : Runner) (code : String) :
    Executed :=
  let call := callFor settings options code
  let execution := Execution.ofResult call.timeout (runner call)
  ⟨call, execution, executionRecords settings call execution⟩

/-- The last line of an error output that is not blank, or the empty text if all are. -/
def lastErrorLine (stderr : String) : String :=
  let shown := (Text.lines stderr.toList).filter (!Text.isBlankText ·)
  String.ofList (shown.getLast?.getD [])

example : lastErrorLine "Traceback\r\nNameError: x\n \n" = "NameError: x" := by decide

example : lastErrorLine " \n\t" = "" := by decide

end Phrasebook
