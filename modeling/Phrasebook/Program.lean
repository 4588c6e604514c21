import Phrasebook.Command.Check
import Phrasebook.Command.Rules
import Phrasebook.CommandLine
import Phrasebook.Session

/-!
# The program

A run of the program is a function of its command line and of its surroundings: the environment, the
standard input, the files, what runs a command, and the two packages that read a command line and
check a file against a schema. The result is everything that is shown, in order, and the exit code.

`run` models `main`, `perform` the actions of its commands, and `session` models `replCommand`. The
choice of the file in `loadNamed` is that of `loadCaseFile`. A standard input that is a terminal is
left out.
-/

namespace Phrasebook

/-- What surrounds a run of the program. -/
structure Surroundings where
  environment : Environment
  input : String
  /-- What is found at a path. -/
  file : String → SelfTest.FileContent
  runner : Runner
  /-- What reads the command line. -/
  parser : CommandLine.Parser
  /-- What makes the validator of a schema. -/
  compile : SelfTest.Schema → SelfTest.Validator
  /-- The reason that is given for a text that is not JSON. -/
  notJson : String

namespace Program

/-- Something that is shown. -/
inductive Shown where
  | event (e : Console.Event)
  /-- The prompt of a session; no line feed follows it. -/
  | prompt

namespace Shown

/-- It is shown on standard output. -/
def onOutput : Shown → Bool
  | .event e => e.stream == .log
  | .prompt => true

/-- Its text; `time` is written into log records. -/
def text (time : String) : Shown → String
  | .event e => e.text time ++ "\n"
  | .prompt => "> "

end Shown

/-- A run that has ended. -/
structure Ended where
  shown : List Shown
  exitCode : Nat

namespace Ended

/-- What was written to standard output. -/
def stdout (e : Ended) (time : String) : String :=
  String.join ((e.shown.filter Shown.onOutput).map (·.text time))

/-- What was written to the error stream. -/
def stderr (e : Ended) (time : String) : String :=
  String.join ((e.shown.filter (!·.onOutput)).map (·.text time))

/-- The run that a command makes up. -/
def ofTranscript {α : Type} (t : Transcript α) : Ended :=
  ⟨t.allEvents.map .event, t.finalExitCode⟩

/-- The run that ends with a failure before any command. -/
def ofFailure (f : Failure) : Ended := ⟨f.report.map .event, Failure.exitCode⟩

end Ended

/-! ## Sessions -/

/-- The text that a session starts with. -/
def banner : String :=
  "nlcode REPL\nType an instruction such as \"print numbers from 1 to 5\", or \"help\" for the " ++
    "command list.\nType \"exit\" to quit."

def farewell : Console.Event := Console.plain "Goodbye!"

/-- A character that ends a line of input. -/
def isLineBreak (c : Char) : Bool := c == '\n' || c == '\r'

/-- The lines of the input. CR and LF together are one line break, and a text after the last line
break is a line too. -/
def inputLines : List Char → List (List Char)
  | [] => []
  | '\r' :: '\n' :: s => [] :: inputLines s
  | c :: s =>
    if isLineBreak c then [] :: inputLines s
    else match inputLines s with
      | [] => [[c]]
      | line :: lines => (c :: line) :: lines

/-- What the answers to lines show, with a prompt before each line and at the end of the input. -/
def converse : List (Transcript Session.Next) → Ended
  | [] => ⟨[.prompt], 0⟩
  | t :: ts =>
    let shown := .prompt :: t.allEvents.map .event
    match t.result with
    | .error _ => ⟨shown, Failure.exitCode⟩
    | .ok .leave => ⟨shown ++ [.event farewell], 0⟩
    | .ok .stay =>
      let rest := converse ts
      ⟨shown ++ rest.shown, rest.exitCode⟩

/-- A session over the standard input. -/
def session (s : Surroundings) (settings : Settings) (options : Session.Options) : Ended :=
  let talk := converse (Session.conversation settings options (fun _ => s.runner) []
    ((inputLines s.input.toList).map String.ofList))
  ⟨.event (Console.plain banner) :: talk.shown, talk.exitCode⟩

/-! ## Requests -/

/-- The cases of the file that is named on the command line, or the bundled ones. -/
def loadNamed (s : Surroundings) :
    Option String → Except (List Diagnostic) (List SelfTest.Case)
  | none => .ok SelfTest.bundledCases
  | some path => (SelfTest.load s.compile s.notJson path (s.file path)).map SelfTest.casesOf

/-- Runs a command with its words and options. -/
def perform (s : Surroundings) (verb : CommandLine.Verb) (words : List String)
    (options : CommandLine.Options) : Ended :=
  let settings := Settings.ofEnvironment s.environment
  let isOn (name : String) : Bool := ((options.get? name).map (·.isOn)).getD false
  let interpreter := (options.get? "python").bind (·.text?)
  match verb with
  | .translate => .ofTranscript (Command.translate settings (isOn "json") words)
  | .rules => .ofTranscript (Command.rules (isOn "json") standardRules)
  | .selftest =>
    .ofTranscript (Command.check settings (isOn "verbose") (loadNamed s words.head?))
  | .run =>
    let timeout := (options.get? "timeout").bind (·.positive?)
    .ofTranscript (Command.run settings ⟨interpreter, timeout⟩ s.runner words)
  | .repl => session s settings ⟨isOn "exec", interpreter⟩

/-- Runs the program. -/
def run (s : Surroundings) (words : List String) : Ended :=
  match s.parser CommandLine.declarations words with
  | .help text | .noCommand text => ⟨[.event (Console.plain text)], 0⟩
  | .refused message => .ofFailure (.error message [])
  | .call verb words options => perform s verb words options

end Program

end Phrasebook
