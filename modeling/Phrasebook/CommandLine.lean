import Phrasebook.Number.Binary64

/-!
# The command line

The program has five commands, each with its options. It declares them to a parser, which reads the
command line: what comes back is a call of a command with its words and the values of its options,
or else a text of help or a refusal. The parser is not part of the library. `KeepsWords` says what
is relied on: the words behind the name of a command reach it as they are, and an option that is not
given has the value that is declared for it.

`declarations` and the readings of an `OptionValue` model the five commands of `main` and what their
actions do with the values of options.
-/

namespace Phrasebook.CommandLine

/-- The value of an option. -/
inductive OptionValue where
  | flag (b : Bool)
  | number (x : Binary64)
  | text (s : String)
  /-- Several values, or values with names of their own. -/
  | compound
  deriving DecidableEq, Repr

namespace OptionValue

/-- The value turns a switch on. -/
def isOn : OptionValue → Bool
  | .flag b => b
  | .number (.finite _ significand _) => significand != 0
  | .number (.infinite _) => true
  | .text s => s != ""
  | .compound => true

/-- A value that is a text. -/
def text? : OptionValue → Option String
  | .text s => some s
  | _ => none

/-- A value that is a number above zero. -/
def positive? : OptionValue → Option Binary64
  | .number x => if x.isPositive then some x else none
  | _ => none

end OptionValue

/-- The values of options. An option without a value is missing. -/
abbrev Options := List (String × OptionValue)

/-- The value of an option. -/
def Options.get? (options : Options) (name : String) : Option OptionValue :=
  (options.find? (·.1 == name)).map (·.2)

/-- An option as it is declared. -/
structure OptionSpec where
  /-- The name under which its value is found. -/
  name : String
  /-- The option as it is written: with a place for its value, or else it is a switch. -/
  written : String
  description : String
  /-- Its value if it is not given. -/
  default : Option OptionValue := none

/-- The commands. -/
inductive Verb where
  | translate
  | rules
  | selftest
  | run
  | repl
  deriving DecidableEq, Repr

/-- A command as it is declared. -/
structure Declaration where
  verb : Verb
  name : String
  /-- The words behind the name: `<...instruction>` stands for at least one, `[file]` for at most
  one. -/
  words : String := ""
  description : String
  options : List OptionSpec := []

/-- A switch that is off unless it is given. -/
def switch (name description : String) : OptionSpec where
  name := name
  written := "--" ++ name
  description := description
  default := some (.flag false)

def pythonOption : OptionSpec where
  name := "python"
  written := "--python <bin>"
  description := "Python interpreter (default: $NLCODE_PYTHON or python3)"

def timeoutOption : OptionSpec where
  name := "timeout"
  written := "--timeout <ms>"
  description := "Execution timeout in milliseconds"

/-- The declaration of a command. -/
def Verb.declaration : Verb → Declaration
  | .translate =>
    { verb := .translate, name := "translate", words := "<...instruction>",
      description := "Translate an instruction into Python code",
      options := [switch "json" "Print the structured result as JSON"] }
  | .rules =>
    { verb := .rules, name := "rules", description := "List the supported instruction templates",
      options := [switch "json" "Print the catalog as JSON"] }
  | .selftest =>
    { verb := .selftest, name := "selftest", words := "[file]",
      description := "Run the self-test cases (default: bundled selftest/cases.json)",
      options := [switch "verbose" "Also print the generated code of passing cases"] }
  | .run =>
    { verb := .run, name := "run", words := "<...instruction>",
      description := "Translate an instruction and execute the generated code",
      options := [pythonOption, timeoutOption] }
  | .repl =>
    { verb := .repl, name := "repl", description := "Start an interactive session",
      options := [switch "exec" "Execute each generated snippet", pythonOption] }

/-- The declarations, in their order. -/
def declarations : List Declaration :=
  [Verb.translate, .rules, .selftest, .run, .repl].map Verb.declaration

/-! ## Parsers -/

/-- What a command line is read as. -/
inductive Reading where
  /-- Help was asked for, and this text is shown. -/
  | help (text : String)
  /-- No command is meant; the text is the help that there is. -/
  | noCommand (help : String)
  /-- The command line is not one that was declared. -/
  | refused (message : String)
  | call (verb : Verb) (words : List String) (options : Options)

/-- What reads a command line by the declared commands. -/
abbrev Parser := List Declaration → List String → Reading

/-- Words that do not start with a dash are the words of the command whose name comes first, in
their order; no word is read as something else, and no option is given. -/
def KeepsWords (parser : Parser) : Prop :=
  ∀ (verb : Verb) (words : List String), words ≠ [] → (∀ w ∈ words, w.toList.head? ≠ some '-') →
    ∃ options, parser declarations (verb.declaration.name :: words) = .call verb words options ∧
      ∀ o ∈ verb.declaration.options, options.get? o.name = o.default

end Phrasebook.CommandLine
