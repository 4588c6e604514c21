import Phrasebook.Literal.Collection
import Phrasebook.Text.Letter
import Phrasebook.Text.Number
import Phrasebook.Trigger

/-!
# Snippets

A rule turns the captures of an instruction into a snippet of Python. `Snippet` lists the kinds of
snippet, and `Snippet.render` writes one. The names `my_list`, `my_string` and `my_dict` in a
snippet are provided by the program that it is run in.

Rendering is deterministic and reads its captures in order, so of several faults the one of the
earliest capture is reported.

The constructors of `Snippet` model the synthesizers of the same names; `captureAt` models
`capture`, `Operand.ofCapture?` models `renderOperand`, and `helpText` models `renderHelp`. A
synthesizer that throws is one that returns a `SnippetError`.
-/

namespace Phrasebook

/-- A line of the catalog: what a rule accepts and does. -/
structure CatalogEntry where
  id : String
  template : String
  description : String
  sample : String
  deriving DecidableEq, Repr

/-- The operations of arithmetic, each with the keyword that asks for it. -/
inductive Operation where
  | add
  | subtract
  | multiply
  | divide
  deriving DecidableEq, Repr

namespace Operation

def ofKeyword? : String → Option Operation
  | "add" => some .add
  | "subtract" => some .subtract
  | "multiply" => some .multiply
  | "divide" => some .divide
  | _ => none

def symbol : Operation → String
  | .add => "+"
  | .subtract => "-"
  | .multiply => "*"
  | .divide => "/"

end Operation

/-- The kinds of snippet. -/
inductive Snippet where
  /-- The same code each time. -/
  | fixed (code : String)
  /-- Prints the integers between two bounds, both included. -/
  | printRange
  /-- Prints a text. -/
  | printText
  /-- Prints the result of an operation on two integers. -/
  | arithmetic
  /-- Sets the list to the values of a comma-separated text. -/
  | createList
  /-- Appends one value to the list. -/
  | appendToList
  /-- Prints the square of an integer. -/
  | square
  /-- Sets the string. -/
  | createString
  /-- Sets the dictionary to the pairs of a comma-separated text. -/
  | createDictionary
  /-- Prints a text if a variable or an integer equals an integer. -/
  | conditional
  /-- Asks for a line of input. -/
  | askInput
  /-- A comment that lists the catalog. -/
  | help
  deriving DecidableEq, Repr

/-- Why a snippet cannot be rendered. -/
inductive SnippetError where
  /-- The rule has fewer groups than the snippet needs; captures are counted from 1. -/
  | missingCapture (number : Nat)
  /-- The captured word is no operation. -/
  | unknownKeyword (word : String)
  /-- The captured text is no integer. -/
  | notInteger (text : String)
  /-- The captured text is malformed. -/
  | malformed (d : Diagnostic)
  deriving DecidableEq, Repr

namespace SnippetError

def describe : SnippetError → String
  | .missingCapture n => s!"Missing capture group {n}"
  | .unknownKeyword word => s!"Unknown arithmetic keyword '{word}'"
  | .notInteger text => s!"Cannot convert {text} to a BigInt"
  | .malformed d => d.message

end SnippetError

namespace Snippet

/-- The capture at a place, counted from 0. -/
def captureAt (captures : List Capture) (i : Nat) : Except SnippetError Capture :=
  match captures[i]? with
  | some c => .ok c
  | none => .error (.missingCapture (i + 1))

/-- The integer that a text denotes; `shown` is the text that an error quotes. -/
def integerOf (text shown : String) : Except SnippetError Int :=
  match Integer.ofSource? text with
  | some n => .ok n
  | none => .error (.notInteger shown)

/-- The integer that a text denotes. An error quotes the text without the blanks around it. -/
def integer (text : String) : Except SnippetError Int :=
  integerOf text (String.ofList (Text.trim text.toList))

/-! ## Operands -/

/-- The reserved words that a lower-case instruction can hold. -/
def reservedWords : List String :=
  ["and", "as", "assert", "async", "await", "break", "class", "continue", "def", "del", "elif",
   "else", "except", "finally", "for", "from", "global", "if", "import", "in", "is", "lambda",
   "nonlocal", "not", "or", "pass", "raise", "return", "try", "while", "with", "yield"]

/-- A character that a name may start with. -/
def isNameStart (c : Char) : Bool := Text.isLetter c || c == '_'

/-- A character that a name may go on with. -/
def isNamePart (c : Char) : Bool := Text.isLetter c || Text.isNumber c || c == '_'

/-- A text that has the form of a name. -/
def isName : List Char → Bool
  | [] => false
  | c :: s => isNameStart c && s.all isNamePart

/-- The left side of a comparison. -/
inductive Operand where
  | integer (n : Int)
  | variable (name : String)
  deriving DecidableEq, Repr

namespace Operand

def render : Operand → String
  | .integer n => Integer.numeral n
  | .variable name => name

/-- Digits are an integer; anything else has to be a name that is not reserved. -/
def ofCapture? (c : Capture) : Except SnippetError Operand :=
  if !c.text.toList.isEmpty && c.text.toList.all Text.isDigit then
    (Snippet.integer c.text).map .integer
  else if isName c.text.toList && !reservedWords.contains c.text then .ok (.variable c.text)
  else .error (.malformed (.invalidVariable c.text c.start))

end Operand

/-! ## Rendering -/

def helpHeader : String := "# Available commands:"

/-- The catalog as comments, one line for each entry. -/
def helpText (catalog : List CatalogEntry) : String :=
  "\n".intercalate (helpHeader :: catalog.map fun e => s!"# {e.template} - {e.description}")

/-- The code of a snippet for the captures of an instruction. -/
def render (captures : List Capture) (catalog : List CatalogEntry) :
    Snippet → Except SnippetError String
  | .fixed code => .ok code
  | .printRange => do
    let first ← integer (← captureAt captures 0).text
    let last ← captureAt captures 1
    let stop := (← integerOf last.text last.text) + 1
    return s!"for i in range({Integer.numeral first}, {Integer.numeral stop}):\n    print(i)"
  | .printText => do
    let text ← captureAt captures 0
    return s!"print({Quoted.quote text.text})"
  | .arithmetic => do
    let word ← captureAt captures 0
    match Operation.ofKeyword? word.text with
    | none => .error (.unknownKeyword word.text)
    | some op =>
      let left ← integer (← captureAt captures 1).text
      let right ← integer (← captureAt captures 2).text
      return s!"print({Integer.numeral left} {op.symbol} {Integer.numeral right})"
  | .createList => do
    let list ← captureAt captures 0
    let items := ", ".intercalate ((listItems list.text).map Literal.render)
    return s!"my_list = [{items}]"
  | .appendToList => do
    let value ← captureAt captures 0
    return s!"my_list.append({(Literal.infer value.text).render})"
  | .square => do
    let n ← integer (← captureAt captures 0).text
    return s!"print({Integer.numeral n} ** 2)"
  | .createString => do
    let text ← captureAt captures 0
    return s!"my_string = {Quoted.quote text.text}"
  | .createDictionary => do
    let text ← captureAt captures 0
    match dictionaryPairs text.text text.start with
    | .error d => .error (.malformed d)
    | .ok pairs =>
      let body := ", ".intercalate (pairs.map Pair.render)
      return s!"my_dict = \x7b{body}\x7d"
  | .conditional => do
    let operand ← Operand.ofCapture? (← captureAt captures 0)
    let value ← integer (← captureAt captures 1).text
    let message ← captureAt captures 2
    return s!"if {operand.render} == {Integer.numeral value}: print({Quoted.quote message.text})"
  | .askInput => do
    let prompt ← captureAt captures 0
    return s!"user_input = input({Quoted.quote prompt.text})"
  | .help => .ok (helpText catalog)

end Snippet

end Phrasebook
