import Phrasebook.Proofs.Snippet.Source
import Phrasebook.Rule.Standard

/-!
# Requests

An instruction that a standard rule accepts asks for something, with argument values: a `Request`.
`Request.ofCaptures?` takes the values from the captures, and `Request.frame` is the code that the
rule promises: fixed words, and holes for a reader of source.

Results:
* `Written.words`, `Written.hole`, `Written.readsBack`, `Written.last`: how code is put together
  from a frame.
* `Written.of_words`, `Written.of_hole`, `Written.of_last`: how a reader goes through such code.
-/

namespace Phrasebook

/-! ## What is asked for -/

/-- What an instruction of a standard rule asks for, with the argument values. -/
inductive Request where
  | printRange (first last : Int)
  | printList
  | printString
  | printDictionary
  | printText (text : String)
  | arithmetic (op : Operation) (left right : Int)
  | createList (values : List Literal)
  | appendList (value : Literal)
  | sortList
  | square (n : Int)
  | createString (text : String)
  | uppercaseString
  | createDictionary (pairs : List Pair)
  | conditional (operand : Snippet.Operand) (n : Int) (message : String)
  | loopList
  | askInput (message : String)
  | help
  deriving DecidableEq, Repr

/-- The left side of a comparison: digits stand for an integer, anything else for a name. -/
def operandOf (s : String) : Snippet.Operand :=
  if AllDigits s.toList then .integer (decimalValue s.toList) else .variable s

namespace Request

/-- The rule that a request belongs to. -/
def ruleId : Request → String
  | printRange .. => "print-range"
  | printList => "print-list"
  | printString => "print-string"
  | printDictionary => "print-dictionary"
  | printText .. => "print-text"
  | arithmetic .. => "arithmetic"
  | createList .. => "create-list"
  | appendList .. => "append-list"
  | sortList => "sort-list"
  | square .. => "square"
  | createString .. => "create-string"
  | uppercaseString => "uppercase-string"
  | createDictionary .. => "create-dictionary"
  | conditional .. => "conditional"
  | loopList => "loop-list"
  | askInput .. => "ask-input"
  | help => "help"

/-- What the captures of a rule ask for. A text is taken as it is; a number counts by its value. -/
def ofTexts? : String → List String → Option Request
  | "print-range", [first, last] =>
    some (printRange (decimalValue first.toList) (decimalValue last.toList))
  | "print-list", [] => some printList
  | "print-string", [] => some printString
  | "print-dictionary", [] => some printDictionary
  | "print-text", [text] => some (printText text)
  | "arithmetic", [word, left, right] => (Operation.ofKeyword? word).map fun op =>
    arithmetic op (decimalValue left.toList) (decimalValue right.toList)
  | "create-list", [text] => some (createList (valuesOf text))
  | "append-list", [text] => some (appendList (valueOf text.toList))
  | "sort-list", [] => some sortList
  | "square", [n] => some (square (decimalValue n.toList))
  | "create-string", [text] => some (createString text)
  | "uppercase-string", [] => some uppercaseString
  | "create-dictionary", [text] => some (createDictionary (pairsOf text))
  | "conditional", [operand, n, message] =>
    some (conditional (operandOf operand) (decimalValue n.toList) message)
  | "loop-list", [] => some loopList
  | "ask-input", [message] => some (askInput message)
  | "help", [] => some help
  | _, _ => none

/-- What the captures of a rule ask for. -/
def ofCaptures? (ruleId : String) (captures : List Capture) : Option Request :=
  ofTexts? ruleId (captures.map (·.text))

end Request

/-! ## Frames -/

/-- A part of a frame: fixed words, or a hole that a reader has to read as a value. -/
inductive FramePart : Type 1 where
  | words (w : String)
  | hole {α : Type} (r : Reader α) (a : α)

/-- The source is the frame with its holes filled. The reader of a hole takes what fills the hole
completely, on its own and in front of the source behind it, and returns the value. -/
def Written : List FramePart → List Char → Prop
  | [], s => s = []
  | .words w :: f, s => ∃ rest, s = w.toList ++ rest ∧ Written f rest
  | .hole r a :: f, s => ∃ w rest, s = w ++ rest ∧ r w = some (a, []) ∧ r s = some (a, rest) ∧
    Written f rest

namespace Request

/-- The code that a rule promises. -/
def frame : Request → List FramePart
  | printRange first last =>
    [.words "for i in range(", .hole Source.integer first, .words ", ",
      .hole Source.integer (last + 1), .words "):\n    print(i)"]
  | printList => [.words "print(my_list)"]
  | printString => [.words "print(my_string)"]
  | printDictionary => [.words "print(my_dict)"]
  | printText text => [.words "print(", .hole Source.text text, .words ")"]
  | arithmetic op left right =>
    [.words "print(", .hole Source.integer left, .words (" " ++ op.symbol ++ " "),
      .hole Source.integer right, .words ")"]
  | createList values =>
    [.words "my_list = [", .hole (Source.items Source.value) values, .words "]"]
  | appendList value => [.words "my_list.append(", .hole Source.value value, .words ")"]
  | sortList => [.words "my_list.sort()"]
  | square n => [.words "print(", .hole Source.integer n, .words " ** 2)"]
  | createString text => [.words "my_string = ", .hole Source.text text]
  | uppercaseString => [.words "my_string = my_string.upper()"]
  | createDictionary pairs =>
    [.words "my_dict = \x7b", .hole (Source.items Source.pair) pairs, .words "\x7d"]
  | conditional operand n message =>
    [.words "if ", .hole Source.operand operand, .words " == ", .hole Source.integer n,
      .words ": print(", .hole Source.text message, .words ")"]
  | loopList => [.words "for item in my_list:\n    print(item)"]
  | askInput message => [.words "user_input = input(", .hole Source.text message, .words ")"]
  | help => [.words (Snippet.helpText standardRules.catalog)]

end Request

/-! ## Putting code together -/

namespace Written

theorem words {f : List FramePart} {s : List Char} (w : String) (h : Written f s) :
    Written (.words w :: f) (w.toList ++ s) :=
  ⟨s, rfl, h⟩

theorem last (w : String) : Written [.words w] w.toList :=
  ⟨[], by rw [List.append_nil], rfl⟩

theorem hole {α : Type} {r : Reader α} {a : α} {f : List FramePart} {w s : List Char}
    (hw : ∀ rest, rest = [] ∨ rest = s → r (w ++ rest) = some (a, rest)) (h : Written f s) :
    Written (.hole r a :: f) (w ++ s) := by
  have halone := hw [] (.inl rfl)
  rw [List.append_nil] at halone
  exact ⟨w, s, rfl, halone, hw s (.inr rfl), h⟩

theorem readsBack {α : Type} {r : Reader α} {a : α} {f : List FramePart} {w : String}
    {s : List Char} (hw : Source.ReadsBack r w a) (hs : Source.NoDigit s) (h : Written f s) :
    Written (.hole r a :: f) (w.toList ++ s) := by
  refine hole ?_ h
  rintro rest (rfl | rfl)
  · exact hw [] Source.noDigit_nil
  · exact hw _ hs

/-! ## Going through code -/

theorem of_words {w : String} {f : List FramePart} {s : List Char}
    (h : Written (.words w :: f) s) : ∃ rest, s = w.toList ++ rest ∧ Written f rest :=
  h

theorem of_last {w : String} {s : List Char} (h : Written [.words w] s) : s = w.toList := by
  obtain ⟨rest, rfl, rfl⟩ := h
  exact List.append_nil _

theorem of_hole {α : Type} {r : Reader α} {a : α} {f : List FramePart} {s : List Char}
    (h : Written (.hole r a :: f) s) : ∃ rest, r s = some (a, rest) ∧ Written f rest := by
  obtain ⟨w, rest, -, -, hr, hf⟩ := h
  exact ⟨rest, hr, hf⟩

end Written

end Phrasebook
