import Phrasebook.Json.Basic
import Phrasebook.Text.Digits

/-!
# Reading JSON

`Json.parsePoints?` reads a text that is one JSON value with blanks around it, in the strict form:
only the space, the tab, the line feed and the carriage return are blanks, strings hold no control
characters, numerals have no leading zeros, and no comma is left over. Of two members with one key
the later one counts. Texts are read as code points, since an escape can be half of a pair.

`Json.parse?` gives the value with its texts as strings, in which a lone surrogate is U+FFFD. It is
what was written only for a text without such escapes.

A reader returns what it has read and the text after it. Values are read with fuel, for which the
length of the text is enough, since each value takes at least one character.
-/

namespace Phrasebook.Json

/-- The text after the blanks at its start. -/
def skipBlanks (s : List Char) : List Char :=
  s.dropWhile fun c => c == ' ' || c == '\t' || c == '\n' || c == '\r'

/-! ## Strings -/

/-- The code unit that four hexadecimal digits denote. -/
def codeUnit? (a b c d : Char) : Option Nat := Text.ofDigits? 16 [a, b, c, d]

/-- The code point of a one-letter escape. -/
def shortEscape? : Char → Option Nat
  | '"' => some '"'.toNat
  | '\\' => some '\\'.toNat
  | '/' => some '/'.toNat
  | 'b' => some 0x08
  | 'f' => some 0x0C
  | 'n' => some 0x0A
  | 'r' => some 0x0D
  | 't' => some 0x09
  | _ => none

/-- The code points of a string up to its closing quote; surrogates are still apart. -/
def stringPoints : List Char → Option (List Nat × List Char)
  | [] => none
  | '"' :: s => some ([], s)
  | '\\' :: 'u' :: a :: b :: c :: d :: s => do
    let n ← codeUnit? a b c d
    let (ns, rest) ← stringPoints s
    some (n :: ns, rest)
  | '\\' :: c :: s => do
    let n ← shortEscape? c
    let (ns, rest) ← stringPoints s
    some (n :: ns, rest)
  | c :: s =>
    if c.toNat < 0x20 ∨ c = '\\' then none
    else do
      let (ns, rest) ← stringPoints s
      some (c.toNat :: ns, rest)

/-- Code points with each pair of surrogates made one. -/
def joinSurrogates : List Nat → Text.Points
  | [] => []
  | [n] => [n]
  | high :: low :: ns =>
    if 0xD800 ≤ high ∧ high < 0xDC00 ∧ 0xDC00 ≤ low ∧ low < 0xE000 then
      (0x10000 + (high - 0xD800) * 0x400 + (low - 0xDC00)) :: joinSurrogates ns
    else high :: joinSurrogates (low :: ns)

/-- A string after its opening quote. -/
def stringBody (s : List Char) : Option (Text.Points × List Char) :=
  (stringPoints s).map fun (ns, rest) => (joinSurrogates ns, rest)

/-! ## Numbers -/

/-- One or more digits. -/
def digits1 (s : List Char) : Option (List Char × List Char) :=
  let ds := s.takeWhile Text.isDigit
  if ds.isEmpty then none else some (ds, s.dropWhile Text.isDigit)

/-- The digits of a whole number, without a leading zero. -/
def wholePart (s : List Char) : Option (List Char × List Char) :=
  (digits1 s).filter fun (ds, _) => ds.head? != some '0' || ds.length == 1

/-- The digits after a decimal point, if there is one. -/
def fractionPart : List Char → Option (List Char × List Char)
  | '.' :: s => digits1 s
  | s => some ([], s)

/-- The number that digits denote. -/
def natOf (ds : List Char) : Nat := (Text.ofDigits? 10 ds).getD 0

/-- A signed exponent after its mark. -/
def signedExponent : List Char → Option (Int × List Char)
  | '-' :: s => (digits1 s).map fun (ds, rest) => (-(natOf ds : Int), rest)
  | '+' :: s => (digits1 s).map fun (ds, rest) => ((natOf ds : Int), rest)
  | s => (digits1 s).map fun (ds, rest) => ((natOf ds : Int), rest)

/-- The exponent, if there is one. -/
def exponentPart : List Char → Option (Int × List Char)
  | 'e' :: s | 'E' :: s => signedExponent s
  | s => some (0, s)

/-- A numeral without its sign. -/
def unsignedNumber (negative : Bool) (s : List Char) : Option (Binary64 × List Char) := do
  let (whole, s) ← wholePart s
  let (fraction, s) ← fractionPart s
  let (exponent, s) ← exponentPart s
  some (.ofDecimal negative (natOf (whole ++ fraction)) (exponent - fraction.length), s)

/-- A numeral. -/
def numberValue : List Char → Option (Binary64 × List Char)
  | '-' :: s => unsignedNumber true s
  | s => unsignedNumber false s

/-! ## Values -/

/-- The text after a word that has to stand at its start. -/
def expect (word : List Char) (s : List Char) : Option (List Char) :=
  if word.isPrefixOf s then some (s.drop word.length) else none

mutual

/-- A value after the blanks at the start of a text. -/
def readValue : Nat → List Char → Option (Json Text.Points × List Char)
  | 0, _ => none
  | fuel + 1, s =>
    match skipBlanks s with
    | [] => none
    | '"' :: s => (stringBody s).map fun (t, rest) => (.string t, rest)
    | '[' :: s =>
      match skipBlanks s with
      | ']' :: rest => some (.array [], rest)
      | s => (readItems fuel s).map fun (items, rest) => (.array items, rest)
    | '\x7b' :: s =>
      match skipBlanks s with
      | '\x7d' :: rest => some (.object [], rest)
      | s => (readMembers fuel [] s).map fun (ms, rest) => (.object ms, rest)
    | 't' :: s => (expect ['r', 'u', 'e'] s).map fun rest => (.bool true, rest)
    | 'f' :: s => (expect ['a', 'l', 's', 'e'] s).map fun rest => (.bool false, rest)
    | 'n' :: s => (expect ['u', 'l', 'l'] s).map fun rest => (.null, rest)
    | s => (numberValue s).map fun (x, rest) => (.number x, rest)

/-- The items of an array that is not empty, up to its closing bracket. -/
def readItems : Nat → List Char → Option (List (Json Text.Points) × List Char)
  | 0, _ => none
  | fuel + 1, s => do
    let (item, s) ← readValue fuel s
    match skipBlanks s with
    | ']' :: rest => some ([item], rest)
    | ',' :: s =>
      let (items, rest) ← readItems fuel s
      some (item :: items, rest)
    | _ => none

/-- The members of an object that is not empty, up to its closing brace, added to those before. -/
def readMembers :
    Nat → Members Text.Points → List Char → Option (Members Text.Points × List Char)
  | 0, _, _ => none
  | fuel + 1, ms, s =>
    match skipBlanks s with
    | '"' :: s => do
      let (key, s) ← stringBody s
      match skipBlanks s with
      | ':' :: s =>
        let (value, s) ← readValue fuel s
        let ms := ms.put key value
        match skipBlanks s with
        | '\x7d' :: rest => some (ms, rest)
        | ',' :: s => readMembers fuel ms s
        | _ => none
      | _ => none
    | _ => none

end

/-- The value that a text denotes. -/
def parsePoints? (s : List Char) : Option (Json Text.Points) := do
  let (j, rest) ← readValue (s.length + 1) s
  if (skipBlanks rest).isEmpty then some j else none

/-- The value that a text denotes, with its texts as strings: a lone surrogate is lost. -/
def parse? (s : List Char) : Option Json := (parsePoints? s).map ofPoints

end Phrasebook.Json
