import Phrasebook.Text.Blank
import Phrasebook.Text.Digits
import Phrasebook.Text.Letter
import Phrasebook.Text.LetterCase
import Phrasebook.Text.Number

/-!
# Patterns

A pattern describes a set of texts, and marks the parts of a text that its groups took. This module
holds the syntax tree and the character classes; `Pattern.Token` and `Pattern.Tree` read a tree from
its written form, and `Pattern.Search` looks for a match.
-/

namespace Phrasebook

/-- The character classes that have a name in a pattern. -/
inductive NamedClass where
  /-- `\d`: the ten ASCII digits. -/
  | digit
  /-- `\w`: ASCII letters, digits and the underscore. -/
  | word
  /-- `\s`: the blanks. -/
  | blank
  /-- `\p` with `L`: letters. -/
  | letter
  /-- `\p` with `N`: numbers. -/
  | number
  /-- `\p` with `Lu`: upper-case letters. -/
  | upper
  /-- `\p` with `Ll`: lower-case letters. -/
  | lower
  deriving DecidableEq, Repr

/-- An ASCII letter, an ASCII digit or the underscore. -/
def isWordChar (c : Char) : Bool :=
  Text.isDigit c || ('a' ≤ c && c ≤ 'z') || ('A' ≤ c && c ≤ 'Z') || c == '_'

def NamedClass.contains : NamedClass → Char → Bool
  | .digit => Text.isDigit
  | .word => isWordChar
  | .blank => Text.isBlank
  | .letter => Text.isLetter
  | .number => Text.isNumber
  | .upper => Text.isUpper
  | .lower => Text.isLower

/-- A member of a character class. A range is written in code points, so that it may hold values
that no character has. -/
inductive ClassItem where
  | range (first last : Nat)
  | named (kind : NamedClass) (negated : Bool)
  deriving DecidableEq, Repr

def ClassItem.contains : ClassItem → Char → Bool
  | .range first last, c => first ≤ c.toNat && c.toNat ≤ last
  | .named kind negated, c => kind.contains c != negated

/-- A set of characters: those of some item, or with `negated` those of none. -/
structure CharClass where
  items : List ClassItem
  negated : Bool := false
  deriving DecidableEq, Repr

namespace CharClass

def contains (k : CharClass) (c : Char) : Bool := k.items.any (·.contains c) != k.negated

/-- The class of one code point. -/
def single (n : Nat) : CharClass := ⟨[.range n n], false⟩

/-- The class that `.` stands for: every character that does not end a line. -/
def notLineEnd : CharClass :=
  ⟨[.range 0x0A 0x0A, .range 0x0D 0x0D, .range 0x2028 0x2029], true⟩

end CharClass

/-- A pattern. -/
inductive Pattern where
  /-- The empty text. -/
  | empty
  /-- One character of a class. -/
  | one (k : CharClass)
  /-- One pattern and then another. -/
  | seq (p q : Pattern)
  /-- Either pattern; the first one is preferred. -/
  | alt (p q : Pattern)
  /-- A pattern whose text is marked under a number, counted from 0. -/
  | group (index : Nat) (p : Pattern)
  /-- At least `least` and at most `most` repetitions; `greedy` prefers more of them. -/
  | repeated (p : Pattern) (least : Nat) (most : Option Nat) (greedy : Bool)
  /-- The empty text at the start of the whole text. -/
  | atStart
  /-- The empty text at the end of the whole text. -/
  | atEnd
  deriving DecidableEq, Repr

namespace Pattern

/-- The numbers of the groups inside a pattern. -/
def groups : Pattern → List Nat
  | .empty | .one _ | .atStart | .atEnd => []
  | .seq p q | .alt p q => p.groups ++ q.groups
  | .group i p => i :: p.groups
  | .repeated p _ _ _ => p.groups

/-- The patterns of a list one after the other. -/
def seqs (ps : List Pattern) : Pattern := ps.foldr .seq .empty

/-- Any pattern of the list, the first one preferred. -/
def alts : List Pattern → Pattern
  | [] => .empty
  | [p] => p
  | p :: ps => .alt p (alts ps)

end Pattern

end Phrasebook
