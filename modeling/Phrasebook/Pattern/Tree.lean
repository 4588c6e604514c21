import Phrasebook.Pattern.Token

/-!
# The written form of patterns: trees

A pattern tree is built from tokens with a stack of open groups. It fails where a parenthesis has no
partner, or where a quantifier has nothing in front of it that can be repeated.
-/

namespace Phrasebook

/-- A group that is still open: its number if it is marked, its finished alternatives, and the items
of the alternative that is being read, the latest first in both lists. `repeatable` says that the
latest item may take a quantifier. -/
structure OpenGroup where
  index : Option Nat := none
  finished : List Pattern := []
  items : List Pattern := []
  repeatable : Bool := false

namespace OpenGroup

/-- Adds an item to the current alternative. -/
def push (g : OpenGroup) (p : Pattern) (repeatable : Bool) : OpenGroup :=
  { g with items := p :: g.items, repeatable := repeatable }

/-- Ends the current alternative. -/
def endAlternative (g : OpenGroup) : OpenGroup :=
  { g with finished := .seqs g.items.reverse :: g.finished, items := [], repeatable := false }

/-- The pattern of everything read, without the group's own mark. -/
def body (g : OpenGroup) : Pattern := .alts g.endAlternative.finished.reverse

/-- The pattern of the group. -/
def close (g : OpenGroup) : Pattern :=
  match g.index with
  | some i => .group i g.body
  | none => g.body

end OpenGroup

/-- The groups that are open, from the innermost to the outermost, and the number of marked groups
met so far. -/
structure TreeBuilder where
  current : OpenGroup := {}
  outer : List OpenGroup := []
  groups : Nat := 0

namespace TreeBuilder

/-- Takes one token. -/
def step (b : TreeBuilder) : Token → Option TreeBuilder
  | .one k => some { b with current := b.current.push (.one k) true }
  | .atStart => some { b with current := b.current.push .atStart false }
  | .atEnd => some { b with current := b.current.push .atEnd false }
  | .bar => some { b with current := b.current.endAlternative }
  | .opening true => some ⟨{ index := some b.groups }, b.current :: b.outer, b.groups + 1⟩
  | .opening false => some ⟨{}, b.current :: b.outer, b.groups⟩
  | .closing =>
    match b.outer with
    | g :: gs => some ⟨g.push b.current.close true, gs, b.groups⟩
    | [] => none
  | .quantifier least most greedy =>
    match b.current.repeatable, b.current.items with
    | true, p :: ps =>
      some { b with
        current := { b.current with
          items := .repeated p least most greedy :: ps, repeatable := false } }
    | _, _ => none

/-- The finished pattern and its number of groups; every group has to be closed. -/
def finish (b : TreeBuilder) : Option (Pattern × Nat) :=
  if b.outer.isEmpty then some (b.current.body, b.groups) else none

end TreeBuilder

namespace Pattern

/-- The pattern that a sequence of tokens spells, with its number of groups. -/
def ofTokens? (ts : List Token) : Option (Pattern × Nat) :=
  (ts.foldlM TreeBuilder.step {}).bind TreeBuilder.finish

/-- The pattern that a text spells, with its number of groups. -/
def read? (source : List Char) : Option (Pattern × Nat) :=
  (Token.scan source).bind ofTokens?

end Pattern

example : Pattern.read? "a(b|c)*?".toList =
    some (.seq (.one (.single 0x61)) (.seq
      (.repeated (.group 0 (.alt (.seq (.one (.single 0x62)) .empty)
        (.seq (.one (.single 0x63)) .empty))) 0 none false) .empty), 1) := by decide +kernel

example : Pattern.read? "a)|(?:b".toList = none ∧ (Pattern.read? "(?:a)|(?:b)".toList).isSome := by
  decide +kernel

example : ["(", ")", "[", "*", "+a", "[b-a]", "]", "(?", "a**"].all
    fun s => (Pattern.read? s.toList).isNone := by decide +kernel

end Phrasebook
