import Phrasebook.Pattern.Tree
import Phrasebook.Text.Units

/-!
# Searching for a pattern

The search goes from left to right over the places where a match may start and takes the first
match. At each place it tries the ways in which the pattern can match in the order of preference:
the first alternative first, more repetitions first when greedy, fewer when not. A repetition beyond
the required ones has to take at least one character, and each repetition starts with the marks of
its groups removed.

The search is written with continuations: `Pattern.run p k s` gives the first answer of `k` among
the ways in which `p` can match at `s`.
-/

namespace Phrasebook

/-- The part of a text that a group took: its two ends, in units. -/
abbrev Mark := Nat × Nat

/-- A place in a text: the units before it, the characters after it, and the mark of each group. -/
structure Place where
  offset : Nat
  rest : List Char
  marks : List (Option Mark)
  deriving DecidableEq, Repr

namespace Place

/-- The place after the next character. -/
def advance (s : Place) (c : Char) (rest : List Char) : Place :=
  { s with offset := s.offset + Text.unitsOf c, rest := rest }

/-- The place with the mark of a group set. -/
def mark (s : Place) (index : Nat) (m : Mark) : Place :=
  { s with marks := s.marks.set index (some m) }

/-- The place with the marks of some groups removed. -/
def unmark (s : Place) (groups : List Nat) : Place :=
  { s with marks := groups.foldl (fun ms i => ms.set i none) s.marks }

end Place

namespace Pattern

variable {α : Type}

/-- A way to match: it hands each place where it can end to a continuation, in order of preference,
and returns the first answer. -/
abbrev Matcher (α : Type) := (Place → Option α) → Place → Option α

/-- The required repetitions. -/
def times (body : Matcher α) (groups : List Nat) : Nat → Matcher α
  | 0, k, s => k s
  | n + 1, k, s => body (times body groups n k) (s.unmark groups)

/-- The repetitions that are not required, at most `most` of them. Each takes a character, so the
length of the rest is fuel enough. -/
def upTo (body : Matcher α) (groups : List Nat) (greedy : Bool) : Nat → Option Nat → Matcher α
  | 0, _, k, s => k s
  | fuel + 1, most, k, s =>
    if most = some 0 then k s
    else
      let further (_ : Unit) : Option α :=
        body (fun s' =>
          if s'.offset = s.offset then none
          else upTo body groups greedy fuel (most.map (· - 1)) k s') (s.unmark groups)
      if greedy then (further ()).orElse fun _ => k s else (k s).orElse further

/-- Matches a pattern. -/
def run : Pattern → Matcher α
  | .empty, k, s => k s
  | .one cls, k, s =>
    match s.rest with
    | [] => none
    | c :: rest => if cls.contains c then k (s.advance c rest) else none
  | .seq p q, k, s => p.run (q.run k) s
  | .alt p q, k, s => (p.run k s).orElse fun _ => q.run k s
  | .group i p, k, s => p.run (fun s' => k (s'.mark i (s.offset, s'.offset))) s
  | .repeated p least most greedy, k, s =>
    times p.run p.groups least
      (fun s' => upTo p.run p.groups greedy s'.rest.length (most.map (· - least)) k s') s
  | .atStart, k, s => if s.offset = 0 then k s else none
  | .atEnd, k, s => if s.rest.isEmpty then k s else none

/-- The first match that starts at a given offset or later: the place where it ends. -/
def searchFrom (p : Pattern) (marks : List (Option Mark)) (offset : Nat) :
    List Char → Option Place
  | [] => p.run some ⟨offset, [], marks⟩
  | c :: s =>
    (p.run some ⟨offset, c :: s, marks⟩).orElse fun _ =>
      searchFrom p marks (offset + Text.unitsOf c) s

/-- The first match in a text, for a pattern with the given number of groups. -/
def search (p : Pattern) (groups : Nat) (s : List Char) : Option Place :=
  searchFrom p (List.replicate groups none) 0 s

end Pattern

end Phrasebook
