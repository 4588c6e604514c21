import Phrasebook.Pattern.Search

/-!
# Triggers

A trigger decides whether an instruction belongs to a rule and captures the parts of it that the
rule uses. It is written as a pattern without anchors; the trigger wraps it so that it has to take
the whole instruction.

Models the `trigger` that `defineRule` makes, and `toCaptures`. `read?` compiles the part of the
syntax of patterns that `Pattern.Token` names: it refuses assertions other than the anchors, named
groups, references to groups and most properties, which are well formed too. The standard rules use
none of these.
-/

namespace Phrasebook

/-- A captured part of an instruction, with the units in front of it. -/
structure Capture where
  text : String
  start : Nat
  deriving DecidableEq, Repr

/-- A pattern that is ready to be searched for, with its number of groups. -/
structure Trigger where
  pattern : Pattern
  groups : Nat
  deriving DecidableEq, Repr

namespace Trigger

/-- The anchored form of a written pattern. -/
def wrap (source : String) : String := "^(?:" ++ source ++ ")$"

/-- The trigger of a text that is searched for as it is. -/
def read? (source : String) : Option Trigger :=
  (Pattern.read? source.toList).map fun (p, n) => ⟨p, n⟩

/-- The trigger of a written pattern. It is the wrapped text that has to be well formed. -/
def compile? (source : String) : Option Trigger := read? (wrap source)

/-- The capture of a group: a group that took no part captures the empty text at the start. -/
def capture (instruction : List Char) : Option Mark → Capture
  | none => ⟨"", 0⟩
  | some (start, stop) => ⟨String.ofList (Text.slice instruction start stop), start⟩

/-- The captures of the first match in an instruction, one for each group. -/
def match? (t : Trigger) (instruction : String) : Option (List Capture) :=
  (t.pattern.search t.groups instruction.toList).map fun s =>
    s.marks.map (capture instruction.toList)

end Trigger

example : (Trigger.compile? "append (.+) to list").bind (·.match? "append a to list to list") =
    some [⟨"a to list", 7⟩] := by decide +kernel

example : ((Trigger.compile? "print (.+)").bind (·.match? "print ")).isNone := by decide +kernel

end Phrasebook
