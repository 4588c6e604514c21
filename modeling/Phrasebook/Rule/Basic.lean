import Phrasebook.Snippet

/-!
# Rules

A rule pairs a trigger with a snippet and describes itself for the catalog. A table is a list of
rules in the order in which they are tried: the first rule whose trigger accepts an instruction
decides, whatever the later ones would do. Building a table fails at the first definition whose id
is taken or whose pattern is malformed.

`compileWith` models `defineRule`, `buildWith` models `createRuleTable`, `catalog` models
`getCatalog`, and `firstMatch` models `match`. What compiles the anchored text of a pattern is a
parameter of the first two, with triggers of any type, and so is what `firstMatch` asks a trigger.
`compile?`, `build` and `match?` are their instances at the triggers of `Trigger`, which compile a
part of the syntax only.
-/

namespace Phrasebook

/-- A rule as it is written down. -/
structure RuleDefinition where
  id : String
  template : String
  description : String
  sample : String
  /-- The pattern of the trigger, without anchors. -/
  pattern : String
  snippet : Snippet
  deriving DecidableEq, Repr

/-- A rule with its trigger ready. -/
structure Rule (τ : Type := Trigger) extends CatalogEntry where
  trigger : τ
  snippet : Snippet
  deriving DecidableEq, Repr

/-- Rules in the order in which they are tried. -/
abbrev RuleTable (τ : Type := Trigger) := List (Rule τ)

/-- Why a table cannot be built. -/
inductive TableError where
  /-- An earlier definition has the same id. -/
  | duplicateId (id : String)
  /-- The pattern of a definition is malformed. -/
  | badPattern (source : String)
  deriving DecidableEq, Repr

/-- The diagnostic that reports it. A malformed pattern is an error of its own and has none. -/
def TableError.diagnostic? : TableError → Option Diagnostic
  | .duplicateId id => some (.duplicateRule id)
  | .badPattern _ => none

section

variable {τ : Type} (regex : String → Option τ)

/-- The rule of a definition, unless its pattern is malformed. It is the anchored text that `regex`
compiles. -/
def RuleDefinition.compileWith (d : RuleDefinition) : Option (Rule τ) :=
  (regex (Trigger.wrap d.pattern)).map fun t =>
    { id := d.id, template := d.template, description := d.description, sample := d.sample,
      trigger := t, snippet := d.snippet }

namespace RuleTable

/-- The rules of definitions whose ids have to differ from those already seen. -/
def buildAfter (seen : List String) : List RuleDefinition → Except TableError (RuleTable τ)
  | [] => .ok []
  | d :: ds =>
    if seen.contains d.id then .error (.duplicateId d.id)
    else match d.compileWith regex with
      | none => .error (.badPattern d.pattern)
      | some rule =>
        match buildAfter (d.id :: seen) ds with
        | .error e => .error e
        | .ok rules => .ok (rule :: rules)

/-- The table of definitions in their order. -/
def buildWith (ds : List RuleDefinition) : Except TableError (RuleTable τ) :=
  buildAfter regex [] ds

/-- The catalog of a table, in the order in which the rules are tried. -/
def catalog (t : RuleTable τ) : List CatalogEntry := t.map Rule.toCatalogEntry

/-- The first rule that accepts an instruction, with its captures. -/
def firstMatch (accepts : τ → String → Option (List Capture)) (t : RuleTable τ)
    (instruction : String) : Option (Rule τ × List Capture) :=
  t.findSome? fun r => (accepts r.trigger instruction).map (r, ·)

end RuleTable

end

/-! ## Triggers that are searched for -/

/-- The rule of a definition, with its trigger as a pattern. -/
def RuleDefinition.compile? (d : RuleDefinition) : Option Rule := d.compileWith Trigger.read?

namespace RuleTable

/-- The table of definitions in their order, with their triggers as patterns. -/
def build (ds : List RuleDefinition) : Except TableError RuleTable := buildWith Trigger.read? ds

/-- The first rule whose pattern accepts an instruction, with its captures. -/
def match? (t : RuleTable) (instruction : String) : Option (Rule × List Capture) :=
  t.firstMatch Trigger.match? instruction

end RuleTable

end Phrasebook
