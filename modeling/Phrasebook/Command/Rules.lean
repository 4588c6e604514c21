import Phrasebook.Transcript

/-!
# Listing the rules

The catalog of a table, in the order in which its rules are tried: as indented JSON, or as a table
whose first column is as wide as the widest template.

`rules` models `rulesCommand`, and `entryLine` a line of `printTable`.
-/

namespace Phrasebook

/-- The entry as JSON. -/
def CatalogEntry.toJson (e : CatalogEntry) : Json :=
  .object
    [("id", .string e.id), ("template", .string e.template),
     ("description", .string e.description), ("example", .string e.sample)]

namespace Command

/-- A text with blanks after it, up to a width in units. -/
def padded (width : Nat) (s : String) : String :=
  s ++ String.ofList (List.replicate (width - Text.units s.toList) ' ')

/-- The greatest width of a template, in units. -/
def templateWidth (catalog : List CatalogEntry) : Nat :=
  catalog.foldl (fun width e => max width (Text.units e.template.toList)) 0

/-- A line of the table. -/
def entryLine (width : Nat) (e : CatalogEntry) : String :=
  s!"{padded width e.template}  {e.description} (e.g. \"{e.sample}\")"

/-- Lists the rules of a table. -/
def rules {τ : Type} (json : Bool) (table : RuleTable τ) : Transcript Unit :=
  let events :=
    if json then [Console.plain (Json.array (table.catalog.map CatalogEntry.toJson)).pretty]
    else table.catalog.map fun e => Console.plain (entryLine (templateWidth table.catalog) e)
  { events, result := .ok () }

end Command

end Phrasebook
