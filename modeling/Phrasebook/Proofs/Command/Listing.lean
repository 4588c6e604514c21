import Phrasebook.Command.Rules
import Phrasebook.Proofs.Console
import Phrasebook.Proofs.Json.RoundTrip

/-!
# The list of the rules

The rules are listed in the order of their table: one line for each, with the descriptions in a
column, or one JSON text, with four lines inside of each object.

Results:
* `parsePoints?_quote`: a quoted text can be read back.
* `tabulates_rules`: the lines.
* `pretty_entries`: the JSON text.
-/

namespace Phrasebook

open Phrasebook.Text

/-- A quoted text is the JSON text of that text. -/
theorem Json.parsePoints?_quote (s : String) :
    parsePoints? (quote s).toList = some (.string (Text.points s)) := by
  have hquote : quote s = (Json.string s).render := rfl
  rw [hquote, parsePoints?_render (.string s)]
  rfl

namespace CatalogEntry

/-! ## Lines -/

/-- The line of an entry, with the description behind a template of some width. -/
def row (width : Nat) (e : CatalogEntry) : String :=
  e.template ++ String.ofList (List.replicate (width - units e.template.toList) ' ') ++ "  " ++
    e.description ++ " (e.g. \"" ++ e.sample ++ "\")"

/-- Each entry has a line, in their order, and the column is as wide as the widest template. -/
def Tabulates (es : List CatalogEntry) (events : List Console.Event) : Prop :=
  ∃ width, (∀ e ∈ es, units e.template.toList ≤ width) ∧
    (es ≠ [] → ∃ e ∈ es, units e.template.toList = width) ∧
    events = es.map fun e => .line .log (e.row width)

theorem entryLine_eq (width : Nat) (e : CatalogEntry) :
    Command.entryLine width e = e.row width := by
  simp [Command.entryLine, Command.padded, row, toString, String.append_assoc]

/-- The width that the templates of a part of a catalog have, if those before it have `width`. -/
theorem foldl_width (es : List CatalogEntry) (width : Nat) :
    let w := es.foldl (fun width e => max width (units e.template.toList)) width
    width ≤ w ∧ (∀ e ∈ es, units e.template.toList ≤ w) ∧
      (w = width ∨ ∃ e ∈ es, units e.template.toList = w) := by
  induction es generalizing width with
  | nil => exact ⟨Nat.le_refl _, by simp, .inl rfl⟩
  | cons e es ih =>
    obtain ⟨hle, hall, hfrom⟩ := ih (max width (units e.template.toList))
    refine ⟨by simp only [List.foldl_cons]; omega, ?_, ?_⟩
    · simp only [List.foldl_cons, List.forall_mem_cons]
      exact ⟨by omega, hall⟩
    · simp only [List.foldl_cons, List.exists_mem_cons_iff]
      rcases hfrom with hsame | hmore
      · omega
      · exact .inr (.inr hmore)

theorem tabulates_rules {τ : Type} (t : RuleTable τ) :
    Tabulates t.catalog (Command.rules false t).events := by
  obtain ⟨-, hall, hfrom⟩ := foldl_width t.catalog 0
  refine ⟨Command.templateWidth t.catalog, hall, fun hne => ?_, ?_⟩
  · rcases hfrom with hzero | hmore
    · obtain ⟨e, he⟩ := List.exists_mem_of_ne_nil _ hne
      have hle : units e.template.toList ≤ _ := hall e he
      exact ⟨e, he, by rw [Command.templateWidth]; omega⟩
    · exact hmore
  · simp only [Command.rules, Console.plain_eq, entryLine_eq]
    rfl

/-! ## JSON -/

/-- The object of an entry, with each member on a line of its own. -/
def objectText (e : CatalogEntry) : String :=
  "\x7b\n    " ++ ",\n    ".intercalate
    ["\"id\": " ++ Json.quote e.id, "\"template\": " ++ Json.quote e.template,
      "\"description\": " ++ Json.quote e.description, "\"example\": " ++ Json.quote e.sample] ++
    "\n  \x7d"

/-- The array of the entries, in their order. -/
def arrayText (es : List CatalogEntry) : String :=
  if es = [] then "[]" else "[\n  " ++ ",\n  ".intercalate (es.map objectText) ++ "\n]"

theorem write_toJson (e : CatalogEntry) : e.toJson.write (.indented 1) = e.objectText := by
  have horder : ∀ m ∈ [("id", Json.quote e.id), ("template", Json.quote e.template),
      ("description", Json.quote e.description), ("example", Json.quote e.sample)],
      Json.arrayIndex? m.1 = none := by
    simp only [List.forall_mem_cons, List.not_mem_nil, false_implies, implies_true, and_true]
    decide +kernel
  have hkeys : Json.quote "id" ++ ": " = "\"id\": " ∧
      Json.quote "template" ++ ": " = "\"template\": " ∧
      Json.quote "description" ++ ": " = "\"description\": " ∧
      Json.quote "example" ++ ": " = "\"example\": " := by
    decide +kernel
  have hmarks : "\x7b" ++ "\n    " = "\x7b\n    " ∧ "," ++ "\n    " = ",\n    " ∧
      "\n  " ++ "\x7d" = "\n  \x7d" := by decide
  have hbreaks : Json.Layout.lineBreak (.indented 1) = "\n  " ∧
      Json.Layout.lineBreak (.indented (1 + 1)) = "\n    " := by decide
  obtain ⟨hid, htemplate, hdescription, hexample⟩ := hkeys
  obtain ⟨hopening, hcomma, hclosing⟩ := hmarks
  simp only [toJson, Json.write, Json.writeMembers, Json.writingOrder_eq_self horder, List.map_cons,
    List.map_nil, Json.Layout.enclose, Json.Layout.deeper, Json.Layout.colon, List.isEmpty_cons,
    Bool.false_eq_true, if_false, hbreaks, hid, htemplate, hdescription, hexample, hopening, hcomma]
  simp only [objectText, String.append_assoc, hclosing]

theorem pretty_entries (es : List CatalogEntry) :
    (Json.array (es.map toJson)).pretty = arrayText es := by
  have hobjects : Json.writeItems (.indented 1) (es.map toJson) = es.map objectText := by
    rw [Json.writeItems_eq_map, List.map_map]
    exact List.map_congr_left fun e _ => write_toJson e
  have hmarks : "[" ++ "]" = "[]" ∧ "[" ++ "\n  " = "[\n  " ∧ "," ++ "\n  " = ",\n  " ∧
      "\n" ++ "]" = "\n]" := by decide
  have hbreaks : Json.Layout.lineBreak (.indented 0) = "\n" ∧
      Json.Layout.lineBreak (.indented (0 + 1)) = "\n  " := by decide
  obtain ⟨hempty, hopening, hcomma, hclosing⟩ := hmarks
  simp only [Json.pretty, Json.write, Json.Layout.deeper, Json.Layout.enclose, Nat.zero_add,
    hobjects, List.isEmpty_iff, List.map_eq_nil_iff, hbreaks, hempty, hopening, hcomma,
    String.append_assoc, hclosing, arrayText]

end CatalogEntry

end Phrasebook
