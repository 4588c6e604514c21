import Phrasebook.Proofs.Rule.Table
import Phrasebook.Proofs.Rule.TemplateTrigger
import Phrasebook.Rule.Standard

/-!
# What the standard rules recognize

Each standard rule has templates, and its trigger is the trigger of these templates. So a rule
accepts an instruction iff the instruction is one of its templates with the slots filled, and the
captures are what fills them.

Results:
* `standardRules_eq_map`: the rules are those of the templates.
* `match?_eq_some_iff_fit`: the trigger of a standard rule is a check for its templates.
* `match?_standardRules_iff`: the table answers with the first rule that an instruction fits, and
  with nothing iff it fits none.
-/

namespace Phrasebook

/-- The templates of the standard rules. -/
def standardTemplates : List (String × List Template) :=
  [("print-range", [[.words "print numbers from ", .slot .number, .words " to ", .slot .number]]),
   ("print-list", [[.words "print list"]]),
   ("print-string", [[.words "print string"]]),
   ("print-dictionary", [[.words "print dictionary"]]),
   ("print-text", [[.words "print ", .slot .text]]),
   ("arithmetic",
    [[.slot .keyword, .words " ", .slot .number, .words " and ", .slot .number]]),
   ("create-list", [[.words "create list ", .slot .text]]),
   ("append-list", [[.words "append ", .slot .text, .words " to list"]]),
   ("sort-list", [[.words "sort list"]]),
   ("square", [[.words "square ", .slot .number]]),
   ("create-string", [[.words "create string ", .slot .text]]),
   ("uppercase-string", [[.words "uppercase string"]]),
   ("create-dictionary", [[.words "create dictionary ", .slot .text]]),
   ("conditional",
    [[.words "if ", .slot .name, .words " equals ", .slot .number, .words " then print ",
      .slot .text]]),
   ("loop-list", [[.words "loop list"]]),
   ("ask-input", [[.words "ask input ", .slot .text]]),
   ("help", [[.words "help"], [.words "show commands"]])]

/-- The templates of a standard rule. -/
def templatesOf (id : String) : List Template := (standardTemplates.lookup id).getD []

/-! ## The rules -/

/-- The rule of a standard definition, with the trigger of its templates. -/
def templateRule (d : RuleDefinition) : Rule :=
  { id := d.id, template := d.template, description := d.description, sample := d.sample,
    trigger := Template.trigger (templatesOf d.id), snippet := d.snippet }

/-- The written patterns of the standard definitions are those of their templates. -/
theorem build_standardDefinitions :
    RuleTable.build standardDefinitions = .ok (standardDefinitions.map templateRule) := by
  decide +kernel

theorem standardRules_eq_map : standardRules = standardDefinitions.map templateRule := by
  unfold standardRules
  rw [build_standardDefinitions]

theorem wellFormed_templatesOf :
    ∀ d ∈ standardDefinitions, Template.wellFormed (templatesOf d.id) = true := by
  decide +kernel

theorem trigger_eq_of_mem {r : Rule} (hr : r ∈ standardRules) :
    r.trigger = Template.trigger (templatesOf r.id) ∧
      Template.wellFormed (templatesOf r.id) = true := by
  rw [standardRules_eq_map] at hr
  obtain ⟨d, hd, rfl⟩ := List.mem_map.1 hr
  exact ⟨rfl, wellFormed_templatesOf d hd⟩

theorem match?_eq_some_iff_fit {r : Rule} (hr : r ∈ standardRules) (s : String)
    (cs : List Capture) :
    r.trigger.match? s = some cs ↔ Template.Fit (templatesOf r.id) s cs := by
  obtain ⟨htrigger, hwf⟩ := trigger_eq_of_mem hr
  rw [htrigger, Template.match?_trigger_eq_some_iff hwf]

theorem match?_eq_none_iff_not_fit {r : Rule} (hr : r ∈ standardRules) (s : String) :
    r.trigger.match? s = none ↔ ∀ cs, ¬ Template.Fit (templatesOf r.id) s cs := by
  simp only [Option.eq_none_iff_forall_ne_some, ne_eq, match?_eq_some_iff_fit hr]

/-! ## The table -/

/-- An answer of the table comes from a definition whose templates the instruction fits. -/
theorem exists_fit_of_match? {s : String} {r : Rule} {cs : List Capture}
    (h : standardRules.match? s = some (r, cs)) :
    ∃ d ∈ standardDefinitions, r = templateRule d ∧ Template.Fit (templatesOf d.id) s cs := by
  obtain ⟨earlier, later, htable, hr, -⟩ := RuleTable.match?_eq_some_iff.1 h
  have hmem : r ∈ standardRules := by
    rw [htable]
    simp
  rw [match?_eq_some_iff_fit hmem] at hr
  rw [standardRules_eq_map] at hmem
  obtain ⟨d, hd, rfl⟩ := List.mem_map.1 hmem
  exact ⟨d, hd, rfl, hr⟩

/-- The standard rules recognize exactly their templates. The answer is a rule with captures iff the
captures fill a template of that rule and no earlier rule fits; a rule has one filling at most;
there is no answer iff no rule fits, and so for every text with a line end in it. -/
theorem match?_standardRules_iff (s : String) :
    (∀ r cs, standardRules.match? s = some (r, cs) ↔
      ∃ earlier later, standardRules = earlier ++ r :: later ∧
        Template.Fit (templatesOf r.id) s cs ∧
        ∀ q ∈ earlier, ∀ ds, ¬ Template.Fit (templatesOf q.id) s ds) ∧
    (∀ r ∈ standardRules, ∀ cs ds, Template.Fit (templatesOf r.id) s cs →
      Template.Fit (templatesOf r.id) s ds → cs = ds) ∧
    (standardRules.match? s = none ↔
      ∀ r ∈ standardRules, ∀ cs, ¬ Template.Fit (templatesOf r.id) s cs) ∧
    ((∃ c ∈ s.toList, isLineEnd c = true) → standardRules.match? s = none) := by
  have hnone : standardRules.match? s = none ↔
      ∀ r ∈ standardRules, ∀ cs, ¬ Template.Fit (templatesOf r.id) s cs := by
    rw [RuleTable.match?_eq_none_iff]
    exact forall₂_congr fun r hr => match?_eq_none_iff_not_fit hr s
  refine ⟨?_, ?_, hnone, ?_⟩
  · intro r cs
    rw [RuleTable.match?_eq_some_iff]
    refine exists₂_congr fun earlier later => and_congr_right fun htable => ?_
    have hmem : ∀ q ∈ earlier ++ r :: later, q ∈ standardRules := fun q hq => htable ▸ hq
    rw [match?_eq_some_iff_fit (hmem r (by simp))]
    refine and_congr_right fun _ => forall₂_congr fun q hq => ?_
    exact match?_eq_none_iff_not_fit (hmem q (by simp [hq])) s
  · intro r hr cs ds hcs hds
    exact hcs.unique (trigger_eq_of_mem hr).2 hds
  · rintro ⟨c, hc, hend⟩
    rw [hnone]
    intro r hr cs hfit
    have hline := hfit.not_lineEnd (trigger_eq_of_mem hr).2 c hc
    rw [hend] at hline
    exact absurd hline (by decide)

/-- A text slot can hold the words that follow it in the template. -/
theorem match?_append_to_list : ∃ r ∈ standardRules,
    standardRules.match? "append a to list to list" = some (r, [⟨"a to list", 7⟩]) ∧
    r.id = "append-list" ∧
    ∀ ds, Template.Fit (templatesOf r.id) "append a to list to list" ds →
      ds = [⟨"a to list", 7⟩] := by
  obtain ⟨hsome, hunique, -, -⟩ := match?_standardRules_iff "append a to list to list"
  have hmatch : (standardRules.match? "append a to list to list").map (fun a => (a.1.id, a.2)) =
      some ("append-list", [⟨"a to list", 7⟩]) := by
    rw [standardRules_eq_map]
    decide +kernel
  obtain ⟨⟨r, cs⟩, hr, he⟩ := Option.map_eq_some_iff.1 hmatch
  obtain ⟨hid, rfl⟩ := Prod.mk.inj he
  obtain ⟨earlier, later, htable, hfit, -⟩ := (hsome r _).1 hr
  have hmem : r ∈ standardRules := by
    rw [htable]
    simp
  exact ⟨r, hmem, hr, hid, fun ds hds => hunique r hmem ds _ hds hfit⟩

end Phrasebook
