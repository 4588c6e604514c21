import Phrasebook.Proofs.Rule.Recognition
import Phrasebook.Proofs.Rule.Table
import Phrasebook.Proofs.Text.Trim

/-!
# The order of the standard rules

Two standard rules accept a common instruction only if one of them is `print-text` and the other one
is a special case of it. So the order of the table matters for these pairs only.

Results:
* `not_fit_of_apart`: templates whose first words exclude each other have no common instruction.
* `match?_congr_of_perm`: two orders of a table agree on an instruction if they have the same order
  on the rules that accept it.
* `match?_perm_standardRules_iff`: the standard rules in another order recognize the same
  instructions in the same way iff the special cases stand before `print-text`.
-/

namespace Phrasebook

open Phrasebook.Text

/-! ## Templates that exclude each other -/

namespace Template

/-- The words that a text of the template can start with. -/
def heads : Template → List (List Char)
  | .words w :: _ => [w.toList]
  | .slot .keyword :: .words w :: _ => arithmeticKeywords.map (· ++ w.toList)
  | _ => [[]]

/-- No text can start with the first words of both. -/
def apart (ts us : List Template) : Bool :=
  ts.all fun t => us.all fun u => t.heads.all fun v => u.heads.all (Text.apart v)

theorem exists_head_prefix {t : Template} {o : Nat} {s : List Char} {cs : List Capture}
    (h : Fills t o s cs) : ∃ w ∈ t.heads, w <+: s := by
  cases h with
  | nil o => exact ⟨[], by simp [heads], List.nil_prefix⟩
  | @words w _ _ s _ h => exact ⟨w.toList, by simp [heads], List.prefix_append _ s⟩
  | @slot k w t _ s cs hw h =>
    cases k with
    | keyword =>
      cases h with
      | @words v _ _ s _ h =>
        refine ⟨w ++ v.toList, List.mem_map_of_mem hw, ?_⟩
        rw [← List.append_assoc]
        exact List.prefix_append _ s
      | _ => exact ⟨[], by simp [heads], List.nil_prefix⟩
    | _ => exact ⟨[], by simp [heads], List.nil_prefix⟩

/-- Templates whose first words exclude each other have no common instruction. -/
theorem not_fit_of_apart {ts us : List Template} (h : apart ts us = true) {s : String}
    {cs ds : List Capture} (ht : Fit ts s cs) : ¬ Fit us s ds := by
  rintro ⟨u, hu, hfu⟩
  obtain ⟨t, ht, hft⟩ := ht
  obtain ⟨v, hv, hvs⟩ := exists_head_prefix hft
  obtain ⟨w, hw, hws⟩ := exists_head_prefix hfu
  simp only [apart, List.all_eq_true] at h
  exact not_isPrefix_of_apart (h t ht u hu v hv w hw) hvs hws

end Template

/-! ## Two orders of one table -/

namespace RuleTable

/-- The answer of a table by the id of its rule. -/
def recognize (t : RuleTable) (s : String) : Option (String × List Capture) :=
  (t.match? s).map fun (r, cs) => (r.id, cs)

/-- Two orders of a table agree on an instruction if they have the same order on the rules that
accept it: no rule that accepts it comes first in one and later in the other. -/
theorem match?_congr_of_perm {t u : RuleTable} (hp : u.Perm t) (hnodup : (t.map (·.id)).Nodup)
    {s : String} (h : ∀ q ∈ t, ∀ r ∈ t, (q.trigger.match? s).isSome → (r.trigger.match? s).isSome →
      (t.map (·.id)).idxOf q.id < (t.map (·.id)).idxOf r.id →
      (u.map (·.id)).idxOf q.id < (u.map (·.id)).idxOf r.id) : u.match? s = t.match? s := by
  cases ht : t.match? s with
  | none =>
    rw [match?_eq_none_iff] at ht ⊢
    exact fun r hr => ht r (hp.subset hr)
  | some a =>
    obtain ⟨r, cs⟩ := a
    obtain ⟨earlier, later, hsplit, hr, hearlier⟩ := match?_eq_some_iff.1 ht
    have hrt : r ∈ t := by rw [hsplit]; simp
    obtain ⟨before, after, hu⟩ := List.append_of_mem (hp.symm.subset hrt)
    refine match?_eq_some_iff.2 ⟨before, after, hu, hr, fun q hq => ?_⟩
    -- a rule that came first here and accepts would come first in the other order too
    by_contra hne
    have hqt : q ∈ t := hp.subset (by rw [hu]; simp [hq])
    have hnodup' : (u.map (·.id)).Nodup := (hp.map _).nodup_iff.2 hnodup
    have hlt := idxOf_lt_of_split hnodup' hu hq
    have hlater : q ∈ later := by
      have hmem : q ∈ earlier ++ r :: later := hsplit ▸ hqt
      rcases List.mem_append.1 hmem with hmem | hmem
      · exact absurd (hearlier q hmem) hne
      · rcases List.mem_cons.1 hmem with rfl | hmem
        · exact absurd hlt (by omega)
        · exact hmem
    obtain ⟨l₁, l₂, rfl⟩ := List.append_of_mem hlater
    have hsplit' : t = (earlier ++ r :: l₁) ++ q :: l₂ := by
      rw [hsplit, List.append_assoc, List.cons_append]
    have hlt' := idxOf_lt_of_split hnodup hsplit' (show r ∈ earlier ++ r :: l₁ by simp)
    have := h r hrt q hqt (by rw [hr]; rfl) (Option.isSome_iff_ne_none.2 hne) hlt'
    omega

end RuleTable

/-! ## The standard rules -/

/-- The rules whose instructions `print-text` accepts too. -/
def specialPrints : List String := ["print-range", "print-list", "print-string", "print-dictionary"]

/-- Some instruction is accepted by both rules. -/
def Rule.Overlap (q r : Rule) : Prop :=
  ∃ s, (q.trigger.match? s).isSome ∧ (r.trigger.match? s).isSome

theorem apart_of_not_special : ∀ d ∈ standardDefinitions, ∀ e ∈ standardDefinitions, d.id ≠ e.id →
    ¬ (d.id ∈ specialPrints ∧ e.id = "print-text") →
    ¬ (e.id ∈ specialPrints ∧ d.id = "print-text") →
    Template.apart (templatesOf d.id) (templatesOf e.id) = true := by
  decide +kernel

/-- The sample of a special case is recognized as such, and `print-text` would take it too. -/
theorem recognize_sample : ∀ q ∈ standardRules, q.id ∈ specialPrints →
    (standardRules.recognize q.sample).map (·.1) = some q.id ∧ (q.trigger.match? q.sample).isSome ∧
    ∀ r ∈ standardRules, r.id = "print-text" → (r.trigger.match? q.sample).isSome := by
  rw [standardRules_eq_map]
  decide +kernel

/-- Two standard rules accept a common instruction iff one is `print-text` and the other one is a
special case of it. -/
theorem overlap_iff {q r : Rule} (hq : q ∈ standardRules) (hr : r ∈ standardRules)
    (hne : q.id ≠ r.id) : q.Overlap r ↔ (q.id ∈ specialPrints ∧ r.id = "print-text") ∨
      (r.id ∈ specialPrints ∧ q.id = "print-text") := by
  constructor
  · rintro ⟨s, hqs, hrs⟩
    by_contra hno
    rw [not_or] at hno
    have hapart : Template.apart (templatesOf q.id) (templatesOf r.id) = true := by
      rw [standardRules_eq_map] at hq hr
      obtain ⟨d, hd, rfl⟩ := List.mem_map.1 hq
      obtain ⟨e, he, rfl⟩ := List.mem_map.1 hr
      exact apart_of_not_special d hd e he hne hno.1 hno.2
    obtain ⟨cs, hcs⟩ := Option.isSome_iff_exists.1 hqs
    obtain ⟨ds, hds⟩ := Option.isSome_iff_exists.1 hrs
    rw [match?_eq_some_iff_fit hq] at hcs
    rw [match?_eq_some_iff_fit hr] at hds
    exact Template.not_fit_of_apart hapart hcs hds
  · rintro (⟨hs, ht⟩ | ⟨hs, ht⟩)
    · obtain ⟨-, hown, htext⟩ := recognize_sample q hq hs
      exact ⟨q.sample, hown, htext r hr ht⟩
    · obtain ⟨-, hown, htext⟩ := recognize_sample r hr hs
      exact ⟨r.sample, htext q hq ht, hown⟩

theorem nodup_standardRules : (standardRules.map (·.id)).Nodup := by
  rw [standardRules_eq_map]
  simp [standardDefinitions, templateRule]

/-- A rule that overlaps no other one answers every instruction that it accepts. -/
theorem match?_of_fit {r : Rule} (hr : r ∈ standardRules) (hspecial : r.id ∉ specialPrints)
    (htext : r.id ≠ "print-text") {s : String} {cs : List Capture}
    (h : Template.Fit (templatesOf r.id) s cs) : standardRules.match? s = some (r, cs) := by
  have haccepts : r.trigger.match? s = some cs := (match?_eq_some_iff_fit hr s cs).2 h
  cases hm : standardRules.match? s with
  | none =>
    rw [RuleTable.match?_eq_none_iff.1 hm r hr] at haccepts
    cases haccepts
  | some a =>
    obtain ⟨q, ds⟩ := a
    obtain ⟨earlier, later, htable, hq, -⟩ := RuleTable.match?_eq_some_iff.1 hm
    have hmem : q ∈ standardRules := by
      rw [htable]
      simp
    have hid : q.id = r.id := by
      by_contra hne
      have hoverlap : q.Overlap r := ⟨s, by rw [hq]; rfl, by rw [haccepts]; rfl⟩
      rcases (overlap_iff hmem hr hne).1 hoverlap with ⟨-, ht⟩ | ⟨hs, -⟩
      · exact htext ht
      · exact hspecial hs
    obtain rfl : q = r := List.inj_on_of_nodup_map nodup_standardRules hmem hr hid
    rw [haccepts] at hq
    cases hq
    rfl

/-- In the standard order the special cases stand before `print-text`. -/
theorem idxOf_specialPrints : ∀ id ∈ specialPrints,
    (standardRules.map (·.id)).idxOf id < (standardRules.map (·.id)).idxOf "print-text" := by
  rw [standardRules_eq_map]
  simp [standardDefinitions, templateRule, specialPrints, List.idxOf_cons]

theorem exists_rule_of_special :
    ∀ id ∈ "print-text" :: specialPrints, ∃ r ∈ standardRules, r.id = id := by
  rw [standardRules_eq_map]
  simp [standardDefinitions, templateRule, specialPrints]

/-- A table that recognizes the sample of a special case as such has that rule before
`print-text`. -/
theorem idxOf_lt_of_recognize {t : RuleTable} (ht : t.Perm standardRules) {q : Rule}
    (hq : q ∈ standardRules) (hid : q.id ∈ specialPrints)
    (h : (t.recognize q.sample).map (·.1) = some q.id) :
    (t.map (·.id)).idxOf q.id < (t.map (·.id)).idxOf "print-text" := by
  have hnodup : (t.map (·.id)).Nodup := (ht.map _).nodup_iff.2 nodup_standardRules
  obtain ⟨p, hp, hpid⟩ := exists_rule_of_special "print-text" List.mem_cons_self
  obtain ⟨-, -, htext⟩ := recognize_sample q hq hid
  -- the rule that answers is the first one that accepts, so `print-text` comes after it
  obtain ⟨a, ha, haid⟩ := Option.map_eq_some_iff.1 h
  obtain ⟨⟨r, cs⟩, hr, rfl⟩ := Option.map_eq_some_iff.1 ha
  replace haid : r.id = q.id := haid
  obtain ⟨earlier, later, hsplit, -, hearlier⟩ := RuleTable.match?_eq_some_iff.1 hr
  have hpt : p ∈ earlier ++ r :: later := hsplit ▸ ht.symm.subset hp
  have hlater : p ∈ later := by
    rcases List.mem_append.1 hpt with hmem | hmem
    · have hsome := htext p hp hpid
      rw [hearlier p hmem] at hsome
      exact absurd hsome (by decide)
    · rcases List.mem_cons.1 hmem with rfl | hmem
      · rw [← haid, hpid] at hid
        exact absurd hid (by decide)
      · exact hmem
  obtain ⟨l₁, l₂, rfl⟩ := List.append_of_mem hlater
  have hsplit' : t = (earlier ++ r :: l₁) ++ p :: l₂ := by
    rw [hsplit, List.append_assoc, List.cons_append]
  rw [← haid, ← hpid]
  exact RuleTable.idxOf_lt_of_split hnodup hsplit' (show r ∈ earlier ++ r :: l₁ by simp)

/-- The standard rules in another order recognize the same instructions in the same way iff the
special cases stand before `print-text`, since these are the only rules that overlap. -/
theorem match?_perm_standardRules_iff :
    (∀ ds : List RuleDefinition, ds.Perm standardDefinitions →
      ∃ t, RuleTable.build ds = .ok t ∧
        ((∀ s, t.recognize s = standardRules.recognize s) ↔ ∀ id ∈ specialPrints,
          (ds.map (·.id)).idxOf id < (ds.map (·.id)).idxOf "print-text")) ∧
    ∀ q ∈ standardRules, ∀ r ∈ standardRules, q.id ≠ r.id →
      (q.Overlap r ↔ (q.id ∈ specialPrints ∧ r.id = "print-text") ∨
        (r.id ∈ specialPrints ∧ q.id = "print-text")) := by
  refine ⟨fun ds hp => ?_, fun q hq r hr => overlap_iff hq hr⟩
  obtain ⟨t, ht, htp⟩ := RuleTable.build_perm hp build_standardDefinitions
  rw [← standardRules_eq_map] at htp
  refine ⟨t, ht, ?_⟩
  rw [← RuleTable.map_id_of_build ht]
  constructor
  · intro h id hid
    obtain ⟨q, hq, rfl⟩ := exists_rule_of_special id (List.mem_cons_of_mem _ hid)
    refine idxOf_lt_of_recognize htp hq hid ?_
    rw [h]
    exact (recognize_sample q hq hid).1
  · intro h s
    have hcongr : t.match? s = standardRules.match? s := by
      refine RuleTable.match?_congr_of_perm htp nodup_standardRules fun q hq r hr hqs hrs hlt => ?_
      have hne : q.id ≠ r.id := by
        intro he
        rw [he] at hlt
        exact lt_irrefl _ hlt
      rcases (overlap_iff hq hr hne).1 ⟨s, hqs, hrs⟩ with ⟨hs, ht⟩ | ⟨hs, ht⟩
      · rw [ht]
        exact h q.id hs
      · have := idxOf_specialPrints r.id hs
        rw [ht] at hlt
        omega
    rw [RuleTable.recognize, RuleTable.recognize, hcongr]

/-- With the definitions in reverse order, some instruction is recognized otherwise. -/
theorem reverse_standardDefinitions_differs : ∃ t s,
    RuleTable.build standardDefinitions.reverse = .ok t ∧
      t.recognize s ≠ standardRules.recognize s := by
  obtain ⟨t, ht, hiff⟩ := match?_perm_standardRules_iff.1 standardDefinitions.reverse
    standardDefinitions.reverse_perm
  have hno : ¬ ∀ s, t.recognize s = standardRules.recognize s := by
    rw [hiff]
    decide +kernel
  obtain ⟨s, hs⟩ := not_forall.1 hno
  exact ⟨t, s, ht, hs⟩

end Phrasebook
