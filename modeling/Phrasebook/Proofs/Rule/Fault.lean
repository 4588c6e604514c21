import Phrasebook.Proofs.Command.Listing
import Phrasebook.Proofs.Rule.Table

/-!
# Definitions that have no table

A definition is faulty if an earlier one has its id or if its anchored pattern is malformed. A table
is built exactly if no definition is faulty, and then it holds a rule for each definition, in their
order, which is also the order of the catalog. Otherwise the first faulty definition alone decides
the error: whatever follows it is never looked at. All of this holds whatever compiles the patterns.

Results:
* `buildAfter_append`: definitions that have a table are passed over, and their ids are kept.
* `exists_build_take`: the definitions in front of the first fault have a table.
* `buildWith_of_firstFault`: the first fault decides the error.
* `not_faulty_of_build`: the definitions of a table are not faulty.
* `forall₂_isRuleOf_of_build`, `catalog_of_build`, `exists_index_of_firstMatch`: what a table holds.
* `build_outcome`: when there is a table, what it then holds, and which error there is otherwise.
-/

namespace Phrasebook

open Phrasebook.Text

variable {τ : Type} {regex : String → Option τ}

/-! ## Faults -/

/-- An earlier definition has the id of the one with an index. -/
def RepeatsId (ds : List RuleDefinition) (i : Nat) : Prop :=
  ∃ d, ds[i]? = some d ∧ d.id ∈ (ds.take i).map (·.id)

/-- The pattern of the definition with an index is malformed once it is anchored. -/
def HasBadPattern (regex : String → Option τ) (ds : List RuleDefinition) (i : Nat) : Prop :=
  ∃ d, ds[i]? = some d ∧ regex ("^(?:" ++ d.pattern ++ ")$") = none

/-- The index is that of the first faulty definition. -/
structure FirstFault (regex : String → Option τ) (ds : List RuleDefinition) (i : Nat) : Prop where
  faulty : RepeatsId ds i ∨ HasBadPattern regex ds i
  first : ∀ j < i, ¬ (RepeatsId ds j ∨ HasBadPattern regex ds j)

theorem exists_firstFault {ds : List RuleDefinition} {i : Nat}
    (h : RepeatsId ds i ∨ HasBadPattern regex ds i) : ∃ j, FirstFault regex ds j := by
  induction i using Nat.strong_induction_on with
  | _ i ih =>
    by_cases hearlier : ∃ j < i, RepeatsId ds j ∨ HasBadPattern regex ds j
    · obtain ⟨j, hj, hfaulty⟩ := hearlier
      exact ih j hj hfaulty
    · exact ⟨i, h, fun j hj hfaulty => hearlier ⟨j, hj, hfaulty⟩⟩

theorem repeatsId_iff {ds : List RuleDefinition} {i : Nat} {d : RuleDefinition}
    (h : ds[i]? = some d) : RepeatsId ds i ↔ d.id ∈ (ds.take i).map (·.id) := by
  rw [RepeatsId, h]
  simp

theorem hasBadPattern_iff {ds : List RuleDefinition} {i : Nat} {d : RuleDefinition}
    (h : ds[i]? = some d) : HasBadPattern regex ds i ↔ d.compileWith regex = none := by
  rw [HasBadPattern, h]
  simp [RuleDefinition.compileWith, Trigger.wrap]

namespace RuleTable

/-! ## The first fault -/

/-- Definitions that have a table are passed over: what follows is built with their ids seen. -/
theorem buildAfter_append {ds : List RuleDefinition} : ∀ {seen : List String} {t : RuleTable τ},
    buildAfter regex seen ds = .ok t → ∀ rest, buildAfter regex seen (ds ++ rest) =
      (buildAfter regex ((ds.map (·.id)).reverse ++ seen) rest).map (t ++ ·) := by
  induction ds with
  | nil =>
    intro seen t h rest
    obtain rfl := Except.ok.inj h
    exact (id_map (buildAfter regex seen rest)).symm
  | cons d ds ih =>
    intro seen t h rest
    obtain ⟨hseen, r, u, hr, hu, rfl⟩ := buildAfter_cons_eq_ok_iff.1 h
    rw [List.cons_append, buildAfter, if_neg (by simpa using hseen), hr]
    simp only [ih hu rest, List.map_cons, List.reverse_cons, List.append_assoc,
      List.singleton_append]
    cases buildAfter regex ((ds.map (·.id)).reverse ++ d.id :: seen) rest <;> rfl

theorem buildWith_append {ds : List RuleDefinition} {t : RuleTable τ}
    (h : buildWith regex ds = .ok t) (rest : List RuleDefinition) :
    buildWith regex (ds ++ rest) =
      (buildAfter regex (ds.map (·.id)).reverse rest).map (t ++ ·) := by
  rw [buildWith, buildAfter_append h, List.append_nil]

/-- The definitions in front of the first fault have a table. -/
theorem exists_build_take {ds : List RuleDefinition} {i : Nat} (hi : i ≤ ds.length)
    (h : ∀ j < i, ¬ (RepeatsId ds j ∨ HasBadPattern regex ds j)) :
    ∃ t, buildWith regex (ds.take i) = .ok t := by
  induction i with
  | zero => exact ⟨[], rfl⟩
  | succ i ih =>
    obtain ⟨t, ht⟩ := ih (by omega) fun j hj => h j (by omega)
    have hd : ds[i]? = some ds[i] := List.getElem?_eq_getElem hi
    obtain ⟨hid, hpattern⟩ := not_or.1 (h i (by omega))
    rw [repeatsId_iff hd, ← List.mem_reverse] at hid
    rw [hasBadPattern_iff hd] at hpattern
    obtain ⟨r, hr⟩ := Option.ne_none_iff_exists'.1 hpattern
    have hlast : buildAfter regex ((ds.take i).map (·.id)).reverse [ds[i]] = .ok [r] :=
      buildAfter_cons_eq_ok_iff.2 ⟨hid, r, [], hr, rfl, rfl⟩
    rw [← List.take_append_getElem hi, buildWith_append ht, hlast]
    exact ⟨_, rfl⟩

/-- The first fault decides the error, whatever comes later. An id that is taken counts before a
malformed pattern. -/
theorem buildWith_of_firstFault {ds : List RuleDefinition} {i : Nat} {d : RuleDefinition}
    (h : FirstFault regex ds i) (hd : ds[i]? = some d) (later : List RuleDefinition) :
    buildWith regex (ds.take (i + 1) ++ later) =
      .error (if d.id ∈ (ds.take i).map (·.id) then .duplicateId d.id
        else .badPattern d.pattern) := by
  obtain ⟨hi, hget⟩ := List.getElem?_eq_some_iff.1 hd
  obtain ⟨t, ht⟩ := exists_build_take (Nat.le_of_lt hi) h.first
  have hfaulty := h.faulty
  rw [repeatsId_iff hd, hasBadPattern_iff hd] at hfaulty
  rw [← List.take_append_getElem hi, hget, List.append_assoc, List.singleton_append,
    buildWith_append ht, buildAfter]
  by_cases hid : d.id ∈ (ds.take i).map (·.id)
  · rw [if_pos (by simpa using hid), if_pos hid]
    rfl
  · rw [if_neg (by simpa using hid), if_neg hid, hfaulty.resolve_left hid]
    rfl

/-- There is an error only if a definition is faulty. -/
theorem exists_firstFault_of_build {ds : List RuleDefinition} {e : TableError}
    (h : buildWith regex ds = .error e) : ∃ i, FirstFault regex ds i := by
  by_contra hnone
  have hsound : ∀ j < ds.length, ¬ (RepeatsId ds j ∨ HasBadPattern regex ds j) :=
    fun j _ hfaulty => hnone (exists_firstFault hfaulty)
  obtain ⟨t, ht⟩ := exists_build_take (Nat.le_refl _) hsound
  rw [List.take_length, h] at ht
  cases ht

end RuleTable

/-! ## What a table holds -/

/-- What a definition says about its rule. -/
def RuleDefinition.entry (d : RuleDefinition) : CatalogEntry :=
  ⟨d.id, d.template, d.description, d.sample⟩

/-- The rule says about itself what the definition says, and does what the definition asks for. -/
structure IsRuleOf (regex : String → Option τ) (d : RuleDefinition) (r : Rule τ) : Prop where
  entry_eq : r.toCatalogEntry = d.entry
  trigger_eq : regex ("^(?:" ++ d.pattern ++ ")$") = some r.trigger
  snippet_eq : r.snippet = d.snippet

theorem isRuleOf_of_compileWith {d : RuleDefinition} {r : Rule τ}
    (h : d.compileWith regex = some r) : IsRuleOf regex d r := by
  obtain ⟨trigger, htrigger, rfl⟩ := Option.map_eq_some_iff.1 h
  exact ⟨rfl, htrigger, rfl⟩

namespace RuleTable

theorem exists_build_iff {ds : List RuleDefinition} : (∃ t, buildWith regex ds = .ok t) ↔
    (ds.map (·.id)).Nodup ∧
      ∀ d ∈ ds, ∃ trigger, regex ("^(?:" ++ d.pattern ++ ")$") = some trigger := by
  have hrange : (∃ t : RuleTable τ, ds.map (RuleDefinition.compileWith regex) = t.map some) ↔
      ds.map (RuleDefinition.compileWith regex) ∈ Set.range (List.map some) :=
    exists_congr fun _ => eq_comm
  have hcompile : ∀ d : RuleDefinition, d.compileWith regex ∈ Set.range some ↔
      ∃ trigger, regex ("^(?:" ++ d.pattern ++ ")$") = some trigger := by
    intro d
    simp [RuleDefinition.compileWith, Trigger.wrap, eq_comm]
  simp only [buildWith_eq_ok_iff, exists_and_left, hrange, Set.range_list_map, Set.mem_ofPred_eq,
    List.forall_mem_map, hcompile]

/-- The definitions of a table are not faulty, whatever comes after them. -/
theorem not_faulty_of_build {ds : List RuleDefinition} {t : RuleTable τ}
    (h : buildWith regex ds = .ok t) (rest : List RuleDefinition) {j : Nat} (hj : j < ds.length) :
    ¬ (RepeatsId (ds ++ rest) j ∨ HasBadPattern regex (ds ++ rest) j) := by
  obtain ⟨hnodup, hpatterns⟩ := exists_build_iff.1 ⟨t, h⟩
  have hget : (ds ++ rest)[j]? = some ds[j] := by
    rw [List.getElem?_append_left hj, List.getElem?_eq_getElem hj]
  rw [repeatsId_iff hget, HasBadPattern, hget, List.take_append_of_le_length (Nat.le_of_lt hj)]
  rintro (hid | ⟨d, hd, hnone⟩)
  · rw [← List.take_append_drop j ds, List.map_append, List.drop_eq_getElem_cons hj,
      List.map_cons] at hnodup
    exact (List.nodup_append.1 hnodup).2.2 _ hid _ List.mem_cons_self rfl
  · obtain rfl := Option.some.inj hd
    obtain ⟨trigger, htrigger⟩ := hpatterns ds[j] (List.getElem_mem hj)
    rw [htrigger] at hnone
    cases hnone

/-- A table holds one rule for each definition, in their order. -/
theorem forall₂_isRuleOf_of_build {ds : List RuleDefinition} {t : RuleTable τ}
    (h : buildWith regex ds = .ok t) : List.Forall₂ (IsRuleOf regex) ds t := by
  have hmap : List.Forall₂ (· = ·) (ds.map (RuleDefinition.compileWith regex)) (t.map some) :=
    List.forall₂_eq_eq_eq ▸ (buildWith_eq_ok_iff.1 h).2
  rw [List.forall₂_map_left_iff, List.forall₂_map_right_iff] at hmap
  exact hmap.imp fun _ _ => isRuleOf_of_compileWith

/-- The catalog says what the definitions say, in their order. -/
theorem catalog_of_build {ds : List RuleDefinition} {t : RuleTable τ}
    (h : buildWith regex ds = .ok t) :
    t.catalog = ds.map RuleDefinition.entry := by
  have hrules := forall₂_isRuleOf_of_build h
  clear h
  rw [catalog]
  induction hrules with
  | nil => rfl
  | cons hr _ ih => rw [List.map_cons, List.map_cons, hr.entry_eq, ih]

/-- The rule that answers is the first one in the catalog that accepts the instruction. -/
theorem exists_index_of_firstMatch {accepts : τ → String → Option (List Capture)}
    {t : RuleTable τ} {s : String} {r : Rule τ} {cs : List Capture}
    (h : t.firstMatch accepts s = some (r, cs)) : ∃ i : Nat, t[i]? = some r ∧
      t.catalog[i]? = some r.toCatalogEntry ∧ accepts r.trigger s = some cs ∧
      ∀ j < i, ∀ q : Rule τ, t[j]? = some q → accepts q.trigger s = none := by
  obtain ⟨earlier, later, rfl, hr, hearlier⟩ := firstMatch_eq_some_iff.1 h
  refine ⟨earlier.length, by simp, by simp [catalog], hr, fun j hj q hq => ?_⟩
  rw [List.getElem?_append_left hj] at hq
  exact hearlier q (List.mem_of_getElem? hq)

/-- Whatever compiles the patterns: there is a table exactly if the ids are distinct and all
anchored patterns are well formed. It holds one rule for each definition, in their order, in which
the rules are tried, whatever a trigger accepts, and help and both lists of the rules say what the
definitions say in that order. Otherwise the first faulty definition decides the error, whatever
comes later: its id if that is taken, also if its pattern is malformed, and else the pattern. -/
theorem build_outcome (regex : String → Option τ) (accepts : τ → String → Option (List Capture))
    (ds : List RuleDefinition) :
    ((∃ t, buildWith regex ds = .ok t) ↔ (ds.map (·.id)).Nodup ∧
      ∀ d ∈ ds, ∃ trigger, regex ("^(?:" ++ d.pattern ++ ")$") = some trigger) ∧
    (∀ t, buildWith regex ds = .ok t →
      List.Forall₂ (IsRuleOf regex) ds t ∧ t.catalog = ds.map RuleDefinition.entry ∧
      (∀ s r cs, t.firstMatch accepts s = some (r, cs) → ∃ i : Nat, t[i]? = some r ∧
        t.catalog[i]? = some r.toCatalogEntry ∧ accepts r.trigger s = some cs ∧
        ∀ j < i, ∀ q : Rule τ, t[j]? = some q → accepts q.trigger s = none) ∧
      (∀ captures, Snippet.help.render captures t.catalog = .ok ("\n".intercalate
        ("# Available commands:" :: ds.map fun d => s!"# {d.template} - {d.description}"))) ∧
      CatalogEntry.Tabulates (ds.map RuleDefinition.entry) (Command.rules false t).events ∧
      (Command.rules true t).events =
        [.line .log (CatalogEntry.arrayText (ds.map RuleDefinition.entry))]) ∧
    (∀ s, Json.parsePoints? (Json.quote s).toList = some (.string (points s))) ∧
    ((∃ e, buildWith regex ds = .error e) ↔ ∃ i, FirstFault regex ds i) ∧
    ∀ i d, FirstFault regex ds i → ds[i]? = some d → ∃ e, buildWith regex ds = .error e ∧
      (∀ later, buildWith regex (ds.take (i + 1) ++ later) = .error e) ∧
      (RepeatsId ds i → ∃ report, e = .duplicateId d.id ∧ e.diagnostic? = some report ∧
        report.code = "N201" ∧ report.message = "Duplicate rule id '" ++ d.id ++ "'") ∧
      (¬ RepeatsId ds i → e = .badPattern d.pattern ∧ e.diagnostic? = none) := by
  have hfault : ∀ i d, FirstFault regex ds i → ds[i]? = some d → buildWith regex ds =
      .error (if d.id ∈ (ds.take i).map (·.id) then .duplicateId d.id
        else .badPattern d.pattern) := by
    intro i d hi hd
    rw [← buildWith_of_firstFault hi hd (ds.drop (i + 1)), List.take_append_drop]
  refine ⟨exists_build_iff, fun t ht => ?_, Json.parsePoints?_quote, ⟨?_, ?_⟩,
    fun i d hi hd => ?_⟩
  · have hcatalog := catalog_of_build ht
    refine ⟨forall₂_isRuleOf_of_build ht, hcatalog, fun s r cs => exists_index_of_firstMatch,
      fun captures => ?_, hcatalog ▸ CatalogEntry.tabulates_rules t, ?_⟩
    · rw [Snippet.render, Snippet.helpText, hcatalog, List.map_map]
      rfl
    · rw [← hcatalog, ← CatalogEntry.pretty_entries]
      rfl
  · rintro ⟨e, he⟩
    exact exists_firstFault_of_build he
  · rintro ⟨i, hi⟩
    obtain ⟨d, hd, -⟩ | ⟨d, hd, -⟩ := hi.faulty
    · exact ⟨_, hfault i d hi hd⟩
    · exact ⟨_, hfault i d hi hd⟩
  · refine ⟨_, hfault i d hi hd, buildWith_of_firstFault hi hd, fun hid => ?_, fun hid => ?_⟩
    · rw [if_pos ((repeatsId_iff hd).1 hid)]
      exact ⟨_, rfl, rfl, rfl, rfl⟩
    · rw [if_neg fun hmem => hid ((repeatsId_iff hd).2 hmem)]
      exact ⟨rfl, rfl⟩

/-- A third definition that repeats an id and is malformed as well is reported for its id, and hides
a malformed pattern behind it. -/
theorem build_outcome_of_three :
    let good : List RuleDefinition := [⟨"a", "do a", "A", "a", "x+", .help⟩,
      ⟨"b", "do bee", "B", "\"", "y|z", .fixed ""⟩]
    let twice : RuleDefinition := ⟨"a", "", "", "", "(", .help⟩
    let bad := good ++ [twice, ⟨"c", "", "", "", "(", .help⟩]
    (∃ t, buildWith Trigger.read? good = .ok t ∧
      Snippet.help.render [] t.catalog = .ok "# Available commands:\n# do a - A\n# do bee - B" ∧
      (Command.rules false t).events =
        [.line .log "do a    A (e.g. \"a\")", .line .log "do bee  B (e.g. \"\"\")"]) ∧
    FirstFault Trigger.read? bad 2 ∧ bad[2]? = some twice ∧ RepeatsId bad 2 ∧
    HasBadPattern Trigger.read? bad 2 ∧
    buildWith Trigger.read? bad = .error (.duplicateId "a") := by
  intro good twice bad
  obtain ⟨hbuilt, hheld, -⟩ := build_outcome Trigger.read? Trigger.match? good
  obtain ⟨-, -, -, -, hreport⟩ := build_outcome Trigger.read? Trigger.match? bad
  have hgood : ∀ d ∈ good, ∃ trigger,
      Trigger.read? ("^(?:" ++ d.pattern ++ ")$") = some trigger := by
    intro d hd
    refine Option.isSome_iff_exists.1 ?_
    revert d
    decide +kernel
  obtain ⟨t, ht⟩ := hbuilt.2 ⟨by decide, hgood⟩
  obtain ⟨-, -, -, hhelp, ⟨width, hwide, hwidest, hlines⟩, -⟩ := hheld t ht
  have hwidth : width = 6 := by
    obtain ⟨e, he, hewidth⟩ := hwidest (by decide)
    have hall : ∀ e ∈ good.map RuleDefinition.entry, units e.template.toList ≤ 6 := by decide
    have hsix : 6 ≤ width := hwide ⟨"b", "do bee", "B", "\""⟩ (by decide)
    have := hall e he
    omega
  have hrepeats : RepeatsId bad 2 := ⟨twice, rfl, by decide⟩
  have hpattern : Trigger.read? ("^(?:" ++ "(" ++ ")$") = none := by decide +kernel
  have hfirst : FirstFault Trigger.read? bad 2 :=
    ⟨.inl hrepeats, fun j hj => not_faulty_of_build ht _ hj⟩
  obtain ⟨e, he, -, hid, -⟩ := hreport 2 twice hfirst rfl
  obtain ⟨report, rfl, -⟩ := hid hrepeats
  rw [hwidth] at hlines
  exact ⟨⟨t, ht, hhelp [], hlines⟩, hfirst, rfl, hrepeats, ⟨twice, rfl, hpattern⟩, he⟩

end RuleTable

end Phrasebook
