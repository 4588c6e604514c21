import Mathlib.Tactic
import Phrasebook.Rule.Basic

/-!
# Building tables and asking them

Results:
* `buildWith_eq_ok_iff`: definitions have a table iff their ids are distinct and their patterns are
  well formed, and then the table holds their rules in order.
* `build_perm`: the order of the definitions decides the order of the rules and nothing else.
* `idxOf_lt_of_split`: of two rules of a table, the first one has the smaller index.
* `firstMatch_eq_some_iff`, `firstMatch_eq_none_iff`: the first rule that accepts an instruction
  answers.
-/

namespace Phrasebook.RuleTable

section

variable {τ : Type} {regex : String → Option τ}

theorem id_of_compileWith {d : RuleDefinition} {r : Rule τ} (h : d.compileWith regex = some r) :
    r.id = d.id := by
  obtain ⟨t, -, rfl⟩ := Option.map_eq_some_iff.1 h
  rfl

/-! ## When a table is built -/

theorem buildAfter_cons_eq_ok_iff {seen : List String} {d : RuleDefinition}
    {ds : List RuleDefinition} {t : RuleTable τ} :
    buildAfter regex seen (d :: ds) = .ok t ↔ d.id ∉ seen ∧ ∃ r u, d.compileWith regex = some r ∧
      buildAfter regex (d.id :: seen) ds = .ok u ∧ t = r :: u := by
  rw [buildAfter]
  by_cases hseen : d.id ∈ seen
  · simp [hseen]
  · rw [if_neg (by simpa using hseen)]
    cases hd : d.compileWith regex with
    | none => simp
    | some r => cases hb : buildAfter regex (d.id :: seen) ds <;> simp [hseen, eq_comm]

/-- The ids have to be distinct among themselves and from those seen before. -/
theorem buildAfter_eq_ok_iff {ds : List RuleDefinition} : ∀ {seen : List String} {t : RuleTable τ},
    buildAfter regex seen ds = .ok t ↔ (ds.map (·.id)).Nodup ∧ (∀ d ∈ ds, d.id ∉ seen) ∧
      ds.map (RuleDefinition.compileWith regex) = t.map some := by
  induction ds with
  | nil => intro seen t; cases t <;> simp [buildAfter]
  | cons d ds ih =>
    intro seen t
    have hmap : (d :: ds).map (RuleDefinition.compileWith regex) = t.map some ↔ ∃ r u,
        d.compileWith regex = some r ∧ ds.map (RuleDefinition.compileWith regex) = u.map some ∧
          t = r :: u := by
      rw [List.map_cons, eq_comm, List.map_eq_cons_iff]
      exact exists₂_congr fun r u => by rw [eq_comm (a := some r), eq_comm (a := u.map some)]; tauto
    have hseen : (∀ e ∈ ds, e.id ∉ d.id :: seen) ↔
        d.id ∉ ds.map (·.id) ∧ ∀ e ∈ ds, e.id ∉ seen := by
      simp only [List.mem_cons, not_or, List.mem_map, not_exists, not_and]
      exact forall₂_and
    rw [buildAfter_cons_eq_ok_iff, hmap, List.map_cons, List.nodup_cons, List.forall_mem_cons]
    simp only [ih, hseen]
    constructor
    · rintro ⟨hd, r, u, hr, ⟨hnodup, ⟨hid, hds⟩, hu⟩, ht⟩
      exact ⟨⟨hid, hnodup⟩, ⟨hd, hds⟩, r, u, hr, hu, ht⟩
    · rintro ⟨⟨hid, hnodup⟩, ⟨hd, hds⟩, r, u, hr, hu, ht⟩
      exact ⟨hd, r, u, hr, ⟨hnodup, ⟨hid, hds⟩, hu⟩, ht⟩

/-- Definitions have a table iff their ids are distinct and their patterns are well formed. -/
theorem buildWith_eq_ok_iff {ds : List RuleDefinition} {t : RuleTable τ} :
    buildWith regex ds = .ok t ↔
      (ds.map (·.id)).Nodup ∧ ds.map (RuleDefinition.compileWith regex) = t.map some := by
  simp [buildWith, buildAfter_eq_ok_iff]

/-- The definitions of a table in two parts have two tables. -/
theorem exists_build_of_append {ds es : List RuleDefinition} {t : RuleTable τ}
    (h : buildWith regex (ds ++ es) = .ok t) :
    ∃ u v, buildWith regex ds = .ok u ∧ buildWith regex es = .ok v ∧ t = u ++ v := by
  obtain ⟨hnodup, hmap⟩ := buildWith_eq_ok_iff.1 h
  rw [List.map_append] at hnodup hmap
  obtain ⟨hds, hes, -⟩ := List.nodup_append.1 hnodup
  obtain ⟨u, v, rfl, hu, hv⟩ := List.map_eq_append_iff.1 hmap.symm
  exact ⟨u, v, buildWith_eq_ok_iff.2 ⟨hds, hu.symm⟩, buildWith_eq_ok_iff.2 ⟨hes, hv.symm⟩, rfl⟩

/-- The rules of a table have the ids of its definitions. -/
theorem map_id_of_build {ds : List RuleDefinition} {t : RuleTable τ}
    (h : buildWith regex ds = .ok t) :
    t.map (·.id) = ds.map (·.id) := by
  have hmap := (buildWith_eq_ok_iff.1 h).2
  clear h
  induction ds generalizing t with
  | nil => cases t with
    | nil => rfl
    | cons r t => simp at hmap
  | cons d ds ih =>
    cases t with
    | nil => simp at hmap
    | cons r t =>
      obtain ⟨hd, hmap⟩ := List.cons.inj hmap
      rw [List.map_cons, List.map_cons, ih hmap, id_of_compileWith hd]

/-! ## Other orders -/

/-- The definitions of a table, in another order, have a table with the same rules. -/
theorem build_perm {ds es : List RuleDefinition} {t : RuleTable τ} (hp : es.Perm ds)
    (h : buildWith regex ds = .ok t) : ∃ u, buildWith regex es = .ok u ∧ u.Perm t := by
  obtain ⟨hnodup, hmap⟩ := buildWith_eq_ok_iff.1 h
  have hall : ∀ d ∈ es, (d.compileWith regex).isSome := by
    intro d hd
    have hmem : d.compileWith regex ∈ t.map some := hmap ▸ List.mem_map_of_mem (hp.subset hd)
    obtain ⟨r, -, hr⟩ := List.mem_map.1 hmem
    rw [← hr]
    rfl
  have hes : es.map (RuleDefinition.compileWith regex) =
      (es.filterMap (RuleDefinition.compileWith regex)).map some := by
    clear hp
    induction es with
    | nil => rfl
    | cons d es ih =>
      obtain ⟨r, hr⟩ := Option.isSome_iff_exists.1 (hall d (by simp))
      simp [hr, ih fun e he => hall e (by simp [he])]
  have ht : ds.filterMap (RuleDefinition.compileWith regex) = t := by
    have := congrArg (List.filterMap id) hmap
    simpa [List.filterMap_map] using this
  refine ⟨es.filterMap (RuleDefinition.compileWith regex), buildWith_eq_ok_iff.2 ⟨?_, hes⟩, ?_⟩
  · exact (hp.map _).nodup_iff.2 hnodup
  · rw [← ht]
    exact hp.filterMap _

/-- Of two rules of a table, the first one has the smaller index. -/
theorem idxOf_lt_of_split {t earlier later : RuleTable τ} {q r : Rule τ}
    (hnodup : (t.map (·.id)).Nodup) (ht : t = earlier ++ r :: later) (hq : q ∈ earlier) :
    (t.map (·.id)).idxOf q.id < (t.map (·.id)).idxOf r.id := by
  subst ht
  rw [List.map_append, List.map_cons] at hnodup ⊢
  have hq' : q.id ∈ earlier.map (·.id) := List.mem_map_of_mem hq
  have hr : r.id ∉ earlier.map (·.id) := by
    intro hr
    exact (List.nodup_append.1 hnodup).2.2 _ hr _ List.mem_cons_self rfl
  rw [List.idxOf_append_of_mem hq', List.idxOf_append_of_notMem hr]
  have := List.idxOf_lt_length_iff.2 hq'
  omega

/-! ## Answers -/

variable {accepts : τ → String → Option (List Capture)}

/-- The answer of a table comes from the first rule that accepts the instruction. -/
theorem firstMatch_eq_some_iff {t : RuleTable τ} {s : String} {r : Rule τ} {cs : List Capture} :
    t.firstMatch accepts s = some (r, cs) ↔ ∃ earlier later, t = earlier ++ r :: later ∧
      accepts r.trigger s = some cs ∧ ∀ q ∈ earlier, accepts q.trigger s = none := by
  rw [firstMatch, List.findSome?_eq_some_iff]
  constructor
  · rintro ⟨earlier, q, later, rfl, hq, hearlier⟩
    obtain ⟨ds, hds, he⟩ := Option.map_eq_some_iff.1 hq
    obtain ⟨rfl, rfl⟩ := Prod.mk.inj he
    exact ⟨earlier, later, rfl, hds, fun p hp => Option.map_eq_none_iff.1 (hearlier p hp)⟩
  · rintro ⟨earlier, later, rfl, hr, hearlier⟩
    exact ⟨earlier, r, later, rfl, by rw [hr]; rfl, fun p hp => by rw [hearlier p hp]; rfl⟩

theorem firstMatch_eq_none_iff {t : RuleTable τ} {s : String} :
    t.firstMatch accepts s = none ↔ ∀ r ∈ t, accepts r.trigger s = none := by
  simp [firstMatch]

end

/-! ## Triggers that are searched for -/

theorem build_eq_ok_iff {ds : List RuleDefinition} {t : RuleTable} :
    build ds = .ok t ↔
      (ds.map (·.id)).Nodup ∧ ds.map RuleDefinition.compile? = t.map some :=
  buildWith_eq_ok_iff

theorem match?_eq_some_iff {t : RuleTable} {s : String} {r : Rule} {cs : List Capture} :
    t.match? s = some (r, cs) ↔ ∃ earlier later, t = earlier ++ r :: later ∧
      r.trigger.match? s = some cs ∧ ∀ q ∈ earlier, q.trigger.match? s = none :=
  firstMatch_eq_some_iff

theorem match?_eq_none_iff {t : RuleTable} {s : String} :
    t.match? s = none ↔ ∀ r ∈ t, r.trigger.match? s = none :=
  firstMatch_eq_none_iff

/-- A table in two parts answers as the first part does, and where that has no answer as the second
part does. -/
theorem match?_append (t u : RuleTable) (s : String) :
    match? (t ++ u) s = (t.match? s).or (u.match? s) := by
  rw [match?, firstMatch, List.findSome?_append]
  rfl

end Phrasebook.RuleTable
