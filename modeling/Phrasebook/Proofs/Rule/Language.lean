import Phrasebook.Proofs.Pattern.Marks
import Phrasebook.Proofs.Rule.Anchoring

/-!
# Tables of plain patterns

A definition is plain if its pattern is well formed on its own and holds no anchor. The pattern of a
plain definition has a language, and a table of plain definitions answers with the first rule whose
language has the instruction: the search with its order of preference decides about the captures
only.

Results:
* `isSome_match?_iff`: a plain trigger accepts the texts of its language.
* `capturesOf_match?`: its captures are parts of the instruction, one for each group.
* `match?_build_plain`: what a table of plain definitions answers.
-/

namespace Phrasebook

open Phrasebook.Text

/-! ## Triggers -/

/-- The captures are those of the groups: one for each group in the order in which they are opened,
and each is the empty text at the start, or a part of the instruction in the language of the group
with the units in front of it. -/
structure CapturesOf (bodies : List (Nat × Pattern)) (instruction : List Char)
    (cs : List Capture) : Prop where
  length_eq : cs.length = bodies.length
  capture : ∀ (k : Nat) (c : Capture), cs[k]? = some c → c = ⟨"", 0⟩ ∨
    slice instruction c.start (c.start + units c.text.toList) = c.text.toList ∧
    ∃ before after q, instruction = before ++ (c.text.toList ++ after) ∧ c.start = units before ∧
      bodies[k]? = some (k, q) ∧ c.text.toList ∈ q.language

namespace Trigger

variable {p : Pattern} {n : Nat} {s : String}

/-- The trigger of a pattern is searched for at the start of an instruction only. -/
theorem search_wrapped (p : Pattern) (n : Nat) (s : List Char) :
    (Pattern.seqs [.atStart, p, .atEnd]).search n s =
      (Pattern.seqs [p, .atEnd]).run some ⟨0, s, List.replicate n none⟩ :=
  Pattern.search_atStart (Pattern.seqs [p, .atEnd]) n s

theorem takes_to_end_iff (p : Pattern) (u v : Place) :
    (Pattern.seqs [p, .atEnd]).Takes u v ↔ p.Takes u v ∧ v.rest = [] := by
  rw [show [p, .atEnd] = [p] ++ [.atEnd] from rfl, Pattern.takes_seqs_append]
  simp only [Pattern.takes_seqs_singleton, Pattern.Takes]
  constructor
  · rintro ⟨w, hw, hr, rfl⟩
    exact ⟨hw, hr⟩
  · rintro ⟨hv, hr⟩
    exact ⟨v, hv, hr, rfl⟩

/-- A trigger accepts an instruction iff it is in the language of the pattern. -/
theorem isSome_match?_iff (hp : p.anchorFree = true) (hc : p.countsInOrder = true) :
    ((⟨Pattern.seqs [.atStart, p, .atEnd], n⟩ : Trigger).match? s).isSome ↔
      s.toList ∈ p.language := by
  rw [match?, Option.isSome_map, search_wrapped, ← Pattern.takes_whole_iff hp hc
    ⟨0, s.toList, List.replicate n none⟩]
  constructor
  · intro h
    obtain ⟨u, hu⟩ := Option.isSome_iff_exists.1 h
    obtain ⟨v, hv, -⟩ := Pattern.run_sound _ _ _ _ hu
    exact ⟨v, (takes_to_end_iff p _ v).1 hv⟩
  · rintro ⟨v, hv⟩
    exact Pattern.run_complete _ _ _ v ((takes_to_end_iff p _ v).2 hv) rfl

/-- The captures of a trigger are parts of the instruction, one for each group. -/
theorem capturesOf_match? (hc : p.countsInOrder = true) (hg : p.groups = List.range n)
    {cs : List Capture}
    (h : (⟨Pattern.seqs [.atStart, p, .atEnd], n⟩ : Trigger).match? s = some cs) :
    CapturesOf p.bodies s.toList cs := by
  rw [match?, search_wrapped] at h
  obtain ⟨u, hu, rfl⟩ := Option.map_eq_some_iff.1 h
  obtain ⟨v, hv, heq⟩ := Pattern.run_sound _ _ _ _ hu
  cases heq
  have hfits : u.Fits s.toList p.bodies := by
    have hstart := Place.Fits.start s.toList p.bodies
    rw [Pattern.length_bodies hg] at hstart
    exact ((takes_to_end_iff p _ u).1 hv).1.fits hc (fun _ => id) hstart
  refine ⟨by rw [List.length_map, hfits.length_marks], fun k c hk => ?_⟩
  rw [List.getElem?_map] at hk
  obtain ⟨m, hm, rfl⟩ := Option.map_eq_some_iff.1 hk
  cases m with
  | none => exact .inl rfl
  | some m =>
    obtain ⟨before, w, after, q, hs, rfl, hq, hw⟩ := hfits.marks k m hm
    have hslice : slice s.toList (units before) (units before + units w) = w := by
      rw [hs, slice_append]
    have htext :
        (capture s.toList (some (units before, units before + units w))).text.toList = w := by
      rw [capture, hslice, String.toList_ofList]
    refine .inr ⟨?_, before, after, q, ?_, rfl, Pattern.getElem?_bodies hg hq, ?_⟩
    · rw [htext]
      exact hslice
    · rw [htext]
      exact hs
    · rw [htext]
      exact hw

end Trigger

/-! ## Plain definitions -/

namespace RuleDefinition

/-- The pattern of a definition, read on its own. -/
def tree? (d : RuleDefinition) : Option Pattern := (Pattern.read? d.pattern.toList).map Prod.fst

/-- The pattern of the definition is well formed on its own and holds no anchor. -/
def isPlain (d : RuleDefinition) : Bool := d.tree?.any Pattern.anchorFree

/-- The texts that the pattern of a definition describes. -/
def language (d : RuleDefinition) : Language Char := d.tree?.elim 0 Pattern.language

/-- The groups in the pattern of a definition. -/
def bodies (d : RuleDefinition) : List (Nat × Pattern) := d.tree?.elim [] Pattern.bodies

/-- What is known of the rule of a plain definition. -/
theorem trigger_of_isPlain {d : RuleDefinition} (hd : d.isPlain = true) {r : Rule}
    (hr : d.compile? = some r) :
    ∃ p n, r.trigger = ⟨Pattern.seqs [.atStart, p, .atEnd], n⟩ ∧ d.language = p.language ∧
      d.bodies = p.bodies ∧ p.anchorFree = true ∧ p.countsInOrder = true ∧
      p.groups = List.range n := by
  obtain ⟨p, htree, hp⟩ : ∃ p, d.tree? = some p ∧ p.anchorFree = true := by
    rw [isPlain] at hd
    cases htree : d.tree? with
    | none => rw [htree] at hd; cases hd
    | some p => rw [htree] at hd; exact ⟨p, rfl, hd⟩
  have hlanguage : d.language = p.language := by rw [language, htree]; rfl
  have hbodies : d.bodies = p.bodies := by rw [bodies, htree]; rfl
  obtain ⟨⟨p, n⟩, hread, rfl⟩ := Option.map_eq_some_iff.1 htree
  obtain ⟨hgroups, hcounts⟩ := Pattern.read?_consistent hread
  obtain ⟨trigger, htrigger, rfl⟩ := Option.map_eq_some_iff.1 hr
  obtain rfl := Option.some.inj ((Trigger.compile?_of_read? hread).symm.trans htrigger)
  exact ⟨p, n, rfl, hlanguage, hbodies, hp, hcounts, hgroups⟩

theorem isSome_match?_iff_of_isPlain {d : RuleDefinition} (hd : d.isPlain = true) {r : Rule}
    (hr : d.compile? = some r) (s : String) :
    (r.trigger.match? s).isSome ↔ s.toList ∈ d.language := by
  obtain ⟨p, n, htrigger, hlanguage, -, hp, hcounts, -⟩ := trigger_of_isPlain hd hr
  rw [htrigger, hlanguage, Trigger.isSome_match?_iff hp hcounts]

theorem capturesOf_of_isPlain {d : RuleDefinition} (hd : d.isPlain = true) {r : Rule}
    (hr : d.compile? = some r) {s : String} {cs : List Capture}
    (h : r.trigger.match? s = some cs) : CapturesOf d.bodies s.toList cs := by
  obtain ⟨p, n, htrigger, -, hbodies, -, hcounts, hgroups⟩ := trigger_of_isPlain hd hr
  rw [htrigger] at h
  rw [hbodies]
  exact Trigger.capturesOf_match? hcounts hgroups h

end RuleDefinition

/-! ## Tables -/

/-- The text is in the language with the index, and in none before it. -/
def FirstIn (ls : List (Language Char)) (i : Nat) (w : List Char) : Prop :=
  (∃ l, ls[i]? = some l ∧ w ∈ l) ∧ ∀ l ∈ ls.take i, w ∉ l

namespace RuleTable

variable {ds : List RuleDefinition} {t : RuleTable}

/-- The table answers the instruction with its rule of that index. -/
def Chooses (t : RuleTable) (s : String) (i : Nat) : Prop :=
  ∃ r cs, t[i]? = some r ∧ t.match? s = some (r, cs)

/-- The rule of an index is that of the definition of the index. -/
theorem getElem?_of_compile (h : ds.map RuleDefinition.compile? = t.map some) (i : Nat) (r : Rule) :
    t[i]? = some r ↔ ∃ d, ds[i]? = some d ∧ d.compile? = some r := by
  have hi : (ds[i]?).map RuleDefinition.compile? = (t[i]?).map some := by
    rw [← List.getElem?_map, ← List.getElem?_map, h]
  constructor
  · intro hr
    rw [hr] at hi
    exact Option.map_eq_some_iff.1 hi
  · rintro ⟨d, hd, hr⟩
    rw [hd, Option.map_some, hr] at hi
    obtain ⟨q, hq, heq⟩ := Option.map_eq_some_iff.1 hi.symm
    rw [hq, heq]

/-- No rule accepts a text iff it is in no language. -/
theorem forall_match?_eq_none_iff (h : ds.map RuleDefinition.compile? = t.map some)
    (hplain : ∀ d ∈ ds, d.isPlain = true) (s : String) :
    (∀ r ∈ t, r.trigger.match? s = none) ↔ ∀ l ∈ ds.map RuleDefinition.language, s.toList ∉ l := by
  simp only [List.forall_mem_map]
  constructor
  · intro hnone d hd hs
    obtain ⟨i, hi⟩ := List.getElem?_of_mem hd
    have hmem : d.compile? ∈ t.map some := h ▸ List.mem_map_of_mem hd
    obtain ⟨r, hr, hdr⟩ := List.mem_map.1 hmem
    have hsome := (RuleDefinition.isSome_match?_iff_of_isPlain (hplain d hd) hdr.symm s).2 hs
    rw [hnone r hr] at hsome
    cases hsome
  · intro hnone r hr
    have hmem : some r ∈ ds.map RuleDefinition.compile? := h ▸ List.mem_map_of_mem hr
    obtain ⟨d, hd, hdr⟩ := List.mem_map.1 hmem
    rw [← Option.not_isSome_iff_eq_none,
      RuleDefinition.isSome_match?_iff_of_isPlain (hplain d hd) hdr s]
    exact hnone d hd

/-- A table of different rules chooses the first one that accepts. -/
theorem chooses_iff (hnodup : t.Nodup) (s : String) (i : Nat) :
    t.Chooses s i ↔ (∃ r, t[i]? = some r ∧ (r.trigger.match? s).isSome) ∧
      ∀ q ∈ t.take i, q.trigger.match? s = none := by
  constructor
  · rintro ⟨r, cs, hi, hm⟩
    obtain ⟨earlier, later, rfl, hr, hearlier⟩ := match?_eq_some_iff.1 hm
    have hlength : earlier.length = i := by
      refine (List.getElem?_inj (by simp) hnodup).1 ?_
      rw [hi]
      simp
    subst hlength
    rw [List.take_left]
    exact ⟨⟨r, hi, by rw [hr]; rfl⟩, hearlier⟩
  · rintro ⟨⟨r, hi, hr⟩, hearlier⟩
    obtain ⟨cs, hcs⟩ := Option.isSome_iff_exists.1 hr
    obtain ⟨hlt, rfl⟩ := List.getElem?_eq_some_iff.1 hi
    refine ⟨t[i], cs, hi, match?_eq_some_iff.2 ⟨t.take i, t.drop (i + 1), ?_, hcs, hearlier⟩⟩
    rw [← List.drop_eq_getElem_cons hlt, List.take_append_drop]

/-- The rule of an index accepts a text iff the language of the index has it. -/
theorem exists_accepting_iff (h : ds.map RuleDefinition.compile? = t.map some)
    (hplain : ∀ d ∈ ds, d.isPlain = true) (s : String) (i : Nat) :
    (∃ r, t[i]? = some r ∧ (r.trigger.match? s).isSome) ↔
      ∃ l, (ds.map RuleDefinition.language)[i]? = some l ∧ s.toList ∈ l := by
  constructor
  · rintro ⟨r, hr, hs⟩
    obtain ⟨d, hd, hdr⟩ := (getElem?_of_compile h i r).1 hr
    have hdplain := hplain d (List.mem_of_getElem? hd)
    exact ⟨d.language, by rw [List.getElem?_map, hd]; rfl,
      (RuleDefinition.isSome_match?_iff_of_isPlain hdplain hdr s).1 hs⟩
  · rintro ⟨l, hl, hs⟩
    rw [List.getElem?_map] at hl
    obtain ⟨d, hd, rfl⟩ := Option.map_eq_some_iff.1 hl
    have hmem : d.compile? ∈ t.map some := h ▸ List.mem_map_of_mem (List.mem_of_getElem? hd)
    obtain ⟨r, -, hdr⟩ := List.mem_map.1 hmem
    have hdplain := hplain d (List.mem_of_getElem? hd)
    exact ⟨r, (getElem?_of_compile h i r).2 ⟨d, hd, hdr.symm⟩,
      (RuleDefinition.isSome_match?_iff_of_isPlain hdplain hdr.symm s).2 hs⟩

/-- A table of plain definitions answers with the first rule whose language has the instruction, and
with nothing iff no language has it; so tables of the same languages choose alike, and a table in
two parts answers as the first part does, or else as the second. The captures are those of the
groups. -/
theorem match?_build_plain (h : build ds = .ok t) (hplain : ∀ d ∈ ds, d.isPlain = true)
    (s : String) :
    (∀ i, t.Chooses s i ↔ FirstIn (ds.map RuleDefinition.language) i s.toList) ∧
    (t.match? s = none ↔ ∀ d ∈ ds, s.toList ∉ d.language) ∧
    (∀ r cs, t.match? s = some (r, cs) → ∃ i d, t.Chooses s i ∧ t[i]? = some r ∧
      ds[i]? = some d ∧ CapturesOf d.bodies s.toList cs) ∧
    (∀ es u, build es = .ok u → (∀ d ∈ es, d.isPlain = true) →
      es.map RuleDefinition.language = ds.map RuleDefinition.language →
      ∀ i, u.Chooses s i ↔ t.Chooses s i) ∧
    ∀ ds₁ ds₂, ds = ds₁ ++ ds₂ → ∃ t₁ t₂, build ds₁ = .ok t₁ ∧ build ds₂ = .ok t₂ ∧
      t.match? s = (t₁.match? s).or (t₂.match? s) := by
  have hchooses : ∀ {es u}, build es = .ok u → (∀ d ∈ es, d.isPlain = true) → ∀ i,
      u.Chooses s i ↔ FirstIn (es.map RuleDefinition.language) i s.toList := by
    intro es u hu hes i
    obtain ⟨hids, hmap⟩ := build_eq_ok_iff.1 hu
    have hnodup : u.Nodup := by
      rw [← map_id_of_build hu] at hids
      exact List.Nodup.of_map _ hids
    have htake : (es.take i).map RuleDefinition.compile? = (u.take i).map some := by
      rw [List.map_take, hmap, List.map_take]
    rw [chooses_iff hnodup, exists_accepting_iff hmap hes,
      forall_match?_eq_none_iff htake fun d hd => hes d (List.mem_of_mem_take hd), FirstIn,
      List.map_take]
  refine ⟨hchooses h hplain, ?_, ?_, ?_, ?_⟩
  · rw [match?_eq_none_iff, forall_match?_eq_none_iff (build_eq_ok_iff.1 h).2 hplain,
      List.forall_mem_map]
  · intro r cs hm
    obtain ⟨earlier, later, htable, hr, -⟩ := match?_eq_some_iff.1 hm
    have hi : t[earlier.length]? = some r := by rw [htable]; simp
    obtain ⟨d, hd, hdr⟩ := (getElem?_of_compile (build_eq_ok_iff.1 h).2 _ r).1 hi
    exact ⟨earlier.length, d, ⟨r, cs, hi, hm⟩, hi, hd,
      RuleDefinition.capturesOf_of_isPlain (hplain d (List.mem_of_getElem? hd)) hdr hr⟩
  · intro es u hu hes heq i
    rw [hchooses hu hes, hchooses h hplain, heq]
  · rintro ds₁ ds₂ rfl
    obtain ⟨t₁, t₂, h₁, h₂, rfl⟩ := exists_build_of_append h
    exact ⟨t₁, t₂, h₁, h₂, match?_append t₁ t₂ s⟩

/-- A choice that prefers the shorter word first takes the whole instruction all the same. -/
theorem firstIn_abcd : ∃ t,
    build [.ofPattern "(a|ab)(c|bcd)(d*)", .ofPattern "a.*?d"] = .ok t ∧ t.Chooses "abcd" 0 ∧
    FirstIn ([.ofPattern "(a|ab)(c|bcd)(d*)", .ofPattern "a.*?d"].map RuleDefinition.language) 0
      "abcd".toList := by
  have hanswer : (build [.ofPattern "(a|ab)(c|bcd)(d*)", .ofPattern "a.*?d"]).toOption.bind
      (fun t => (t.match? "abcd").bind fun a => if t[0]? = some a.1 then some a.2 else none) =
      some [⟨"a", 0⟩, ⟨"bcd", 1⟩, ⟨"", 4⟩] := by
    decide +kernel
  cases hbuild : build [.ofPattern "(a|ab)(c|bcd)(d*)", .ofPattern "a.*?d"] with
  | error e =>
    rw [hbuild] at hanswer
    cases hanswer
  | ok t =>
    rw [hbuild, Except.toOption, Option.bind_some] at hanswer
    obtain ⟨⟨r, cs⟩, hm, hr⟩ := Option.bind_eq_some_iff.1 hanswer
    have hchooses : t.Chooses "abcd" 0 := by
      split at hr
      · next hzero => exact ⟨r, cs, hzero, hm⟩
      · cases hr
    obtain ⟨hfirst, -⟩ := match?_build_plain hbuild (by decide +kernel) "abcd"
    exact ⟨t, rfl, hchooses, (hfirst 0).1 hchooses⟩

end RuleTable

end Phrasebook
