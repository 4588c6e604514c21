import Phrasebook.Proofs.Pattern.Accepts
import Phrasebook.Proofs.Pattern.Wrapping
import Phrasebook.Proofs.Rule.Table

/-!
# Whole instructions

A trigger is meant to take a whole instruction. `Trigger.find?` tells in addition where its match
starts and ends, so that this can be said.

Results:
* `map_snd_find?`: apart from that, it is the match of the trigger.
* `find?_whole`: a trigger that starts and ends with the anchors takes the whole instruction.
* `find?_of_match?`: so the rule that a table returns took the whole instruction unless its trigger
  is a choice, which it is not where the pattern is well formed on its own.
* `find?_open_choice`: a pattern that closes the group of the wrapping and opens another one gives a
  trigger that takes the start of an instruction.
-/

namespace Phrasebook

open Phrasebook.Text

/-! ## Where a match starts -/

namespace Pattern

/-- The first match that starts at a given offset or later: its offset and the place where it
ends. -/
def findFrom (p : Pattern) (marks : List (Option Mark)) (offset : Nat) :
    List Char → Option (Nat × Place)
  | [] => (p.run some ⟨offset, [], marks⟩).map (offset, ·)
  | c :: s =>
    ((p.run some ⟨offset, c :: s, marks⟩).map (offset, ·)).orElse fun _ =>
      findFrom p marks (offset + unitsOf c) s

theorem map_snd_findFrom (p : Pattern) (marks : List (Option Mark)) (s : List Char) :
    ∀ offset, (findFrom p marks offset s).map Prod.snd = searchFrom p marks offset s := by
  induction s with
  | nil =>
    intro offset
    rw [findFrom, searchFrom, Option.map_map]
    exact Option.map_id'
  | cons c s ih =>
    intro offset
    rw [findFrom, searchFrom, ← ih]
    cases p.run some ⟨offset, c :: s, marks⟩ with
    | none => rfl
    | some t => rfl

/-- A match is what the pattern takes at some place of the text. -/
theorem findFrom_sound {p : Pattern} {marks : List (Option Mark)} {s : List Char} :
    ∀ {offset start t}, findFrom p marks offset s = some (start, t) →
      ∃ before after, s = before ++ after ∧ start = offset + units before ∧
        p.Takes ⟨start, after, marks⟩ t := by
  induction s with
  | nil =>
    intro offset start t h
    obtain ⟨u, hu, h⟩ := Option.map_eq_some_iff.1 h
    cases h
    obtain ⟨v, hv, heq⟩ := run_sound p _ _ _ hu
    cases heq
    exact ⟨[], [], rfl, rfl, hv⟩
  | cons c s ih =>
    intro offset start t h
    rcases eq_some_of_orElse h with h | h
    · obtain ⟨u, hu, h⟩ := Option.map_eq_some_iff.1 h
      cases h
      obtain ⟨v, hv, heq⟩ := run_sound p _ _ _ hu
      cases heq
      exact ⟨[], c :: s, rfl, rfl, hv⟩
    · obtain ⟨before, after, rfl, rfl, ht⟩ := ih h
      exact ⟨c :: before, after, rfl, by rw [units_cons, Nat.add_assoc], ht⟩

end Pattern

namespace Trigger

/-- The first match in an instruction: the units where it starts and where it ends, and the
captures. -/
def find? (t : Trigger) (instruction : String) : Option (Mark × List Capture) :=
  (t.pattern.findFrom (List.replicate t.groups none) 0 instruction.toList).map fun (start, s) =>
    ((start, s.offset), s.marks.map (capture instruction.toList))

theorem map_snd_find? (t : Trigger) (instruction : String) :
    (t.find? instruction).map Prod.snd = t.match? instruction := by
  rw [match?, Pattern.search, ← Pattern.map_snd_findFrom, find?, Option.map_map, Option.map_map]
  rfl

/-- A trigger that starts and ends with the anchors takes the whole instruction. -/
theorem find?_whole {t : Trigger} {ps : List Pattern}
    (ht : t.pattern = Pattern.seqs (.atStart :: (ps ++ [.atEnd]))) {s : String} {m : Mark}
    {cs : List Capture} (h : t.find? s = some (m, cs)) : m = (0, units s.toList) := by
  obtain ⟨⟨start, u⟩, hu, h⟩ := Option.map_eq_some_iff.1 h
  cases h
  obtain ⟨before, after, hs, rfl, htakes⟩ := Pattern.findFrom_sound hu
  rw [ht] at htakes
  obtain ⟨v, ⟨hzero, rfl⟩, htakes⟩ := htakes
  obtain ⟨w, hw, hlast⟩ := (Pattern.takes_seqs_append ps [.atEnd] _ u).1 htakes
  obtain ⟨hend, rfl⟩ := (Pattern.takes_seqs_singleton .atEnd w u).1 hlast
  obtain ⟨taken, htaken, hoffset⟩ := hw.stretch
  have hzero : units before = 0 := by
    have : 0 + units before = 0 := hzero
    omega
  have hafter : after = taken := by
    have : after = taken ++ u.rest := htaken
    rw [this, hend, List.append_nil]
  have hunits : u.offset = units s.toList := by
    have : u.offset = 0 + units before + units taken := hoffset
    rw [hs, units_append, hafter]
    omega
  rw [hzero, hunits]

end Trigger

/-! ## Tables -/

namespace RuleTable

/-- The rule that a table returns took the whole instruction unless its trigger is a choice, and a
pattern that is well formed on its own gives no such trigger. -/
theorem find?_of_match? {ds : List RuleDefinition} {t : RuleTable} (h : build ds = .ok t)
    {s : String} {r : Rule} {cs : List Capture} (hm : t.match? s = some (r, cs)) :
    (r.trigger.pattern.isChoice = false →
      r.trigger.find? s = some ((0, units s.toList), cs)) ∧
    ∀ d ∈ ds, d.compile? = some r → (Pattern.read? d.pattern.toList).isSome →
      r.trigger.pattern.isChoice = false := by
  constructor
  · intro hchoice
    obtain ⟨earlier, later, htable, hcs, -⟩ := match?_eq_some_iff.1 hm
    have hq : r ∈ t := by rw [htable]; simp
    obtain ⟨d, -, hd⟩ : ∃ d ∈ ds, d.compile? = some r := by
      have hmem : some r ∈ ds.map RuleDefinition.compile? := by
        rw [(build_eq_ok_iff.1 h).2]
        exact List.mem_map_of_mem hq
      exact List.mem_map.1 hmem
    obtain ⟨trigger, htrigger, rfl⟩ := Option.map_eq_some_iff.1 hd
    obtain ⟨ps, hps⟩ := Trigger.compile?_eq_seqs htrigger hchoice
    rw [← Trigger.map_snd_find?] at hcs
    obtain ⟨⟨m, cs⟩, hfind, rfl⟩ := Option.map_eq_some_iff.1 hcs
    rw [Trigger.find?_whole hps hfind] at hfind
    exact hfind
  · intro d _ hd hread
    obtain ⟨⟨p, n⟩, hp⟩ := Option.isSome_iff_exists.1 hread
    obtain ⟨trigger, htrigger, rfl⟩ := Option.map_eq_some_iff.1 hd
    obtain rfl := Option.some.inj ((Trigger.compile?_of_read? hp).symm.trans htrigger)
    rfl

end RuleTable

/-- The definition of a rule by its pattern, which is its id too, with nothing else in it. -/
def RuleDefinition.ofPattern (pattern : String) : RuleDefinition :=
  { id := pattern, template := "", description := "", sample := "", pattern := pattern,
    snippet := .fixed "" }

namespace RuleTable

/-- The table of one pattern that is well formed, and the match of its rule. -/
theorem match?_ofPattern (pattern instruction : String)
    (a : List Capture × Option (Mark × List Capture))
    (h : (RuleDefinition.ofPattern pattern).compile?.bind (fun r =>
      (r.trigger.match? instruction).map (·, r.trigger.find? instruction)) = some a) :
    ∃ t r, build [RuleDefinition.ofPattern pattern] = .ok t ∧
      (RuleDefinition.ofPattern pattern).compile? = some r ∧
      t.match? instruction = some (r, a.1) ∧ r.trigger.find? instruction = a.2 := by
  obtain ⟨r, hr, h⟩ := Option.bind_eq_some_iff.1 h
  obtain ⟨cs, hcs, rfl⟩ := Option.map_eq_some_iff.1 h
  refine ⟨[r], r, build_eq_ok_iff.2 ⟨by simp, by simp [hr]⟩, hr, ?_, rfl⟩
  simp [match?, firstMatch, hcs]

/-- The second of two words is taken as a whole. -/
theorem find?_pong : ∃ t r cs, build [.ofPattern "ping|pong"] = .ok t ∧
    t.match? "pong" = some (r, cs) ∧ r.trigger.find? "pong" = some ((0, 4), cs) := by
  obtain ⟨t, r, ht, hr, hm, -⟩ := match?_ofPattern "ping|pong" "pong"
    ([], some ((0, 4), [])) (by decide +kernel)
  obtain ⟨hwhole, hchoice⟩ := find?_of_match? ht hm
  exact ⟨t, r, _, ht, hm, hwhole (hchoice _ (by simp) hr (by decide +kernel))⟩

/-- A pattern that closes the group of the wrapping and opens another one takes the first unit of
two. -/
theorem find?_open_choice : ∃ t r cs, build [.ofPattern "a)|(?:b"] = .ok t ∧
    t.match? "ax" = some (r, cs) ∧ r.trigger.find? "ax" = some ((0, 1), cs) ∧
    units "ax".toList = 2 := by
  obtain ⟨t, r, ht, -, hm, hfind⟩ := match?_ofPattern "a)|(?:b" "ax"
    ([], some ((0, 1), [])) (by decide +kernel)
  exact ⟨t, r, _, ht, hm, hfind, by decide⟩

end RuleTable

end Phrasebook
