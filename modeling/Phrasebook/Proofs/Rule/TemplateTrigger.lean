import Phrasebook.Proofs.Pattern.Accepts
import Phrasebook.Proofs.Rule.Template

/-!
# The trigger of a template

A template has a pattern: its fixed words character by character, and a group for each slot. The
trigger of a list of templates is a choice between their patterns, with an anchor at both ends.

Results:
* `Slot.accepts_pattern`: the pattern of a slot takes exactly the texts that the slot holds.
* `takes_items_iff`: the pattern of a template takes exactly its fillings, and marks the captures.
* `match?_trigger_eq_some_iff`: the trigger captures `cs` iff the instruction is one of the
  templates filled with `cs`.
-/

namespace Phrasebook

open Phrasebook.Text

/-! ## Slots -/

namespace Slot

/-- The pattern of a slot, without its group. -/
def pattern : Slot → Pattern
  | .keyword => .choice arithmeticKeywords
  | .number => .oneOrMore ⟨[.named .digit false], false⟩
  | .name => .oneOrMore ⟨[.named .letter false, .named .number false, .range 0x5F 0x5F], false⟩
  | .text => .oneOrMore .notLineEnd

theorem contains_notLineEnd (c : Char) : CharClass.notLineEnd.contains c = !isLineEnd c := by
  have htoNat : ∀ d : Char, c = d ↔ c.toNat = d.toNat := fun d => Char.toNat_inj.symm
  -- both sides compare the code point with the same four numbers
  have hends : isLineEnd c = (decide (c.toNat = 0x0A) || decide (c.toNat = 0x0D) ||
      decide (c.toNat = 0x2028) || decide (c.toNat = 0x2029)) := by
    simp only [isLineEnd, lineEnds, List.contains_cons, List.contains_nil, Bool.or_false,
      beq_eq_decide, htoNat, Bool.or_assoc]
    rfl
  rw [hends, CharClass.notLineEnd, CharClass.contains]
  simp only [List.any_cons, List.any_nil, Bool.or_false, ClassItem.contains]
  rw [Bool.eq_iff_iff]
  simp
  omega

theorem contains_name (c : Char) :
    CharClass.contains ⟨[.named .letter false, .named .number false, .range 0x5F 0x5F], false⟩ c =
      (isLetter c || isNumber c || c == '_') := by
  have hlow : (decide (0x5F ≤ c.toNat) && decide (c.toNat ≤ 0x5F)) = (c == '_') := by
    rw [Bool.eq_iff_iff]
    simp only [Bool.and_eq_true, decide_eq_true_eq, beq_iff_eq, ← Char.toNat_inj]
    constructor
    · rintro ⟨h, h'⟩
      exact le_antisymm h' h
    · intro h
      rw [h]
      decide
  simp [CharClass.contains, ClassItem.contains, NamedClass.contains, hlow, Bool.or_assoc]

/-- A row of a class accepts what a slot holds if the two agree on characters. -/
theorem accepts_row {k : Slot} {cls : CharClass} (h : ∀ c, cls.contains c = k.admits c) :
    (Pattern.oneOrMore cls).Accepts fun w => w ≠ [] ∧ ∀ c ∈ w, k.admits c = true := by
  simpa only [h] using Pattern.accepts_oneOrMore cls

theorem accepts_pattern (k : Slot) : k.pattern.Accepts k.Holds := by
  cases k with
  | keyword => exact Pattern.accepts_choice (by decide)
  | number =>
    refine accepts_row (k := .number) fun c => ?_
    simp [CharClass.contains, ClassItem.contains, NamedClass.contains, admits]
  | name => exact accepts_row (k := .name) contains_name
  | text => exact accepts_row (k := .text) contains_notLineEnd

end Slot

/-! ## Templates -/

namespace Template

/-- The patterns of the parts, with the groups numbered from `i`. -/
def items (i : Nat) : Template → List Pattern
  | [] => []
  | .words w :: t => Pattern.literal w.toList ++ items i t
  | .slot k :: t => .group i k.pattern :: items (i + 1) t

/-- The pattern of a template takes exactly its fillings, and marks the captures. -/
theorem takes_items_iff {t : Template} : ∀ {pre : List (Option Mark)} {s u : Place},
    s.marks = pre ++ List.replicate t.slots none →
    ((Pattern.seqs (t.items pre.length)).Takes s u ↔ ∃ w rest cs, Fills t s.offset w cs ∧
      s.rest = w ++ rest ∧ u = ⟨s.offset + units w, rest, pre ++ cs.map Capture.mark⟩) := by
  induction t with
  | nil =>
    intro pre s u hm
    simp only [slots, List.replicate_zero, List.append_nil] at hm
    constructor
    · rintro rfl
      exact ⟨[], u.rest, [], .nil _, rfl, by simp [← hm]⟩
    · rintro ⟨w, rest, cs, hf, hr, rfl⟩
      cases hf
      show _ = s
      simp only [List.nil_append] at hr
      simp [← hr, ← hm]
  | cons part t ih =>
    intro pre s u hm
    cases part with
    | words w =>
      rw [items, Pattern.takes_seqs_append]
      have hafter : ∀ r, (s.after w.toList r).marks = pre ++ List.replicate (slots t) none :=
        fun _ => hm
      constructor
      · rintro ⟨v, hv, hu⟩
        obtain ⟨_, r, rfl, hr, rfl⟩ := (Pattern.accepts_literal _ s v).1 hv
        obtain ⟨x, rest, cs, hf, hr', rfl⟩ := (ih (hafter r)).1 hu
        refine ⟨w.toList ++ x, rest, cs, .words hf, ?_, ?_⟩
        · rw [hr, List.append_assoc, ← hr']
          rfl
        · simp [Place.after, Nat.add_assoc]
      · rintro ⟨_, rest, cs, hf, hr, rfl⟩
        cases hf with
        | @words _ _ _ x _ hf =>
          rw [List.append_assoc] at hr
          refine ⟨s.after w.toList (x ++ rest), ?_, (ih (hafter _)).2 ⟨x, rest, cs, hf, rfl, ?_⟩⟩
          · exact (Pattern.accepts_literal _ s _).2 ⟨_, _, rfl, hr, rfl⟩
          · simp [Place.after, Nat.add_assoc]
    | slot k =>
      -- the group sets the first of the marks that are still free
      have hmark : ∀ w r, ((s.after w r).mark pre.length (s.offset, s.offset + units w)).marks =
          (pre ++ [some (s.offset, s.offset + units w)]) ++ List.replicate (slots t) none := by
        intro w r
        simp [Place.after, Place.mark, hm, slots, List.replicate_succ]
      have hlen : ∀ m : Option Mark, (pre ++ [m]).length = pre.length + 1 := by simp
      constructor
      · rintro ⟨_, ⟨v, hv, rfl⟩, hu⟩
        obtain ⟨w, r, hw, hr, rfl⟩ := (k.accepts_pattern s v).1 hv
        rw [← hlen (some (s.offset, s.offset + units w))] at hu
        obtain ⟨x, rest, cs, hf, hr', rfl⟩ := (ih (hmark w r)).1 hu
        refine ⟨w ++ x, rest, _, .slot hw hf, ?_, ?_⟩
        · rw [hr, List.append_assoc, ← hr']
          rfl
        · simp [Place.after, Place.mark, Capture.mark, Nat.add_assoc]
      · rintro ⟨_, rest, _, hf, hr, rfl⟩
        cases hf with
        | @slot _ w _ _ x cs hw hf =>
          rw [List.append_assoc] at hr
          refine ⟨_, ⟨s.after w (x ++ rest), ?_, rfl⟩, ?_⟩
          · exact (k.accepts_pattern s _).2 ⟨w, _, hw, hr, rfl⟩
          · show (Pattern.seqs (items (pre.length + 1) t)).Takes _ _
            rw [← hlen (some (s.offset, s.offset + units w))]
            refine (ih (hmark w (x ++ rest))).2 ⟨x, rest, cs, hf, rfl, ?_⟩
            simp [Place.after, Place.mark, Capture.mark, Nat.add_assoc]

/-! ## Triggers -/

/-- The number of slots of the templates of one rule. -/
def slotCount (ts : List Template) : Nat := (ts.head?.map slots).getD 0

/-- The trigger of a choice between templates. -/
def trigger (ts : List Template) : Trigger :=
  ⟨.seq .atStart (.seq (.alts (ts.map fun t => .seqs (t.items 0))) (.seq .atEnd .empty)),
    slotCount ts⟩

/-- The templates of one rule: there is one, or several without slots, and each is delimited and
stands on one line. -/
def wellFormed (ts : List Template) : Bool :=
  !ts.isEmpty && (ts.all fun t => t.delimited && t.oneLine && t.slots == slotCount ts) &&
    (ts.length == 1 || slotCount ts == 0)

/-- The instruction is one of the templates with its slots filled by the captures. -/
def Fit (ts : List Template) (s : String) (cs : List Capture) : Prop :=
  ∃ t ∈ ts, Fills t 0 s.toList cs

theorem all_of_wellFormed {ts : List Template} (h : wellFormed ts = true) :
    ∀ t ∈ ts, t.delimited = true ∧ t.oneLine = true ∧ t.slots = slotCount ts := by
  intro t ht
  simp only [wellFormed, Bool.and_eq_true, List.all_eq_true, beq_iff_eq] at h
  obtain ⟨⟨hd, ho⟩, hs⟩ := h.1.2 t ht
  exact ⟨hd, ho, hs⟩

/-- An instruction fits the templates of a rule in one way only. -/
theorem Fit.unique {ts : List Template} (h : wellFormed ts = true) {s : String}
    {cs cs' : List Capture} (hf : Fit ts s cs) (hf' : Fit ts s cs') : cs = cs' := by
  obtain ⟨t, ht, hf⟩ := hf
  obtain ⟨t', ht', hf'⟩ := hf'
  obtain ⟨hd, -, hs⟩ := all_of_wellFormed h t ht
  obtain ⟨-, -, hs'⟩ := all_of_wellFormed h t' ht'
  have hlast : ts.length = 1 ∨ slotCount ts = 0 := by
    simp only [wellFormed, Bool.and_eq_true, Bool.or_eq_true, beq_iff_eq] at h
    exact h.2
  rcases hlast with hone | hzero
  · obtain ⟨u, rfl⟩ := List.length_eq_one_iff.1 hone
    obtain rfl := List.mem_singleton.1 ht
    obtain rfl := List.mem_singleton.1 ht'
    exact hf.unique hd hf'
  · have hnil : ∀ {u o v ds}, Fills u o v ds → u.slots = slotCount ts → ds = [] := by
      intro u o v ds hu he
      rw [← List.length_eq_zero_iff, hu.length_eq, he, hzero]
    rw [hnil hf hs, hnil hf' hs']

/-- An instruction that fits stands on one line. -/
theorem Fit.not_lineEnd {ts : List Template} (h : wellFormed ts = true) {s : String}
    {cs : List Capture} (hf : Fit ts s cs) : ∀ c ∈ s.toList, isLineEnd c = false := by
  obtain ⟨t, ht, hf⟩ := hf
  exact hf.not_lineEnd (all_of_wellFormed h t ht).2.1

/-- The places that the trigger can reach between its anchors are the fillings of the whole
instruction. -/
theorem takes_trigger_iff {ts : List Template} (h : wellFormed ts = true) (s : List Char)
    (u : Place) :
    (Pattern.seq (.alts (ts.map fun t => .seqs (t.items 0))) (.seq .atEnd .empty)).Takes
        ⟨0, s, List.replicate (slotCount ts) none⟩ u ↔
      ∃ t ∈ ts, ∃ cs, Fills t 0 s cs ∧ u = ⟨units s, [], cs.map Capture.mark⟩ := by
  have hne : (ts.map fun t => Pattern.seqs (t.items 0)) ≠ [] := by
    simp only [wellFormed, Bool.and_eq_true, Bool.not_eq_true', List.isEmpty_eq_false_iff] at h
    simpa using h.1.1
  have hitems : ∀ t ∈ ts, ∀ v, (Pattern.seqs (t.items 0)).Takes
      ⟨0, s, List.replicate (slotCount ts) none⟩ v ↔ ∃ w rest cs, Fills t 0 w cs ∧
        s = w ++ rest ∧ v = ⟨0 + units w, rest, cs.map Capture.mark⟩ := by
    intro t ht v
    have hm : List.replicate (slotCount ts) (none : Option Mark) =
        [] ++ List.replicate t.slots none := by
      rw [(all_of_wellFormed h t ht).2.2, List.nil_append]
    exact @takes_items_iff t [] ⟨0, s, List.replicate (slotCount ts) none⟩ v hm
  simp only [Pattern.Takes, Pattern.takes_alts hne, List.mem_map, exists_exists_and_eq_and]
  constructor
  · rintro ⟨v, ⟨t, ht, hv⟩, v', ⟨hend, rfl⟩, rfl⟩
    obtain ⟨w, rest, cs, hf, rfl, rfl⟩ := (hitems t ht _).1 hv
    obtain rfl : rest = [] := hend
    exact ⟨t, ht, cs, by simpa using hf, by simp⟩
  · rintro ⟨t, ht, cs, hf, rfl⟩
    refine ⟨_, ⟨t, ht, (hitems t ht _).2 ⟨s, [], cs, hf, by simp, rfl⟩⟩, ?_⟩
    exact ⟨_, ⟨rfl, by simp⟩, rfl⟩

/-- The trigger captures `cs` iff the instruction is one of the templates filled with `cs`. -/
theorem match?_trigger_eq_some_iff {ts : List Template} (h : wellFormed ts = true) (s : String)
    (cs : List Capture) : (trigger ts).match? s = some cs ↔ Fit ts s cs := by
  have hsound : ∀ {ds}, (trigger ts).match? s = some ds → Fit ts s ds := by
    intro ds hds
    rw [Trigger.match?, trigger, Pattern.search_atStart] at hds
    obtain ⟨u, hu, rfl⟩ := Option.map_eq_some_iff.1 hds
    obtain ⟨v, hv, hvu⟩ := Pattern.run_sound _ _ _ _ hu
    obtain rfl := Option.some.inj hvu
    obtain ⟨t, ht, cs, hf, rfl⟩ := (takes_trigger_iff h s.toList v).1 hv
    have hcs := hf.map_capture [] rfl
    rw [List.nil_append] at hcs
    exact ⟨t, ht, by rw [hcs]; exact hf⟩
  constructor
  · exact hsound
  · rintro ⟨t, ht, hf⟩
    have hsome : ((trigger ts).match? s).isSome := by
      rw [Trigger.match?, trigger, Pattern.search_atStart, Option.isSome_map]
      have htakes := (takes_trigger_iff h s.toList _).2 ⟨t, ht, cs, hf, rfl⟩
      exact Pattern.run_complete _ _ _ _ htakes rfl
    obtain ⟨ds, hds⟩ := Option.isSome_iff_exists.1 hsome
    rw [hds, (hsound hds).unique h ⟨t, ht, hf⟩]

end Template

end Phrasebook
