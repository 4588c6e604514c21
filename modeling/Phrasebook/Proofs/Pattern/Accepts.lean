import Phrasebook.Proofs.Pattern.Takes

/-!
# The texts that a pattern accepts

`Pattern.Accepts p l` says that `p` takes exactly the texts of `l`, wherever it stands, and marks
nothing. Fixed words, choices between them and rows of one character class are of this kind.

Results:
* `accepts_literal`, `accepts_choice`, `accepts_oneOrMore`: the texts of these three.
* `takes_seqs_append`, `takes_alts`: rows and choices of any patterns.
-/

namespace Phrasebook

open Phrasebook.Text

/-- The place behind a text, with another rest. -/
def Place.after (s : Place) (w rest : List Char) : Place :=
  { s with offset := s.offset + units w, rest := rest }

namespace Pattern

/-- The pattern takes exactly the texts of `l` and marks no group. -/
def Accepts (p : Pattern) (l : List Char → Prop) : Prop :=
  ∀ s t, p.Takes s t ↔ ∃ w rest, l w ∧ s.rest = w ++ rest ∧ t = s.after w rest

/-! ## Rows and choices -/

theorem takes_seqs_append (ps qs : List Pattern) (s t : Place) :
    (seqs (ps ++ qs)).Takes s t ↔ ∃ u, (seqs ps).Takes s u ∧ (seqs qs).Takes u t := by
  induction ps generalizing s with
  | nil => simp [seqs, Takes]
  | cons p ps ih =>
    have hcons : ∀ rs, seqs (p :: rs) = .seq p (seqs rs) := fun _ => rfl
    rw [List.cons_append, hcons, hcons]
    simp only [Takes, ih]
    constructor
    · rintro ⟨u, hu, v, hv, ht⟩
      exact ⟨v, ⟨u, hu, hv⟩, ht⟩
    · rintro ⟨v, ⟨u, hu, hv⟩, ht⟩
      exact ⟨u, hu, v, hv, ht⟩

theorem takes_seqs_singleton (p : Pattern) (s t : Place) :
    (seqs [p]).Takes s t ↔ p.Takes s t := by
  simp [seqs, Takes]

theorem takes_alts {ps : List Pattern} (hps : ps ≠ []) (s t : Place) :
    (alts ps).Takes s t ↔ ∃ p ∈ ps, p.Takes s t := by
  induction ps with
  | nil => exact absurd rfl hps
  | cons p ps ih =>
    cases ps with
    | nil => simp [alts]
    | cons q qs => simp [alts, Takes, ih (by simp)]

/-! ## Fixed words -/

/-- The characters of a text, one after the other. -/
def literal (w : List Char) : List Pattern := w.map fun c => .one (.single c.toNat)

theorem single_contains_iff (c d : Char) :
    (CharClass.single c.toNat).contains d = true ↔ d = c := by
  simp only [CharClass.contains, CharClass.single, List.any_cons, List.any_nil, Bool.or_false,
    bne_iff_ne, ne_eq, Bool.not_eq_false, ClassItem.contains, Bool.and_eq_true, decide_eq_true_eq]
  constructor
  · rintro ⟨h, h'⟩
    exact Char.toNat_inj.1 (by omega)
  · rintro rfl
    exact ⟨le_rfl, le_rfl⟩

theorem accepts_literal (w : List Char) : Accepts (seqs (literal w)) (· = w) := by
  induction w with
  | nil =>
    intro s t
    constructor
    · rintro rfl
      exact ⟨[], t.rest, rfl, rfl, rfl⟩
    · rintro ⟨_, rest, rfl, hr, rfl⟩
      rw [List.nil_append] at hr
      rw [← hr]
      rfl
  | cons c w ih =>
    intro s t
    have hcons : seqs (literal (c :: w)) = .seq (.one (.single c.toNat)) (seqs (literal w)) := rfl
    rw [hcons]
    simp only [Takes, single_contains_iff, ih _ t]
    constructor
    · rintro ⟨_, ⟨_, rest, hr, rfl, rfl⟩, _, rest', rfl, hr', rfl⟩
      refine ⟨_, rest', rfl, ?_, ?_⟩
      · rw [hr, List.cons_append, ← hr']
        rfl
      · simp [Place.after, Place.advance, Nat.add_assoc]
    · rintro ⟨_, rest, rfl, hr, rfl⟩
      refine ⟨_, ⟨c, w ++ rest, hr, rfl, rfl⟩, w, rest, rfl, rfl, ?_⟩
      simp [Place.after, Place.advance, Nat.add_assoc]

/-- A choice between fixed words. -/
def choice (ws : List (List Char)) : Pattern := .alts (ws.map fun w => .seqs (literal w))

theorem accepts_choice {ws : List (List Char)} (hws : ws ≠ []) :
    Accepts (choice ws) (· ∈ ws) := by
  intro s t
  rw [choice, takes_alts (by simpa using hws)]
  constructor
  · rintro ⟨p, hp, ht⟩
    obtain ⟨w, hw, rfl⟩ := List.mem_map.1 hp
    obtain ⟨v, rest, rfl, hr⟩ := (accepts_literal _ s t).1 ht
    exact ⟨v, rest, hw, hr⟩
  · rintro ⟨w, rest, hw, hr⟩
    exact ⟨_, List.mem_map_of_mem hw, (accepts_literal w s t).2 ⟨w, rest, rfl, hr⟩⟩

/-! ## Rows of one class -/

/-- One or more characters of a class, as many as there are. -/
def oneOrMore (k : CharClass) : Pattern := .seqs [.repeated (.one k) 1 none true]

/-- A row of repetitions of a class takes characters of the class. -/
theorem upTo_one {k : CharClass} {most : Option Nat} {s t : Place}
    (h : UpTo (one k).Takes [] most s t) :
    ∃ w rest, (∀ c ∈ w, k.contains c = true) ∧ s.rest = w ++ rest ∧ t = s.after w rest := by
  induction h with
  | stop most s => exact ⟨[], s.rest, by simp, rfl, rfl⟩
  | further hm hb hu ht ih =>
    obtain ⟨c, r, hr, hc, rfl⟩ := hb
    obtain ⟨w, rest, hw, hr', rfl⟩ := ih
    refine ⟨c :: w, rest, ?_, ?_, ?_⟩
    · simpa [hc] using hw
    · rw [List.cons_append, ← hr']
      exact hr
    · simp [Place.after, Place.advance, Place.unmark, Nat.add_assoc]

theorem upTo_one_of_all {k : CharClass} (w : List Char) (hw : ∀ c ∈ w, k.contains c = true) :
    ∀ s rest, s.rest = w ++ rest → UpTo (one k).Takes [] none s (s.after w rest) := by
  induction w with
  | nil =>
    intro s rest hr
    rw [List.nil_append] at hr
    rw [← hr]
    exact .stop none s
  | cons c w ih =>
    intro s rest hr
    have hpos := unitsOf_pos c
    have hstep : UpTo (one k).Takes [] none (s.advance c (w ++ rest)) (s.after (c :: w) rest) := by
      have := ih (fun d hd => hw d (by simp [hd])) (s.advance c (w ++ rest)) rest rfl
      simpa [Place.after, Place.advance, Nat.add_assoc] using this
    refine .further (by simp) ⟨c, w ++ rest, hr, hw c (by simp), rfl⟩ ?_ hstep
    simp only [Place.advance, Place.unmark, List.foldl_nil]
    omega

theorem accepts_oneOrMore (k : CharClass) :
    Accepts (oneOrMore k) fun w => w ≠ [] ∧ ∀ c ∈ w, k.contains c = true := by
  intro s t
  rw [oneOrMore, takes_seqs_singleton]
  constructor
  · rintro ⟨u, ⟨_, ⟨c, r, hr, hc, rfl⟩, rfl⟩, ht⟩
    obtain ⟨w, rest, hw, hr', rfl⟩ := upTo_one ht
    refine ⟨c :: w, rest, ⟨by simp, by simpa [hc] using hw⟩, ?_, ?_⟩
    · rw [List.cons_append, ← hr']
      exact hr
    · simp [Place.after, Place.advance, Place.unmark, groups, Nat.add_assoc]
  · rintro ⟨w, rest, ⟨hne, hw⟩, hr, rfl⟩
    obtain ⟨c, w, rfl⟩ := List.exists_cons_of_ne_nil hne
    refine ⟨s.advance c (w ++ rest), ⟨_, ⟨c, w ++ rest, hr, hw c (by simp), rfl⟩, rfl⟩, ?_⟩
    have := upTo_one_of_all w (fun d hd => hw d (by simp [hd])) (s.advance c (w ++ rest)) rest rfl
    simpa [Place.after, Place.advance, Nat.add_assoc, groups] using this

end Pattern

end Phrasebook
