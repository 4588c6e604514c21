import Phrasebook.Proofs.Pattern.Language

/-!
# The marks of groups

A pattern sets the mark of a group when the group has taken a text, and removes it before a
repetition. One invariant says what the places are like that are reached on the way through a text:
every mark is that of a part of the text, and the part is in the language of the group.

Results:
* `Times.preserves`, `UpTo.preserves`: what a repetition keeps, the repetitions keep.
* `Takes.fits`: a pattern keeps the invariant.
-/

namespace Phrasebook

open Phrasebook.Text

namespace Pattern

/-- The groups in a pattern in the order in which they are opened, each with its number and what
stands in it. -/
def bodies : Pattern → List (Nat × Pattern)
  | .empty | .one _ | .atStart | .atEnd => []
  | .seq p q | .alt p q => p.bodies ++ q.bodies
  | .group i p => (i, p) :: p.bodies
  | .repeated p _ _ _ => p.bodies

theorem map_fst_bodies (p : Pattern) : p.bodies.map Prod.fst = p.groups := by
  induction p with
  | empty => rfl
  | one k => rfl
  | seq p q ihp ihq => rw [bodies, List.map_append, ihp, ihq, groups]
  | alt p q ihp ihq => rw [bodies, List.map_append, ihp, ihq, groups]
  | group i p ih => rw [bodies, List.map_cons, ih, groups]
  | repeated p least most greedy ih => rw [bodies, ih, groups]
  | atStart => rfl
  | atEnd => rfl

/-- Where the groups are numbered in order, a number leads to its group. -/
theorem getElem?_bodies {p : Pattern} {n : Nat} (hp : p.groups = List.range n) {i : Nat}
    {q : Pattern} (h : (i, q) ∈ p.bodies) : p.bodies[i]? = some (i, q) := by
  obtain ⟨k, hk⟩ := List.getElem?_of_mem h
  have hi : (p.bodies.map Prod.fst)[k]? = some i := by rw [List.getElem?_map, hk]; rfl
  rw [map_fst_bodies, hp] at hi
  obtain ⟨hlt, heq⟩ := List.getElem?_eq_some_iff.1 hi
  rw [List.getElem_range] at heq
  rw [← heq]
  exact heq ▸ hk

theorem length_bodies {p : Pattern} {n : Nat} (hp : p.groups = List.range n) :
    p.bodies.length = n := by
  have hlength := congrArg List.length (map_fst_bodies p)
  rwa [List.length_map, hp, List.length_range] at hlength

end Pattern

/-! ## The invariant -/

/-- The mark is that of a part of the text which the group can have taken. -/
def IsMarkOf (full : List Char) (bodies : List (Nat × Pattern)) (i : Nat) (m : Mark) : Prop :=
  ∃ before w after q, full = before ++ (w ++ after) ∧
    m = (units before, units before + units w) ∧ (i, q) ∈ bodies ∧ w ∈ q.language

/-- The place is one in the text, and its marks are those of groups. -/
structure Place.Fits (full : List Char) (bodies : List (Nat × Pattern)) (s : Place) : Prop where
  stands : ∃ before, full = before ++ s.rest ∧ s.offset = units before
  length_marks : s.marks.length = bodies.length
  marks : ∀ i m, s.marks[i]? = some (some m) → IsMarkOf full bodies i m

namespace Place.Fits

variable {full : List Char} {bodies : List (Nat × Pattern)} {s t : Place}

/-- At the start of a text, without marks. -/
theorem start (full : List Char) (bodies : List (Nat × Pattern)) :
    Fits full bodies ⟨0, full, List.replicate bodies.length none⟩ where
  stands := ⟨[], rfl, rfl⟩
  length_marks := by simp
  marks := by
    intro i m h
    rw [List.getElem?_replicate] at h
    split at h <;> cases h

theorem unmark (h : s.Fits full bodies) (groups : List Nat) :
    (s.unmark groups).Fits full bodies := by
  obtain ⟨hstands, hlength, hmarks⟩ := h
  suffices hfold : ∀ ms : List (Option Mark), ms.length = bodies.length →
      (∀ i m, ms[i]? = some (some m) → IsMarkOf full bodies i m) →
      (groups.foldl (fun ms i => ms.set i none) ms).length = bodies.length ∧
      ∀ i m, (groups.foldl (fun ms i => ms.set i none) ms)[i]? = some (some m) →
        IsMarkOf full bodies i m by
    obtain ⟨hlength', hmarks'⟩ := hfold s.marks hlength hmarks
    exact ⟨hstands, hlength', hmarks'⟩
  intro ms hlength hmarks
  induction groups generalizing ms with
  | nil => exact ⟨hlength, hmarks⟩
  | cons g gs ih =>
    refine ih (ms.set g none) (by rw [List.length_set, hlength]) fun i m h => ?_
    rw [List.getElem?_set] at h
    split at h
    · split at h <;> cases h
    · exact hmarks i m h

/-- A place further on in the text, with the same marks. -/
theorem stretch (h : s.Fits full bodies) (hst : Pattern.Stretch s t) (hm : t.marks = s.marks) :
    t.Fits full bodies := by
  obtain ⟨⟨before, hfull, hoffset⟩, hlength, hmarks⟩ := h
  obtain ⟨w, hw, hwo⟩ := hst
  refine ⟨⟨before ++ w, ?_, ?_⟩, hm ▸ hlength, hm ▸ hmarks⟩
  · rw [hfull, hw, List.append_assoc]
  · rw [hwo, hoffset, units_append]

/-- A group marks what it took. -/
theorem mark (hs : s.Fits full bodies) (ht : t.Fits full bodies) {i : Nat} {q : Pattern}
    (hq : (i, q) ∈ bodies) {w : List Char} (hw : w ∈ q.language) (hr : s.rest = w ++ t.rest)
    (ho : t.offset = s.offset + units w) : (t.mark i (s.offset, t.offset)).Fits full bodies := by
  refine ⟨ht.stands, ?_, ?_⟩
  · rw [Place.mark, List.length_set, ht.length_marks]
  · intro j m h
    rw [Place.mark, List.getElem?_set] at h
    split at h
    · next hij =>
      split at h
      · cases h
        obtain ⟨before, hfull, hoffset⟩ := hs.stands
        subst hij
        exact ⟨before, w, t.rest, q, by rw [hfull, hr], by rw [ho, hoffset], hq, hw⟩
      · cases h
    · exact ht.marks j m h

end Place.Fits

/-! ## Keeping the invariant -/

namespace Pattern

variable {body : Place → Place → Prop} {groups : List Nat} {I : Place → Prop}

/-- What a repetition keeps, and removing marks too, any number of repetitions keeps. -/
theorem Times.preserves (hb : ∀ s t, body s t → I s → I t) (hu : ∀ s, I s → I (s.unmark groups)) :
    ∀ n s t, Times body groups n s t → I s → I t := by
  intro n
  induction n with
  | zero =>
    rintro s t rfl hs
    exact hs
  | succ n ih =>
    rintro s t ⟨u, hu', ht⟩ hs
    exact ih u t ht (hb _ u hu' (hu s hs))

theorem UpTo.preserves (hb : ∀ s t, body s t → I s → I t) (hu : ∀ s, I s → I (s.unmark groups))
    {most : Option Nat} {s t : Place} (h : UpTo body groups most s t) : I s → I t := by
  induction h with
  | stop most s => exact id
  | @further most s u t _ hu' _ _ ih => exact fun hs => ih (hb _ u hu' (hu s hs))

/-- A pattern keeps the invariant, if its groups are among those that the invariant is about. -/
theorem Takes.fits {full : List Char} {bodies : List (Nat × Pattern)} {p : Pattern}
    (hc : p.countsInOrder = true) (hp : p.bodies ⊆ bodies) :
    ∀ {s t : Place}, p.Takes s t → s.Fits full bodies → t.Fits full bodies := by
  induction p with
  | empty =>
    rintro s t rfl hs
    exact hs
  | one k =>
    intro s t h hs
    have hst := h.stretch
    obtain ⟨c, rest, -, -, rfl⟩ := h
    exact hs.stretch hst rfl
  | seq p q ihp ihq =>
    rintro s t ⟨u, hu, ht⟩ hs
    obtain ⟨hcp, hcq⟩ := Bool.and_eq_true_iff.1 hc
    obtain ⟨hp, hq⟩ := List.append_subset.1 hp
    exact ihq hcq hq ht (ihp hcp hp hu hs)
  | alt p q ihp ihq =>
    obtain ⟨hcp, hcq⟩ := Bool.and_eq_true_iff.1 hc
    obtain ⟨hp, hq⟩ := List.append_subset.1 hp
    rintro s t (h | h) hs
    · exact ihp hcp hp h hs
    · exact ihq hcq hq h hs
  | group i p ih =>
    rintro s t ⟨u, hu, rfl⟩ hs
    obtain ⟨hi, hp⟩ := List.cons_subset.1 hp
    obtain ⟨w, hw, hr⟩ := Takes.exists_mem_language (p := p) hc hu
    obtain ⟨w', hr', ho⟩ := hu.stretch
    obtain rfl : w = w' := List.append_cancel_right (hr.symm.trans hr')
    exact hs.mark (ih hc hp hu hs) hi hw hr ho
  | repeated p least most greedy ih =>
    rintro s t ⟨u, hu, ht⟩ hs
    have hbody : ∀ s t, p.Takes s t → s.Fits full bodies → t.Fits full bodies :=
      fun _ _ => ih (Bool.and_eq_true_iff.1 hc).2 hp
    have hunmark : ∀ s : Place, s.Fits full bodies → (s.unmark p.groups).Fits full bodies :=
      fun _ hs => hs.unmark p.groups
    exact ht.preserves hbody hunmark (Times.preserves hbody hunmark least s u hu hs)
  | atStart =>
    rintro s t ⟨-, rfl⟩ hs
    exact hs
  | atEnd =>
    rintro s t ⟨-, rfl⟩ hs
    exact hs

end Pattern

end Phrasebook
