import Mathlib.Tactic
import Phrasebook.Pattern.Search

/-!
# What a pattern can take

`Pattern.Takes p s t` says that `p` can take the text between the places `s` and `t`. The search is
an exploration of this relation in an order of preference, so whether it answers does not depend on
the order.

Results:
* `Takes.stretch`: what is taken is a stretch of the text, and the offset counts its units.
* `run_sound`: an answer of the search comes from a place that the pattern can reach.
* `run_complete`: if the continuation accepts a place that the pattern can reach, there is an
  answer.
* `search_atStart`: a pattern that has to start at the start of the text is tried there only.
-/

namespace Phrasebook.Pattern

open Phrasebook.Text

/-! ## The relation -/

/-- `n` repetitions one after the other. -/
def Times (body : Place → Place → Prop) (groups : List Nat) : Nat → Place → Place → Prop
  | 0, s, t => t = s
  | n + 1, s, t => ∃ u, body (s.unmark groups) u ∧ Times body groups n u t

/-- Repetitions that each take a character, at most as many as the bound allows. -/
inductive UpTo (body : Place → Place → Prop) (groups : List Nat) :
    Option Nat → Place → Place → Prop
  | stop (most : Option Nat) (s : Place) : UpTo body groups most s s
  | further {most : Option Nat} {s u t : Place} (hm : most ≠ some 0)
      (hb : body (s.unmark groups) u) (hu : u.offset ≠ s.offset)
      (ht : UpTo body groups (most.map (· - 1)) u t) : UpTo body groups most s t

/-- The pattern can take the text from the first place up to the second one. -/
def Takes : Pattern → Place → Place → Prop
  | .empty, s, t => t = s
  | .one k, s, t => ∃ c rest, s.rest = c :: rest ∧ k.contains c = true ∧ t = s.advance c rest
  | .seq p q, s, t => ∃ u, p.Takes s u ∧ q.Takes u t
  | .alt p q, s, t => p.Takes s t ∨ q.Takes s t
  | .group i p, s, t => ∃ u, p.Takes s u ∧ t = u.mark i (s.offset, u.offset)
  | .repeated p least most _, s, t =>
    ∃ u, Times p.Takes p.groups least s u ∧ UpTo p.Takes p.groups (most.map (· - least)) u t
  | .atStart, s, t => s.offset = 0 ∧ t = s
  | .atEnd, s, t => s.rest = [] ∧ t = s

/-! ## What is taken is a stretch of the text -/

/-- The text between two places is a prefix of what follows the first one. -/
def Stretch (s t : Place) : Prop := ∃ w, s.rest = w ++ t.rest ∧ t.offset = s.offset + units w

theorem Stretch.refl (s : Place) : Stretch s s := ⟨[], by simp⟩

theorem Stretch.trans {s t u : Place} (h : Stretch s t) (h' : Stretch t u) : Stretch s u := by
  obtain ⟨v, hv, hvo⟩ := h
  obtain ⟨w, hw, hwo⟩ := h'
  refine ⟨v ++ w, by rw [hv, hw, List.append_assoc], ?_⟩
  rw [hwo, hvo, units_append]
  omega

/-- A stretch that moves the offset leaves fewer characters. -/
theorem Stretch.length_lt {s t : Place} (h : Stretch s t) (ho : t.offset ≠ s.offset) :
    t.rest.length < s.rest.length := by
  obtain ⟨w, hw, hwo⟩ := h
  cases w with
  | nil => simp [hwo] at ho
  | cons c w => simp [hw]

theorem Times.stretch {body : Place → Place → Prop} {groups : List Nat}
    (hb : ∀ s t, body s t → Stretch s t) :
    ∀ (n : Nat) (s t : Place), Times body groups n s t → Stretch s t := by
  intro n
  induction n with
  | zero => intro s t h; cases h; exact .refl s
  | succ n ih =>
    intro s t h
    obtain ⟨u, hu, ht⟩ := h
    exact Stretch.trans (hb (s.unmark groups) u hu) (ih u t ht)

theorem UpTo.stretch {body : Place → Place → Prop} {groups : List Nat}
    (hb : ∀ s t, body s t → Stretch s t) {most : Option Nat} {s t : Place}
    (h : UpTo body groups most s t) : Stretch s t := by
  induction h with
  | stop most s => exact .refl s
  | @further most s u t _ hu _ _ ih => exact Stretch.trans (hb (s.unmark groups) u hu) ih

theorem Takes.stretch {p : Pattern} : ∀ {s t : Place}, p.Takes s t → Stretch s t := by
  induction p with
  | empty => rintro s t rfl; exact .refl t
  | one k =>
    rintro s t ⟨c, rest, hr, _, rfl⟩
    exact ⟨[c], by simp [hr, Place.advance]⟩
  | seq p q ihp ihq => rintro s t ⟨u, hu, ht⟩; exact (ihp hu).trans (ihq ht)
  | alt p q ihp ihq => rintro s t (h | h); exacts [ihp h, ihq h]
  | group i p ih =>
    rintro s t ⟨u, hu, rfl⟩
    exact Stretch.trans (ih hu) ⟨[], by simp [Place.mark]⟩
  | repeated p least most greedy ih =>
    rintro s t ⟨u, hu, ht⟩
    exact (Times.stretch (fun _ _ => ih) least s u hu).trans (UpTo.stretch (fun _ _ => ih) ht)
  | atStart => rintro s t ⟨_, rfl⟩; exact .refl t
  | atEnd => rintro s t ⟨_, rfl⟩; exact .refl t

/-! ## Answers of the search -/

variable {α : Type}

/-- Every answer of the matcher is an answer at a place that the relation reaches. -/
def Sound (m : Matcher α) (r : Place → Place → Prop) : Prop :=
  ∀ k s a, m k s = some a → ∃ t, r s t ∧ k t = some a

/-- The matcher finds an answer if there is one at a place that the relation reaches. -/
def Complete (m : Matcher α) (r : Place → Place → Prop) : Prop :=
  ∀ k s t, r s t → (k t).isSome → (m k s).isSome

theorem eq_some_of_orElse {o : Option α} {f : Unit → Option α} {a : α}
    (h : o.orElse f = some a) : o = some a ∨ f () = some a := by
  rw [Option.orElse_eq_or, Option.or_eq_some_iff] at h
  exact h.imp_right And.right

theorem times_sound {m : Matcher α} {r : Place → Place → Prop} (hm : Sound m r)
    (groups : List Nat) : ∀ n, Sound (times m groups n) (Times r groups n) := by
  intro n
  induction n with
  | zero => intro k s a h; exact ⟨s, rfl, h⟩
  | succ n ih =>
    intro k s a h
    obtain ⟨u, hu, h⟩ := hm _ _ _ h
    obtain ⟨t, ht, ha⟩ := ih _ _ _ h
    exact ⟨t, ⟨u, hu, ht⟩, ha⟩

theorem times_complete {m : Matcher α} {r : Place → Place → Prop} (hm : Complete m r)
    (groups : List Nat) : ∀ n, Complete (times m groups n) (Times r groups n) := by
  intro n
  induction n with
  | zero => rintro k s t rfl ha; exact ha
  | succ n ih =>
    rintro k s t ⟨u, hu, ht⟩ ha
    exact hm _ _ _ hu (ih _ _ _ ht ha)

theorem upTo_sound {m : Matcher α} {r : Place → Place → Prop} (hm : Sound m r)
    (groups : List Nat) (greedy : Bool) :
    ∀ fuel most, Sound (upTo m groups greedy fuel most) (UpTo r groups most) := by
  intro fuel
  induction fuel with
  | zero => intro most k s a h; exact ⟨s, .stop most s, h⟩
  | succ fuel ih =>
    intro most k s a h
    rw [upTo] at h
    split at h
    · exact ⟨s, .stop most s, h⟩
    · next hmost =>
      -- either way the answer is that of `k` at `s`, or that of one repetition more
      have hor : k s = some a ∨ m (fun s' => if s'.offset = s.offset then none
          else upTo m groups greedy fuel (most.map (· - 1)) k s') (s.unmark groups) = some a := by
        split at h
        · exact (eq_some_of_orElse h).symm
        · exact eq_some_of_orElse h
      rcases hor with h | h
      · exact ⟨s, .stop most s, h⟩
      · obtain ⟨u, hu, h⟩ := hm _ _ _ h
        split at h
        · simp at h
        · next ho =>
          obtain ⟨t, ht, ha⟩ := ih _ _ _ _ h
          exact ⟨t, .further hmost hu ho ht, ha⟩

/-- The length of the rest is fuel enough: a repetition that moves the offset shortens the rest. -/
theorem upTo_complete {m : Matcher α} {r : Place → Place → Prop} (hm : Complete m r)
    (hr : ∀ s t, r s t → Stretch s t) (groups : List Nat) (greedy : Bool) (k : Place → Option α)
    {most : Option Nat} {s t : Place} (h : UpTo r groups most s t) (ha : (k t).isSome) :
    ∀ fuel, s.rest.length ≤ fuel → (upTo m groups greedy fuel most k s).isSome := by
  induction h with
  | stop most s =>
    intro fuel _
    cases fuel with
    | zero => exact ha
    | succ fuel => rw [upTo]; split_ifs <;> simp [ha]
  | @further most s u t hmost hu ho ht ih =>
    intro fuel hf
    have hlt : u.rest.length < s.rest.length := Stretch.length_lt (hr (s.unmark groups) u hu) ho
    cases fuel with
    | zero => omega
    | succ fuel =>
      have hfurther : (m (fun s' => if s'.offset = s.offset then none
          else upTo m groups greedy fuel (most.map (· - 1)) k s') (s.unmark groups)).isSome := by
        refine hm _ _ u hu ?_
        rw [if_neg ho]
        exact ih ha fuel (by omega)
      rw [upTo, if_neg hmost]
      split_ifs <;> simp [hfurther]

/-- Every answer of the search is an answer at a place that the pattern can reach. -/
theorem run_sound (p : Pattern) : Sound (α := α) p.run p.Takes := by
  induction p with
  | empty => intro k s a h; exact ⟨s, rfl, h⟩
  | one cls =>
    intro k s a h
    rw [run] at h
    split at h
    · simp at h
    · next c rest hr =>
      split at h
      · next hc => exact ⟨s.advance c rest, ⟨c, rest, hr, hc, rfl⟩, h⟩
      · simp at h
  | seq p q ihp ihq =>
    intro k s a h
    obtain ⟨u, hu, h⟩ := ihp _ _ _ h
    obtain ⟨t, ht, ha⟩ := ihq _ _ _ h
    exact ⟨t, ⟨u, hu, ht⟩, ha⟩
  | alt p q ihp ihq =>
    intro k s a h
    rcases eq_some_of_orElse h with h | h
    · obtain ⟨t, ht, ha⟩ := ihp _ _ _ h
      exact ⟨t, .inl ht, ha⟩
    · obtain ⟨t, ht, ha⟩ := ihq _ _ _ h
      exact ⟨t, .inr ht, ha⟩
  | group i p ih =>
    intro k s a h
    obtain ⟨u, hu, ha⟩ := ih _ _ _ h
    exact ⟨_, ⟨u, hu, rfl⟩, ha⟩
  | repeated p least most greedy ih =>
    intro k s a h
    obtain ⟨u, hu, h⟩ := times_sound ih p.groups least _ _ _ h
    obtain ⟨t, ht, ha⟩ := upTo_sound ih p.groups greedy _ _ _ _ _ h
    exact ⟨t, ⟨u, hu, ht⟩, ha⟩
  | atStart =>
    intro k s a h
    rw [run] at h
    split at h
    · next ho => exact ⟨s, ⟨ho, rfl⟩, h⟩
    · simp at h
  | atEnd =>
    intro k s a h
    rw [run] at h
    split at h
    · next hr => exact ⟨s, ⟨List.isEmpty_iff.1 hr, rfl⟩, h⟩
    · simp at h

/-- The search finds an answer if there is one at a place that the pattern can reach. -/
theorem run_complete (p : Pattern) : Complete (α := α) p.run p.Takes := by
  induction p with
  | empty => rintro k s t rfl ha; exact ha
  | one cls =>
    rintro k s t ⟨c, rest, hr, hc, rfl⟩ ha
    simpa [run, hr, hc] using ha
  | seq p q ihp ihq =>
    rintro k s t ⟨u, hu, ht⟩ ha
    exact ihp _ _ _ hu (ihq _ _ _ ht ha)
  | alt p q ihp ihq =>
    rintro k s t (h | h) ha
    · simp [run, ihp _ _ _ h ha]
    · simp [run, ihq _ _ _ h ha]
  | group i p ih =>
    rintro k s t ⟨u, hu, rfl⟩ ha
    exact ih _ _ _ hu ha
  | repeated p least most greedy ih =>
    rintro k s t ⟨u, hu, ht⟩ ha
    refine times_complete ih p.groups least _ _ _ hu ?_
    exact upTo_complete ih (fun _ _ => Takes.stretch) p.groups greedy k ht ha _ le_rfl
  | atStart =>
    rintro k s t ⟨ho, rfl⟩ ha
    simpa [run, ho] using ha
  | atEnd =>
    rintro k s t ⟨hr, rfl⟩ ha
    simpa [run, hr] using ha

/-! ## Patterns that start at the start -/

/-- After the first place, a pattern that has to start at the start is never found. -/
theorem searchFrom_atStart_eq_none (p : Pattern) (marks : List (Option Mark)) (s : List Char) :
    ∀ offset, offset ≠ 0 → searchFrom (.seq .atStart p) marks offset s = none := by
  induction s with
  | nil => intro offset ho; simp [searchFrom, run, ho]
  | cons c s ih =>
    intro offset ho
    simp [searchFrom, run, ho, ih (offset + unitsOf c) (by omega)]

theorem search_atStart (p : Pattern) (n : Nat) (s : List Char) :
    search (.seq .atStart p) n s = p.run some ⟨0, s, List.replicate n none⟩ := by
  cases s with
  | nil => simp [search, searchFrom, run]
  | cons c s =>
    have := unitsOf_pos c
    rw [search, searchFrom, searchFrom_atStart_eq_none _ _ _ _ (by omega)]
    cases h : run p some ⟨0, c :: s, List.replicate n none⟩ <;> simp [run, h]

end Phrasebook.Pattern
