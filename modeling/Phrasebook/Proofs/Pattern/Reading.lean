import Phrasebook.Pattern.Tree
import Phrasebook.Proofs.Pattern.Language
import Phrasebook.Proofs.Pattern.Scan

/-!
# Reading patterns

The builder of pattern trees takes the tokens one at a time. One invariant says what every builder
that has read tokens is like, and it gives what every pattern that is read is like.

Results:
* `TreeBuilder.Consistent.step`, `TreeBuilder.Consistent.run`: a token, and so a row of tokens,
  keeps a builder consistent.
* `read?_consistent`: the groups of a pattern that is read are numbered in the order of their
  opening parentheses, and no repetition in it has a bound below its least count.
-/

namespace Phrasebook

/-! ## Rows and choices -/

namespace Pattern

theorem groups_seqs (ps : List Pattern) : (seqs ps).groups = ps.flatMap groups := by
  induction ps with
  | nil => rfl
  | cons p ps ih =>
    show p.groups ++ (seqs ps).groups = _
    rw [ih, List.flatMap_cons]

theorem groups_alts (ps : List Pattern) : (alts ps).groups = ps.flatMap groups := by
  induction ps with
  | nil => rfl
  | cons p ps ih =>
    cases ps with
    | nil => simp [alts]
    | cons q qs =>
      show p.groups ++ (alts (q :: qs)).groups = _
      rw [ih]
      rfl

theorem countsInOrder_seqs (ps : List Pattern) :
    (seqs ps).countsInOrder = ps.all countsInOrder := by
  induction ps with
  | nil => rfl
  | cons p ps ih =>
    show (p.countsInOrder && (seqs ps).countsInOrder) = _
    rw [ih, List.all_cons]

theorem countsInOrder_alts (ps : List Pattern) :
    (alts ps).countsInOrder = ps.all countsInOrder := by
  induction ps with
  | nil => rfl
  | cons p ps ih =>
    cases ps with
    | nil => simp [alts]
    | cons q qs =>
      show (p.countsInOrder && (alts (q :: qs)).countsInOrder) = _
      rw [ih]
      rfl

end Pattern

/-! ## Open groups -/

namespace OpenGroup

/-- The numbers of the groups that have been opened in a group, its own included, in order. -/
def numbers (g : OpenGroup) : List Nat :=
  g.index.toList ++ (g.finished.reverse.flatMap Pattern.groups ++
    g.items.reverse.flatMap Pattern.groups)

/-- The counts of every repetition in the group are in order. -/
def CountsInOrder (g : OpenGroup) : Prop :=
  (∀ p ∈ g.finished, p.countsInOrder = true) ∧ ∀ p ∈ g.items, p.countsInOrder = true

theorem numbers_push (g : OpenGroup) (p : Pattern) (r : Bool) :
    (g.push p r).numbers = g.numbers ++ p.groups := by
  simp [numbers, push]

theorem numbers_endAlternative (g : OpenGroup) : g.endAlternative.numbers = g.numbers := by
  simp [numbers, endAlternative, Pattern.groups_seqs]

theorem groups_body (g : OpenGroup) : g.index.toList ++ g.body.groups = g.numbers := by
  rw [body, Pattern.groups_alts, ← numbers_endAlternative]
  simp [numbers, endAlternative]

theorem groups_close (g : OpenGroup) : g.close.groups = g.numbers := by
  rw [← groups_body, close]
  cases g.index with
  | none => rfl
  | some i => rfl

theorem CountsInOrder.push {g : OpenGroup} (hg : g.CountsInOrder) {p : Pattern}
    (hp : p.countsInOrder = true) (r : Bool) : (g.push p r).CountsInOrder :=
  ⟨hg.1, by simpa [OpenGroup.push] using ⟨hp, hg.2⟩⟩

theorem CountsInOrder.endAlternative {g : OpenGroup} (hg : g.CountsInOrder) :
    g.endAlternative.CountsInOrder := by
  refine ⟨?_, by simp [OpenGroup.endAlternative]⟩
  have hseqs : (Pattern.seqs g.items.reverse).countsInOrder = true := by
    rw [Pattern.countsInOrder_seqs]
    simpa using hg.2
  simpa [OpenGroup.endAlternative] using ⟨hseqs, hg.1⟩

theorem CountsInOrder.body {g : OpenGroup} (hg : g.CountsInOrder) :
    g.body.countsInOrder = true := by
  rw [OpenGroup.body, Pattern.countsInOrder_alts]
  simpa using hg.endAlternative.1

theorem CountsInOrder.close {g : OpenGroup} (hg : g.CountsInOrder) :
    g.close.countsInOrder = true := by
  rw [OpenGroup.close]
  cases g.index with
  | none => exact hg.body
  | some i => exact hg.body

end OpenGroup

/-! ## Builders -/

namespace TreeBuilder

/-- The numbers of all groups opened so far, in order. -/
def numbers (b : TreeBuilder) : List Nat :=
  b.outer.reverse.flatMap OpenGroup.numbers ++ b.current.numbers

/-- The outermost group. -/
def bottom (b : TreeBuilder) : OpenGroup := b.outer.getLast?.getD b.current

/-- A property of the outermost group is kept by a token if it is kept by what tokens do to a
group. -/
theorem bottom_step {P : OpenGroup → Prop} (hpush : ∀ g p r, P g → P (g.push p r))
    (hend : ∀ g, P g → P g.endAlternative)
    (hrepeat : ∀ g p ps least most greedy, g.items = p :: ps → g.repeatable = true → P g →
      P { g with items := .repeated p least most greedy :: ps, repeatable := false })
    {b b' : TreeBuilder} {t : Token} (hb : P b.bottom) (h : b.step t = some b') : P b'.bottom := by
  obtain ⟨current, outer, n⟩ := b
  -- a token that changes the current group changes the outermost one only where there is no other
  have hcurrent : ∀ g, (P current → P g) → P (TreeBuilder.mk g outer n).bottom := by
    intro g hg
    simp only [bottom] at hb ⊢
    cases hlast : outer.getLast? with
    | none =>
      rw [hlast] at hb
      exact hg hb
    | some o =>
      rw [hlast] at hb
      exact hb
  have hopen : ∀ g m, P (TreeBuilder.mk g (current :: outer) m).bottom := by
    intro g m
    rw [bottom, List.getLast?_cons]
    exact hb
  cases t with
  | one k => cases h; exact hcurrent _ (hpush _ _ _)
  | atStart => cases h; exact hcurrent _ (hpush _ _ _)
  | atEnd => cases h; exact hcurrent _ (hpush _ _ _)
  | bar => cases h; exact hcurrent _ (hend _)
  | opening capturing => cases capturing <;> cases h <;> exact hopen _ _
  | closing =>
    cases outer with
    | nil => cases h
    | cons g gs =>
      cases h
      simp only [bottom, List.getLast?_cons, Option.getD_some] at hb ⊢
      cases hlast : gs.getLast? with
      | none =>
        rw [hlast] at hb
        exact hpush _ _ _ hb
      | some o =>
        rw [hlast] at hb
        exact hb
  | quantifier least most greedy =>
    simp only [TreeBuilder.step] at h
    split at h
    · next p ps hrepeatable hitems =>
      cases h
      exact hcurrent _ (hrepeat _ p ps least most greedy hitems hrepeatable)
    · cases h

/-- What holds of a builder after any tokens that were read from a text. -/
structure Consistent (b : TreeBuilder) : Prop where
  /-- The groups are numbered as they are opened. -/
  numbers_eq : b.numbers = List.range b.groups
  counts : ∀ g ∈ b.current :: b.outer, g.CountsInOrder
  /-- The outermost group is the pattern itself. -/
  index_bottom : b.bottom.index = none

theorem Consistent.empty : Consistent {} :=
  ⟨rfl, by simp [OpenGroup.CountsInOrder], rfl⟩

theorem numbers_withCurrent (b : TreeBuilder) {g : OpenGroup} {ns : List Nat}
    (hg : g.numbers = b.current.numbers ++ ns) :
    ({ b with current := g } : TreeBuilder).numbers = b.numbers ++ ns := by
  simp [numbers, hg]

/-- A token opens at most the next group. -/
theorem numbers_step {b b' : TreeBuilder} {t : Token} (h : b.step t = some b')
    (hb : b.numbers = List.range b.groups) : b'.numbers = List.range b'.groups := by
  have hitem : ∀ p r, p.groups = [] →
      ({ b with current := b.current.push p r } : TreeBuilder).numbers = List.range b.groups := by
    intro p r hp
    rw [numbers_withCurrent b (b.current.numbers_push p r), hp, hb, List.append_nil]
  cases t with
  | one k => cases h; exact hitem _ _ rfl
  | atStart => cases h; exact hitem _ _ rfl
  | atEnd => cases h; exact hitem _ _ rfl
  | bar =>
    cases h
    have hend : b.current.endAlternative.numbers = b.current.numbers ++ [] := by
      rw [OpenGroup.numbers_endAlternative, List.append_nil]
    rw [numbers_withCurrent b hend, hb, List.append_nil]
  | opening capturing =>
    have hopen : ∀ g m, (TreeBuilder.mk g (b.current :: b.outer) m).numbers =
        List.range b.groups ++ g.numbers := by
      intro g m
      rw [← hb]
      simp [numbers]
    cases capturing with
    | true =>
      cases h
      rw [hopen, List.range_succ]
      rfl
    | false =>
      cases h
      rw [hopen]
      exact List.append_nil _
  | closing =>
    obtain ⟨current, outer, n⟩ := b
    cases outer with
    | nil => cases h
    | cons g gs =>
      cases h
      simp only [numbers, List.reverse_cons, List.flatMap_append, List.flatMap_singleton] at hb ⊢
      rw [OpenGroup.numbers_push, OpenGroup.groups_close, ← hb, List.append_assoc]
  | quantifier least most greedy =>
    simp only [TreeBuilder.step] at h
    split at h
    · next p ps hrepeatable hitems =>
      cases h
      rw [← hb]
      simp [numbers, OpenGroup.numbers, hitems, Pattern.groups]
    · cases h

/-- A token keeps the counts of all repetitions in order. -/
theorem counts_step {b b' : TreeBuilder} {t : Token} (ht : t.countsInOrder = true)
    (h : b.step t = some b') (hb : ∀ g ∈ b.current :: b.outer, g.CountsInOrder) :
    ∀ g ∈ b'.current :: b'.outer, g.CountsInOrder := by
  rw [List.forall_mem_cons] at hb
  obtain ⟨hcurrent, houter⟩ := hb
  cases t with
  | one k => cases h; exact List.forall_mem_cons.2 ⟨hcurrent.push rfl _, houter⟩
  | atStart => cases h; exact List.forall_mem_cons.2 ⟨hcurrent.push rfl _, houter⟩
  | atEnd => cases h; exact List.forall_mem_cons.2 ⟨hcurrent.push rfl _, houter⟩
  | bar => cases h; exact List.forall_mem_cons.2 ⟨hcurrent.endAlternative, houter⟩
  | opening capturing =>
    cases capturing <;> cases h <;>
      simpa [OpenGroup.CountsInOrder] using ⟨hcurrent, houter⟩
  | closing =>
    obtain ⟨current, outer, n⟩ := b
    cases outer with
    | nil => cases h
    | cons g gs =>
      cases h
      rw [List.forall_mem_cons] at houter
      exact List.forall_mem_cons.2 ⟨houter.1.push hcurrent.close _, houter.2⟩
  | quantifier least most greedy =>
    simp only [TreeBuilder.step] at h
    split at h
    · next p ps hrepeatable hitems =>
      cases h
      have hitem : ∀ q ∈ p :: ps, q.countsInOrder = true := hitems ▸ hcurrent.2
      rw [List.forall_mem_cons] at hitem
      have hrepeated : (Pattern.repeated p least most greedy).countsInOrder = true :=
        Bool.and_eq_true_iff.2 ⟨ht, hitem.1⟩
      exact List.forall_mem_cons.2
        ⟨⟨hcurrent.1, List.forall_mem_cons.2 ⟨hrepeated, hitem.2⟩⟩, houter⟩
    · cases h

/-- A token keeps a builder consistent. -/
theorem Consistent.step {b b' : TreeBuilder} (hb : b.Consistent) {t : Token}
    (ht : t.countsInOrder = true) (h : b.step t = some b') : b'.Consistent where
  numbers_eq := numbers_step h hb.numbers_eq
  counts := counts_step ht h hb.counts
  index_bottom := by
    refine bottom_step (P := fun g => g.index = none) ?_ ?_ ?_ hb.index_bottom h
    · intro g p r hg; exact hg
    · intro g hg; exact hg
    · intro g p ps least most greedy _ _ hg; exact hg

/-- What every token of a row keeps, the row keeps. -/
theorem run_preserves {P : TreeBuilder → Prop} {ts : List Token}
    (hstep : ∀ t ∈ ts, ∀ b b', P b → b.step t = some b' → P b') : ∀ {b b' : TreeBuilder}, P b →
    ts.foldlM TreeBuilder.step b = some b' → P b' := by
  induction ts with
  | nil =>
    intro b b' hb h
    cases h
    exact hb
  | cons t ts ih =>
    intro b b' hb h
    obtain ⟨u, hu, h⟩ := Option.bind_eq_some_iff.1 h
    exact ih (fun t ht => hstep t (by simp [ht])) (hstep t (by simp) b u hb hu) h

/-- A row of tokens keeps a builder consistent. -/
theorem Consistent.run {ts : List Token} {b b' : TreeBuilder} (hb : b.Consistent)
    (hts : ∀ t ∈ ts, t.countsInOrder = true) (h : ts.foldlM TreeBuilder.step b = some b') :
    b'.Consistent :=
  run_preserves (fun t ht _ _ hb => hb.step (hts t ht)) hb h

/-- The finished pattern of a consistent builder. -/
theorem Consistent.finish {b : TreeBuilder} (hb : b.Consistent) {p : Pattern} {n : Nat}
    (h : b.finish = some (p, n)) : b.outer = [] ∧ b.current.index = none ∧ p = b.current.body ∧
      n = b.groups ∧ p.groups = List.range n ∧ p.countsInOrder = true := by
  unfold TreeBuilder.finish at h
  split at h
  · next houter =>
    cases h
    have houter : b.outer = [] := List.isEmpty_iff.1 houter
    have hindex : b.current.index = none := by
      have := hb.index_bottom
      rwa [bottom, houter] at this
    refine ⟨houter, hindex, rfl, rfl, ?_, (hb.counts _ (by simp)).body⟩
    have hnumbers := hb.numbers_eq
    rw [numbers, houter, ← OpenGroup.groups_body, hindex] at hnumbers
    exact hnumbers
  · cases h

end TreeBuilder

/-! ## Patterns -/

namespace Pattern

/-- What is known of a pattern that is read: its tokens, and the builder that has taken them. -/
theorem read?_eq_some {source : List Char} {p : Pattern} {n : Nat}
    (h : read? source = some (p, n)) : ∃ ts b, Token.scan source = some ts ∧
      ts.foldlM TreeBuilder.step {} = some b ∧ b.finish = some (p, n) ∧ b.Consistent := by
  obtain ⟨ts, hts, h⟩ := Option.bind_eq_some_iff.1 h
  obtain ⟨b, hb, h⟩ := Option.bind_eq_some_iff.1 h
  exact ⟨ts, b, hts, hb, h, TreeBuilder.Consistent.empty.run (Token.countsInOrder_of_scan hts) hb⟩

/-- The groups of a pattern that is read are numbered in the order of their opening parentheses, and
no repetition in it has a bound below its least count. -/
theorem read?_consistent {source : List Char} {p : Pattern} {n : Nat}
    (h : read? source = some (p, n)) : p.groups = List.range n ∧ p.countsInOrder = true := by
  obtain ⟨ts, b, -, -, hfinish, hb⟩ := read?_eq_some h
  exact (hb.finish hfinish).2.2.2.2

end Pattern

end Phrasebook
