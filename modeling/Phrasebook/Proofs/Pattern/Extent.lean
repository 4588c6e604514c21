import Phrasebook.Proofs.Pattern.Scan

/-!
# Scanning a text that ends in a closing parenthesis and a dollar sign

However the characters in front of them are read, the parenthesis ends no escape, class, count or
property that the dollar sign could be part of, so the dollar sign is a token of its own.

Results:
* `frugal_next`: the first token of such a text leaves some of it.
* `scanWith_eq_concat`: the last token of such a text is the end of the text.
-/

namespace Phrasebook.Token

open Phrasebook.Text

variable {α : Type}

/-- The text ends in a closing parenthesis and a dollar sign. -/
def Wrapped (s : List Char) : Prop := [')', '$'] <:+ s

/-- `r` is what is left of `s` when a front part is taken off, which is not all of a text that ends
in a closing parenthesis and a dollar sign. -/
def Leaves (s r : List Char) : Prop := r <:+ s ∧ (Wrapped s → r ≠ [])

/-- The reader does not take all of a text that ends in a closing parenthesis and a dollar sign. -/
def Frugal (f : List Char → Option (α × List Char)) : Prop :=
  ∀ ⦃s a r⦄, f s = some (a, r) → Leaves s r

/-- The last character that the reader takes is the given one. -/
def Closes (c : Char) (f : List Char → Option (α × List Char)) : Prop :=
  ∀ ⦃s a r⦄, f s = some (a, r) → c :: r <:+ s

theorem suffix_cons {c : Char} {r s : List Char} (h : r <:+ s) : r <:+ c :: s :=
  List.suffix_cons_iff.2 (.inr h)

theorem Wrapped.ne_nil {s : List Char} (h : Wrapped s) : s ≠ [] := by
  rintro rfl
  have := h.length_le
  simp at this

theorem not_left_nil : ¬ (([] : List Char) = ['$'] ∨ Wrapped []) := by
  rintro (h | h)
  · cases h
  · exact h.ne_nil rfl

theorem Wrapped.tail {c : Char} {s : List Char} (h : Wrapped (c :: s)) (hc : c ≠ ')') :
    Wrapped s := by
  rcases List.suffix_cons_iff.1 h with heq | h
  · exact absurd (List.cons.inj heq).1.symm hc
  · exact h

theorem Wrapped.tail_ne_nil {c : Char} {s : List Char} (h : Wrapped (c :: s)) : s ≠ [] := by
  rintro rfl
  have := h.length_le
  simp at this

/-- What is left of such a text is such a text, or the dollar sign. -/
theorem Wrapped.rest {r s : List Char} (h : Wrapped s) (hr : r <:+ s) (hne : r ≠ []) :
    r = ['$'] ∨ Wrapped r := by
  rcases List.suffix_or_suffix_of_suffix h hr with h | h
  · exact .inr h
  · rcases List.suffix_cons_iff.1 h with rfl | h
    · exact .inr List.suffix_rfl
    · rcases List.suffix_cons_iff.1 h with rfl | h
      · exact .inl rfl
      · exact absurd (List.suffix_nil.1 h) hne

theorem leaves_one (c : Char) (s : List Char) : Leaves (c :: s) s :=
  ⟨List.suffix_cons c s, Wrapped.tail_ne_nil⟩

theorem Leaves.cons {c : Char} {s r : List Char} (h : Leaves s r) (hc : c ≠ ')') :
    Leaves (c :: s) r :=
  ⟨suffix_cons h.1, fun hs => h.2 (hs.tail hc)⟩

theorem Closes.frugal {c : Char} (hc : c ≠ '$') {f : List Char → Option (α × List Char)}
    (hf : Closes c f) : Frugal f := by
  intro s a r h
  refine ⟨(List.suffix_cons c r).trans (hf h), ?_⟩
  rintro hs rfl
  have hdollar : ['$'] <:+ s := (List.suffix_cons ')' ['$']).trans hs
  rcases List.suffix_or_suffix_of_suffix (hf h) hdollar with hsuffix | hsuffix
  · exact hc (List.cons.inj (hsuffix.eq_of_length rfl)).1
  · exact hc (List.cons.inj (hsuffix.eq_of_length rfl)).1.symm

/-! ## Numbers -/

theorem frugal_hexDigits (n : Nat) : ∀ acc, Frugal (hexDigits acc n) := by
  induction n with
  | zero =>
    intro acc s a r h
    cases h
    exact ⟨List.suffix_rfl, Wrapped.ne_nil⟩
  | succ n ih =>
    intro acc s a r h
    cases s with
    | nil => cases h
    | cons c s =>
      obtain ⟨d, hd, h⟩ := Option.bind_eq_some_iff.1 h
      refine (ih _ h).cons ?_
      rintro rfl
      cases hd

theorem closes_bracedHex : ∀ started acc, Closes '\x7d' (bracedHex started acc) := by
  intro started acc s
  induction s generalizing started acc with
  | nil => intro a r h; cases h
  | cons c s ih =>
    intro a r h
    rw [bracedHex] at h
    by_cases hc : c = '\x7d'
    · rw [if_pos hc] at h
      cases started with
      | false => cases h
      | true => cases h; rw [hc]
    · rw [if_neg hc] at h
      obtain ⟨d, -, h⟩ := Option.bind_eq_some_iff.1 h
      exact suffix_cons (ih _ _ h)

theorem decimal_suffix {s r : List Char} {n : Nat} (h : decimal s = some (n, r)) : r <:+ s := by
  obtain ⟨m, -, h⟩ := Option.bind_eq_some_iff.1 h
  cases h
  exact List.dropWhile_suffix _

theorem closes_braced : Closes '\x7d' braced := by
  intro s a r h
  unfold braced at h
  split at h
  · next s =>
    obtain ⟨kind, -, h⟩ := Option.bind_eq_some_iff.1 h
    split at h
    · next c rest hdrop =>
      cases h
      have hc : (c != '\x7d') = false := by
        have := List.head?_dropWhile_not (· != '\x7d') s
        rw [hdrop] at this
        simpa using this
      have hc : c = '\x7d' := by simpa using hc
      subst hc
      rw [← hdrop]
      exact suffix_cons (List.dropWhile_suffix _)
    · cases h
  · cases h

theorem frugal_codePoint : Frugal codePoint := by
  intro s a r h
  by_cases hbrace : ∃ x, s = '\x7b' :: x
  · obtain ⟨s, rfl⟩ := hbrace
    obtain ⟨⟨n, rest⟩, hn, h⟩ := Option.bind_eq_some_iff.1 h
    simp only at h
    split at h
    · cases h
      exact ((closes_bracedHex false 0).frugal (by decide) hn).cons (by decide)
    · cases h
  · rw [codePoint.eq_2 _ fun x hx => hbrace ⟨x, hx⟩] at h
    obtain ⟨⟨n, rest⟩, hn, h⟩ := Option.bind_eq_some_iff.1 h
    have hfirst := frugal_hexDigits 4 0 hn
    simp only at h
    split at h
    · split at h
      · next s' =>
        split at h
        · next m rest' hm =>
          split at h
          · obtain ⟨-, rfl⟩ := Prod.mk.inj (Option.some.inj h)
            obtain ⟨hsuffix, hne⟩ := frugal_hexDigits 4 0 hm
            refine ⟨(suffix_cons (suffix_cons hsuffix)).trans hfirst.1, fun hs => ?_⟩
            rcases hs.rest hfirst.1 (by simp) with heq | hs
            · simp at heq
            · exact hne ((hs.tail (by decide)).tail (by decide))
          · cases h
            exact hfirst
        · cases h
          exact hfirst
      · cases h
        exact hfirst
    · cases h
      exact hfirst

/-! ## Escapes and classes -/

theorem frugal_escape (inClass : Bool) : Frugal (escape inClass) := by
  intro s a r h
  unfold escape at h
  split at h
  case h_1 => cases h
  case h_8 s | h_9 s =>
    obtain ⟨⟨kind, rest⟩, hkind, h⟩ := Option.bind_eq_some_iff.1 h
    cases h
    exact (closes_braced.frugal (by decide) hkind).cons (by decide)
  case h_15 s =>
    split at h
    · cases h
    · cases h
      exact leaves_one _ _
  case h_16 s =>
    obtain ⟨⟨n, rest⟩, hn, h⟩ := Option.bind_eq_some_iff.1 h
    cases h
    exact (frugal_hexDigits 2 0 hn).cons (by decide)
  case h_17 s =>
    obtain ⟨⟨n, rest⟩, hn, h⟩ := Option.bind_eq_some_iff.1 h
    cases h
    exact (frugal_codePoint hn).cons (by decide)
  case h_18 c s =>
    split at h
    · cases h
      exact (leaves_one _ _).cons (by decide)
    · cases h
  case h_19 c s _ _ _ _ _ _ _ _ _ _ _ _ _ _ _ _ _ =>
    split_ifs at h <;> cases h <;> exact leaves_one _ _
  all_goals
    cases h
    exact leaves_one _ _

theorem classAtom_suffix {s r : List Char} {a : ClassItem} (h : classAtom s = some (a, r)) :
    r <:+ s := by
  unfold classAtom at h
  split at h
  · cases h
  · exact suffix_cons (frugal_escape true h).1
  · cases h
    exact List.suffix_cons _ _

theorem member_suffix {a item : ClassItem} {s r : List Char} (h : member a s = some (item, r)) :
    r <:+ s := by
  unfold member at h
  split at h
  · next c s =>
    split at h
    · cases h
      exact List.suffix_rfl
    · obtain ⟨⟨b, rest⟩, hb, h⟩ := Option.bind_eq_some_iff.1 h
      simp only at h
      split at h
      · split at h
        · cases h
          exact suffix_cons (classAtom_suffix hb)
        · cases h
      · cases h
  · cases h
    exact List.suffix_rfl

theorem closes_classItems (n : Nat) : Closes ']' (classItems n) := by
  induction n with
  | zero =>
    intro s is r h
    by_cases hclose : ∃ x, s = ']' :: x
    · obtain ⟨x, rfl⟩ := hclose
      cases h
      exact List.suffix_rfl
    · rw [classItems.eq_2 _ fun x hx => hclose ⟨x, hx⟩] at h
      cases h
  | succ n ih =>
    intro s is r h
    by_cases hclose : ∃ x, s = ']' :: x
    · obtain ⟨x, rfl⟩ := hclose
      rw [classItems_close] at h
      cases h
      exact List.suffix_rfl
    · rw [classItems_succ fun x hx => hclose ⟨x, hx⟩] at h
      obtain ⟨⟨a, rest⟩, ha, h⟩ := Option.bind_eq_some_iff.1 h
      obtain ⟨⟨item, rest'⟩, hitem, h⟩ := Option.bind_eq_some_iff.1 h
      obtain ⟨⟨items, rest''⟩, hitems, h⟩ := Option.bind_eq_some_iff.1 h
      cases h
      exact (ih hitems).trans ((member_suffix hitem).trans (classAtom_suffix ha))

theorem closes_bracketed : Closes ']' bracketed := by
  intro s k r h
  unfold bracketed at h
  split at h
  · obtain ⟨⟨items, rest⟩, hitems, h⟩ := Option.bind_eq_some_iff.1 h
    cases h
    exact suffix_cons (closes_classItems _ hitems)
  · obtain ⟨⟨items, rest⟩, hitems, h⟩ := Option.bind_eq_some_iff.1 h
    cases h
    exact closes_classItems _ hitems

/-! ## Quantifiers -/

theorem closes_counts : Closes '\x7d' counts := by
  intro s a r h
  obtain ⟨⟨least, rest⟩, hleast, h⟩ := Option.bind_eq_some_iff.1 h
  have hrest := decimal_suffix hleast
  simp only at h
  split at h
  · cases h
    exact hrest
  · cases h
    exact (List.suffix_cons _ _).trans hrest
  · obtain ⟨⟨most, rest'⟩, hmost, h⟩ := Option.bind_eq_some_iff.1 h
    simp only at h
    split at h
    · split at h
      · cases h
        exact (decimal_suffix hmost).trans ((List.suffix_cons _ _).trans hrest)
      · cases h
    · cases h
  · cases h

theorem leaves_quantified {least : Nat} {most : Option Nat} {s r : List Char} {t : Token}
    (h : quantified least most s = (t, r)) : r <:+ s ∧ (['$'] <:+ s → r ≠ []) := by
  unfold quantified at h
  split at h
  · cases h
    refine ⟨List.suffix_cons _ _, ?_⟩
    rintro hs rfl
    exact absurd hs (by decide)
  · cases h
    refine ⟨List.suffix_rfl, ?_⟩
    rintro hs rfl
    exact absurd hs (by decide)

/-! ## Tokens -/

/-- The first token of a text that ends in a closing parenthesis and a dollar sign leaves some of
it. -/
theorem frugal_next : Frugal next := by
  intro s t r h
  unfold next at h
  split at h
  case h_2 s =>
    cases h
    exact ((leaves_one _ _).cons (by decide)).cons (by decide)
  case h_10 s | h_11 s | h_12 s =>
    obtain ⟨hsuffix, hne⟩ := leaves_quantified (Option.some.inj h)
    exact ⟨suffix_cons hsuffix, fun hs => hne ((List.suffix_cons _ _).trans (hs.tail (by decide)))⟩
  case h_13 s =>
    obtain ⟨⟨⟨least, most⟩, rest⟩, hcounts, h⟩ := Option.bind_eq_some_iff.1 h
    obtain ⟨hrest, hnil⟩ := closes_counts.frugal (by decide) hcounts
    obtain ⟨hsuffix, hne⟩ := leaves_quantified (Option.some.inj h)
    refine ⟨suffix_cons (hsuffix.trans hrest), fun hs => hne ?_⟩
    have hs := hs.tail (by decide)
    rcases hs.rest hrest (hnil hs) with rfl | hs
    · exact List.suffix_rfl
    · exact (List.suffix_cons _ _).trans hs
  case h_16 s =>
    obtain ⟨⟨k, rest⟩, hk, h⟩ := Option.bind_eq_some_iff.1 h
    cases h
    exact (closes_bracketed.frugal (by decide) hk).cons (by decide)
  case h_17 s =>
    obtain ⟨⟨item, rest⟩, hitem, h⟩ := Option.bind_eq_some_iff.1 h
    cases h
    exact (frugal_escape false hitem).cons (by decide)
  all_goals
    cases h
    try exact leaves_one _ _

/-- The last token of a text that ends in a closing parenthesis and a dollar sign is the end of the
text. -/
theorem scanWith_eq_concat {n : Nat} : ∀ {s ts}, s = ['$'] ∨ Wrapped s → scanWith n s = some ts →
    ∃ us, ts = us ++ [.atEnd] := by
  induction n with
  | zero =>
    intro s ts hs h
    cases s with
    | nil => exact absurd hs not_left_nil
    | cons c s => cases h
  | succ n ih =>
    intro s ts hs h
    cases s with
    | nil => exact absurd hs not_left_nil
    | cons c s =>
      obtain ⟨⟨t, rest⟩, ht, h⟩ := Option.bind_eq_some_iff.1 h
      obtain ⟨us, hus, h⟩ := Option.bind_eq_some_iff.1 h
      cases h
      rcases hs with heq | hs
      · cases heq
        cases ht
        cases n <;> cases hus <;> exact ⟨[], rfl⟩
      · obtain ⟨hsuffix, hne⟩ := frugal_next ht
        obtain ⟨us, rfl⟩ := ih (hs.rest hsuffix (hne hs)) hus
        exact ⟨t :: us, rfl⟩

end Phrasebook.Token
