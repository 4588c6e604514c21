import Mathlib.Computability.Language
import Phrasebook.Proofs.Pattern.Takes

/-!
# The language of a pattern

`Pattern.language` is the set of texts that a pattern describes: classes are characters, choices are
unions, rows are concatenations and repetitions are powers. It does not know the order of
preference, the marks of groups, or the rule that an optional repetition takes a character.

Results:
* `Takes.exists_mem_language`: what a pattern takes is a text of its language.
* `exists_takes_of_mem_language`: a pattern without anchors can take every text of its language that
  comes next.
* `takes_whole_iff`: so it can take a whole text iff the text is in its language.
-/

namespace Phrasebook.Pattern

open Phrasebook.Text

/-- The set of texts that a pattern describes. An anchor describes the empty text; at which ends of
a text it can stand is no matter of the set. -/
def language : Pattern → Language Char
  | .empty | .atStart | .atEnd => 1
  | .one k => {w | ∃ c, k.contains c = true ∧ w = [c]}
  | .seq p q => p.language * q.language
  | .alt p q => p.language + q.language
  | .group _ p => p.language
  | .repeated p least most _ =>
    {w | ∃ n, least ≤ n ∧ (∀ m, most = some m → n ≤ m) ∧ w ∈ p.language ^ n}

/-- There is no anchor in the pattern. -/
def anchorFree : Pattern → Bool
  | .empty | .one _ => true
  | .atStart | .atEnd => false
  | .seq p q | .alt p q => p.anchorFree && q.anchorFree
  | .group _ p | .repeated p _ _ _ => p.anchorFree

/-- No repetition in the pattern has a bound below the count that it requires. -/
def countsInOrder : Pattern → Bool
  | .empty | .one _ | .atStart | .atEnd => true
  | .seq p q | .alt p q => p.countsInOrder && q.countsInOrder
  | .group _ p => p.countsInOrder
  | .repeated p least most _ => most.all (least ≤ ·) && p.countsInOrder

/-! ## Membership -/

theorem mem_language_one {k : CharClass} {w : List Char} :
    w ∈ (one k).language ↔ ∃ c, k.contains c = true ∧ w = [c] :=
  Iff.rfl

theorem mem_language_seq {p q : Pattern} {w : List Char} :
    w ∈ (seq p q).language ↔ ∃ u ∈ p.language, ∃ v ∈ q.language, u ++ v = w :=
  Language.mem_mul

theorem mem_language_alt {p q : Pattern} {w : List Char} :
    w ∈ (alt p q).language ↔ w ∈ p.language ∨ w ∈ q.language :=
  Iff.rfl

theorem mem_language_repeated {p : Pattern} {least : Nat} {most : Option Nat} {greedy : Bool}
    {w : List Char} : w ∈ (repeated p least most greedy).language ↔
      ∃ n, least ≤ n ∧ (∀ m, most = some m → n ≤ m) ∧ w ∈ p.language ^ n :=
  Iff.rfl

theorem mem_pow_succ {l : Language Char} {n : Nat} {w : List Char} :
    w ∈ l ^ (n + 1) ↔ ∃ u ∈ l, ∃ v ∈ l ^ n, u ++ v = w := by
  rw [pow_succ', Language.mem_mul]

/-! ## What is taken is in the language -/

/-- The text between two places is in the language. -/
def Within (l : Language Char) (s t : Place) : Prop := ∃ w ∈ l, s.rest = w ++ t.rest

theorem Within.one {s t : Place} (h : s.rest = t.rest) : Within 1 s t :=
  ⟨[], Language.nil_mem_one, h⟩

theorem Within.mul {l m : Language Char} {s t u : Place} (h : Within l s t) (h' : Within m t u) :
    Within (l * m) s u := by
  obtain ⟨v, hv, hs⟩ := h
  obtain ⟨w, hw, ht⟩ := h'
  exact ⟨v ++ w, Language.append_mem_mul hv hw, by rw [hs, ht, List.append_assoc]⟩

theorem Times.within {body : Place → Place → Prop} {groups : List Nat} {l : Language Char}
    (hb : ∀ s t, body s t → Within l s t) :
    ∀ n s t, Times body groups n s t → Within (l ^ n) s t := by
  intro n
  induction n with
  | zero =>
    rintro s t rfl
    rw [pow_zero]
    exact .one rfl
  | succ n ih =>
    rintro s t ⟨u, hu, ht⟩
    rw [pow_succ']
    exact Within.mul (hb (s.unmark groups) u hu) (ih u t ht)

theorem UpTo.within {body : Place → Place → Prop} {groups : List Nat} {l : Language Char}
    (hb : ∀ s t, body s t → Within l s t) {most : Option Nat} {s t : Place}
    (h : UpTo body groups most s t) :
    ∃ n, (∀ m, most = some m → n ≤ m) ∧ Within (l ^ n) s t := by
  induction h with
  | stop most s =>
    refine ⟨0, by simp, ?_⟩
    rw [pow_zero]
    exact .one rfl
  | @further most s u t hm hu _ _ ih =>
    obtain ⟨n, hn, hw⟩ := ih
    refine ⟨n + 1, ?_, ?_⟩
    · rintro m rfl
      have hpos : m ≠ 0 := by simpa using hm
      have := hn (m - 1) rfl
      omega
    · rw [pow_succ']
      exact Within.mul (hb (s.unmark groups) u hu) hw

/-- What a pattern takes is a text of its language. -/
theorem Takes.exists_mem_language {p : Pattern} (hp : p.countsInOrder = true) :
    ∀ {s t : Place}, p.Takes s t → Within p.language s t := by
  induction p with
  | empty =>
    rintro s t rfl
    exact .one rfl
  | one k =>
    rintro s t ⟨c, rest, hr, hc, rfl⟩
    exact ⟨[c], mem_language_one.2 ⟨c, hc, rfl⟩, hr⟩
  | seq p q ihp ihq =>
    rintro s t ⟨u, hu, ht⟩
    obtain ⟨hp, hq⟩ := Bool.and_eq_true_iff.1 hp
    exact (ihp hp hu).mul (ihq hq ht)
  | alt p q ihp ihq =>
    obtain ⟨hp, hq⟩ := Bool.and_eq_true_iff.1 hp
    rintro s t (h | h)
    · obtain ⟨w, hw, hr⟩ := ihp hp h
      exact ⟨w, mem_language_alt.2 (.inl hw), hr⟩
    · obtain ⟨w, hw, hr⟩ := ihq hq h
      exact ⟨w, mem_language_alt.2 (.inr hw), hr⟩
  | group i p ih =>
    rintro s t ⟨u, hu, rfl⟩
    obtain ⟨w, hw, hr⟩ := ih hp hu
    exact ⟨w, hw, hr⟩
  | repeated p least most greedy ih =>
    rintro s t ⟨u, hu, ht⟩
    obtain ⟨hcount, hp⟩ := Bool.and_eq_true_iff.1 hp
    have hbody : ∀ s t, p.Takes s t → Within p.language s t := fun _ _ => ih hp
    obtain ⟨n, hn, hwithin⟩ := UpTo.within hbody ht
    obtain ⟨w, hw, hr⟩ := (Times.within hbody least s u hu).mul hwithin
    rw [← pow_add] at hw
    refine ⟨w, mem_language_repeated.2 ⟨least + n, by omega, ?_, hw⟩, hr⟩
    rintro m rfl
    have hle : least ≤ m := by simpa using hcount
    have := hn (m - least) rfl
    omega
  | atStart =>
    rintro s t ⟨-, rfl⟩
    exact .one rfl
  | atEnd =>
    rintro s t ⟨-, rfl⟩
    exact .one rfl

/-! ## Every text of the language can be taken -/

/-- The relation can take every text of the language that comes next. -/
def Covers (r : Place → Place → Prop) (l : Language Char) : Prop :=
  ∀ w ∈ l, ∀ s rest, s.rest = w ++ rest → ∃ t, r s t ∧ t.rest = rest

theorem Covers.times {body : Place → Place → Prop} {l : Language Char} (hb : Covers body l)
    (groups : List Nat) : ∀ n, Covers (Times body groups n) (l ^ n) := by
  intro n
  induction n with
  | zero =>
    intro w hw s rest hr
    obtain rfl : w = [] := by simpa using hw
    exact ⟨s, rfl, hr⟩
  | succ n ih =>
    intro w hw s rest hr
    obtain ⟨u, hu, v, hv, rfl⟩ := mem_pow_succ.1 hw
    rw [List.append_assoc] at hr
    obtain ⟨t, ht, htr⟩ := hb u hu (s.unmark groups) (v ++ rest) hr
    obtain ⟨t', ht', htr'⟩ := ih v hv t rest htr
    exact ⟨t', ⟨t, ht, ht'⟩, htr'⟩

/-- The empty texts among the repetitions can be left out: the bound allows fewer repetitions. -/
theorem Covers.upTo {body : Place → Place → Prop} {l : Language Char} (hb : Covers body l)
    (hstretch : ∀ s t, body s t → Stretch s t) (groups : List Nat) :
    ∀ n most, (∀ m, most = some m → n ≤ m) → Covers (UpTo body groups most) (l ^ n) := by
  intro n
  induction n with
  | zero =>
    intro most _ w hw s rest hr
    obtain rfl : w = [] := by simpa using hw
    exact ⟨s, .stop most s, hr⟩
  | succ n ih =>
    intro most hmost w hw s rest hr
    obtain ⟨u, hu, v, hv, rfl⟩ := mem_pow_succ.1 hw
    by_cases hempty : u = []
    · subst hempty
      refine ih most (fun m hm => ?_) v hv s rest hr
      have := hmost m hm
      omega
    · rw [List.append_assoc] at hr
      obtain ⟨t, ht, htr⟩ := hb u hu (s.unmark groups) (v ++ rest) hr
      have hoffset : t.offset ≠ s.offset := by
        intro he
        obtain ⟨x, hx, hxo⟩ := hstretch _ _ ht
        have hxu : x = u := by
          rw [htr] at hx
          exact List.append_cancel_right (hx.symm.trans hr)
        have hunits : units u = 0 := by
          have : t.offset = s.offset + units u := hxu ▸ hxo
          omega
        obtain ⟨c, u, rfl⟩ := List.exists_cons_of_ne_nil hempty
        have := unitsOf_pos c
        rw [units_cons] at hunits
        omega
      have hmost' : ∀ m, most.map (· - 1) = some m → n ≤ m := by
        intro m hm
        obtain ⟨m', rfl, rfl⟩ := Option.map_eq_some_iff.1 hm
        have := hmost m' rfl
        omega
      obtain ⟨t', ht', htr'⟩ := ih _ hmost' v hv t rest htr
      refine ⟨t', .further ?_ ht hoffset ht', htr'⟩
      rintro rfl
      have := hmost 0 rfl
      omega

/-- A pattern without anchors can take every text of its language that comes next. -/
theorem exists_takes_of_mem_language {p : Pattern} (hp : p.anchorFree = true) :
    Covers p.Takes p.language := by
  induction p with
  | empty =>
    intro w hw s rest hr
    obtain rfl : w = [] := hw
    exact ⟨s, rfl, hr⟩
  | one k =>
    intro w hw s rest hr
    obtain ⟨c, hc, rfl⟩ := mem_language_one.1 hw
    exact ⟨_, ⟨c, rest, hr, hc, rfl⟩, rfl⟩
  | seq p q ihp ihq =>
    intro w hw s rest hr
    obtain ⟨hp, hq⟩ := Bool.and_eq_true_iff.1 hp
    obtain ⟨u, hu, v, hv, rfl⟩ := mem_language_seq.1 hw
    rw [List.append_assoc] at hr
    obtain ⟨t, ht, htr⟩ := ihp hp u hu s _ hr
    obtain ⟨t', ht', htr'⟩ := ihq hq v hv t rest htr
    exact ⟨t', ⟨t, ht, ht'⟩, htr'⟩
  | alt p q ihp ihq =>
    intro w hw s rest hr
    obtain ⟨hp, hq⟩ := Bool.and_eq_true_iff.1 hp
    rcases mem_language_alt.1 hw with hw | hw
    · obtain ⟨t, ht, htr⟩ := ihp hp w hw s rest hr
      exact ⟨t, .inl ht, htr⟩
    · obtain ⟨t, ht, htr⟩ := ihq hq w hw s rest hr
      exact ⟨t, .inr ht, htr⟩
  | group i p ih =>
    intro w hw s rest hr
    obtain ⟨t, ht, htr⟩ := ih hp w hw s rest hr
    exact ⟨_, ⟨t, ht, rfl⟩, htr⟩
  | repeated p least most greedy ih =>
    intro w hw s rest hr
    obtain ⟨n, hn, hmost, hw⟩ := mem_language_repeated.1 hw
    obtain ⟨k, rfl⟩ := Nat.exists_eq_add_of_le hn
    rw [pow_add] at hw
    obtain ⟨u, hu, v, hv, rfl⟩ := Language.mem_mul.1 hw
    rw [List.append_assoc] at hr
    obtain ⟨t, ht, htr⟩ := (ih hp).times p.groups least u hu s _ hr
    have hk : ∀ m, most.map (· - least) = some m → k ≤ m := by
      intro m hm
      obtain ⟨m', rfl, rfl⟩ := Option.map_eq_some_iff.1 hm
      have := hmost m' rfl
      omega
    obtain ⟨t', ht', htr'⟩ :=
      (ih hp).upTo (fun _ _ => Takes.stretch) p.groups k _ hk v hv t rest htr
    exact ⟨t', ⟨t, ht, ht'⟩, htr'⟩
  | atStart => exact absurd hp (by decide)
  | atEnd => exact absurd hp (by decide)

/-- A pattern without anchors can take a whole text iff the text is in its language. -/
theorem takes_whole_iff {p : Pattern} (hp : p.anchorFree = true) (hc : p.countsInOrder = true)
    (s : Place) : (∃ t, p.Takes s t ∧ t.rest = []) ↔ s.rest ∈ p.language := by
  constructor
  · rintro ⟨t, ht, hr⟩
    obtain ⟨w, hw, hs⟩ := ht.exists_mem_language hc
    rw [hs, hr, List.append_nil]
    exact hw
  · intro h
    exact exists_takes_of_mem_language hp _ h s [] (List.append_nil _).symm

end Phrasebook.Pattern
