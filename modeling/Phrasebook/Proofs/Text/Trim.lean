import Mathlib.Data.List.TakeWhile
import Mathlib.Tactic
import Phrasebook.Text.Blank
import Phrasebook.Text.Lines

/-!
# Trimming, splitting and first words

Results:
* `trim_eq_self`: a text without a blank at its ends is left as it is.
* `mem_of_mem_trim`, `mem_of_mem_splitAt`: trimming and splitting bring no new characters.
* `exists_append_trim`: a text is what trimming leaves between blanks.
* `trim_append_append`: trimming takes off blanks that are put around a text.
* `eq_append_of_splitAt`: what stands around a part of a text.
* `splitAt_eq_pair`: a text with one separator is split at its first one.
* `not_isPrefix_of_apart`: no text starts with two words of which neither starts with the other one.
-/

namespace Phrasebook.Text

/-! ## Trimming -/

theorem trimStart_eq_self {s : List Char} (h : ∀ c, s.head? = some c → isBlank c = false) :
    trimStart s = s := by
  cases s with
  | nil => rfl
  | cons c s => simp [trimStart, h c rfl]

theorem trimEnd_eq_self {s : List Char} (h : ∀ c, s.getLast? = some c → isBlank c = false) :
    trimEnd s = s := by
  have hrev : trimStart s.reverse = s.reverse :=
    trimStart_eq_self fun c hc => h c (by rwa [List.head?_reverse] at hc)
  have hdef : trimEnd s = (trimStart s.reverse).reverse := rfl
  rw [hdef, hrev, List.reverse_reverse]

/-- A text without a blank at its ends is left as it is. -/
theorem trim_eq_self {s : List Char} (hs : ∀ c, s.head? = some c → isBlank c = false)
    (he : ∀ c, s.getLast? = some c → isBlank c = false) : trim s = s := by
  rw [trim, trimStart_eq_self hs, trimEnd_eq_self he]

theorem trim_eq_self_of_forall {s : List Char} (h : ∀ c ∈ s, isBlank c = false) : trim s = s :=
  trim_eq_self (fun c hc => h c (List.mem_of_head? hc)) fun c hc => h c (List.mem_of_getLast? hc)

theorem mem_of_mem_trim {s : List Char} {c : Char} (h : c ∈ trim s) : c ∈ s := by
  have hend : c ∈ trimStart s := by
    rw [trim, trimEnd, List.mem_reverse] at h
    exact List.mem_reverse.1 ((List.dropWhile_sublist _).subset h)
  exact (List.dropWhile_sublist _).subset hend

/-- What trimming leaves starts as the text does after its blanks. -/
theorem head_trim {s : List Char} {c : Char} (h : (trim s).head? = some c) :
    isBlank c = false := by
  have hprefix : trim s <+: trimStart s := by
    rw [trim, trimEnd, ← List.reverse_suffix, List.reverse_reverse]
    exact List.dropWhile_suffix _
  obtain ⟨r, hr⟩ := hprefix
  have hhead : (trimStart s).head? = some c := by
    rw [← hr, List.head?_append, h]
    rfl
  exact head_dropWhile_isBlank hhead

theorem trim_trim (s : List Char) : trim (trim s) = trim s :=
  trim_eq_self (fun _ => head_trim) fun _ => getLast_trimEnd

/-- A text is the blanks at its start, what trimming leaves, and the blanks at its end. -/
theorem exists_append_trim (s : List Char) : ∃ ending, (∀ c ∈ ending, isBlank c = true) ∧
    s = s.takeWhile isBlank ++ (trim s ++ ending) := by
  refine ⟨((trimStart s).reverse.takeWhile isBlank).reverse, fun c hc => ?_, ?_⟩
  · exact List.mem_takeWhile_imp (List.mem_reverse.1 hc)
  · have hend : trim s ++ ((trimStart s).reverse.takeWhile isBlank).reverse = trimStart s := by
      rw [trim, trimEnd, ← List.reverse_append, List.takeWhile_append_dropWhile,
        List.reverse_reverse]
    rw [hend]
    exact List.takeWhile_append_dropWhile.symm

/-- Trimming takes off blanks that are put around a text without a blank at its ends. -/
theorem trim_append_append {start s ending : List Char} (hstart : ∀ c ∈ start, isBlank c = true)
    (hending : ∀ c ∈ ending, isBlank c = true) (hs : ∀ c, s.head? = some c → isBlank c = false)
    (he : ∀ c, s.getLast? = some c → isBlank c = false) : trim (start ++ (s ++ ending)) = s := by
  have hdrop : trimStart (start ++ (s ++ ending)) = trimStart (s ++ ending) :=
    List.dropWhile_append_of_pos hstart
  rw [trim, hdrop]
  cases s with
  | nil =>
    have hnil : trimStart ending = [] := List.dropWhile_eq_nil_iff.2 hending
    rw [List.nil_append, hnil]
    rfl
  | cons c s =>
    have hrest : trimStart (c :: s ++ ending) = c :: s ++ ending := trimStart_eq_self hs
    have hreverse : ∀ d ∈ ending.reverse, isBlank d = true :=
      fun d hd => hending d (List.mem_reverse.1 hd)
    rw [hrest, trimEnd, List.reverse_append, List.dropWhile_append_of_pos hreverse]
    exact trimEnd_eq_self he

theorem trim_eq_nil_iff {s : List Char} : trim s = [] ↔ isBlankText s = true := by
  rw [isBlankText, List.all_eq_true]
  constructor
  · intro h c hc
    obtain ⟨ending, hending, hs⟩ := exists_append_trim s
    rw [h, List.nil_append] at hs
    rw [hs] at hc
    rcases List.mem_append.1 hc with hc | hc
    · exact List.mem_takeWhile_imp hc
    · exact hending c hc
  · intro h
    have hstart : trimStart s = [] := List.dropWhile_eq_nil_iff.2 h
    rw [trim, hstart]
    rfl

/-! ## Splitting -/

theorem length_splitAt (sep : Char) (s : List Char) :
    (splitAt sep s).length = s.count sep + 1 := by
  induction s with
  | nil => rfl
  | cons c s ih =>
    by_cases hc : c = sep
    · subst hc
      rw [splitAt, if_pos rfl, List.length_cons, ih, List.count_cons_self]
    · rw [splitAt, if_neg hc, List.count_cons_of_ne hc]
      obtain ⟨part, parts, hparts⟩ := List.exists_cons_of_ne_nil (splitAt_ne_nil sep s)
      rw [hparts] at ih ⊢
      exact ih

/-- What stands in front of a part and behind it, with the separators. -/
theorem eq_append_of_splitAt {sep : Char} {s part : List Char} {before after : List (List Char)}
    (h : splitAt sep s = before ++ part :: after) :
    s = before.flatMap (· ++ [sep]) ++ (part ++ after.flatMap (sep :: ·)) := by
  rw [← intercalate_splitAt sep s, h]
  clear h
  induction before with
  | nil =>
    induction after generalizing part with
    | nil => simp [List.intercalate]
    | cons q qs ih =>
      have hrest : [sep].intercalate ([] ++ q :: qs) = _ := ih
      rw [List.nil_append, List.intercalate_cons_cons, ← List.nil_append (q :: qs), hrest]
      simp
  | cons p ps ih =>
    cases ps with
    | nil =>
      rw [List.nil_append] at ih
      rw [List.singleton_append, List.intercalate_cons_cons, ih]
      simp
    | cons q qs =>
      rw [List.cons_append, List.cons_append, List.intercalate_cons_cons, ← List.cons_append, ih]
      simp

theorem mem_of_mem_splitAt {sep : Char} {s part : List Char} (h : part ∈ splitAt sep s) {c : Char}
    (hc : c ∈ part) : c ∈ s := by
  have hflat : c ∈ [sep].intercalate (splitAt sep s) := by
    generalize splitAt sep s = parts at h
    induction parts with
    | nil => simp at h
    | cons p ps ih =>
      cases ps with
      | nil => simp_all [List.intercalate]
      | cons q qs =>
        rw [List.intercalate_cons_cons]
        rcases List.mem_cons.1 h with rfl | h
        · simp [hc]
        · simp [ih h]
  rwa [intercalate_splitAt] at hflat

/-- A text with one separator is split at its first one. -/
theorem splitAt_eq_pair {sep : Char} {s k v : List Char} (h : splitAt sep s = [k, v]) :
    k = s.takeWhile (· ≠ sep) ∧ v = (s.dropWhile (· ≠ sep)).tail := by
  have hs : s = k ++ sep :: v := by
    rw [← intercalate_splitAt sep s, h]
    simp [List.intercalate]
  have hk : sep ∉ k := not_mem_of_mem_splitAt (h ▸ List.mem_cons_self)
  have hall : ∀ c ∈ k, decide (c ≠ sep) = true := by
    intro c hc
    exact decide_eq_true fun he => hk (he ▸ hc)
  rw [hs, List.takeWhile_append_of_pos hall, List.dropWhile_append_of_pos hall]
  simp

/-! ## First words -/

/-- Neither of the words starts with the other one. -/
def apart (v w : List Char) : Bool := !v.isPrefixOf w && !w.isPrefixOf v

/-- No text starts with two words of which neither starts with the other one. -/
theorem not_isPrefix_of_apart {v w s : List Char} (h : apart v w = true) (hv : v <+: s) :
    ¬ w <+: s := by
  intro hw
  simp only [apart, Bool.and_eq_true, Bool.not_eq_true'] at h
  rcases List.prefix_or_prefix_of_prefix hv hw with hp | hp
  · rw [List.isPrefixOf_iff_prefix.2 hp] at h
    exact absurd h.1 (by decide)
  · rw [List.isPrefixOf_iff_prefix.2 hp] at h
    exact absurd h.2 (by decide)

end Phrasebook.Text
