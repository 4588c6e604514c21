import Mathlib.Tactic
import Phrasebook.Text.Letter
import Phrasebook.Text.Number

/-!
# Tables that have no character in common

Two ascending tables are compared in one walk through both of them.

Results:
* `not_inRanges_of_disjoint`: tables that pass the comparison have no character in common.
* `not_isNumber_of_isLetter`: no letter is a number.
-/

namespace Phrasebook.Text

/-- No range of one table touches a range of the other one, as far as the fuel goes. Of two first
ranges the lower one is left behind. -/
def disjointRanges : Nat → List (Nat × Nat) → List (Nat × Nat) → Bool
  | _, [], _ => true
  | _, _, [] => true
  | 0, _, _ => false
  | fuel + 1, r :: rs, q :: qs =>
    if r.2 < q.1 then disjointRanges fuel rs (q :: qs)
    else q.2 < r.1 && disjointRanges fuel (r :: rs) qs

theorem inRanges_cons {c : Char} {r : Nat × Nat} {rs : List (Nat × Nat)} :
    inRanges (r :: rs) c = true ↔ (r.1 ≤ c.toNat ∧ c.toNat ≤ r.2) ∨ inRanges rs c = true := by
  simp [inRanges]

theorem ascending_tail {r : Nat × Nat} {rs : List (Nat × Nat)} (h : Ascending (r :: rs) = true) :
    Ascending rs = true := by
  cases rs with
  | nil => rfl
  | cons q qs => exact (Bool.and_eq_true_iff.1 h).2

/-- No character of an ascending table stands below its first range. -/
theorem le_of_inRanges {c : Char} {rs : List (Nat × Nat)} : ∀ {r : Nat × Nat},
    Ascending (r :: rs) = true → inRanges (r :: rs) c = true → r.1 ≤ c.toNat := by
  induction rs with
  | nil =>
    intro r _ hc
    rcases inRanges_cons.1 hc with hc | hc
    · exact hc.1
    · cases hc
  | cons q qs ih =>
    intro r h hc
    obtain ⟨hle, hlt⟩ := Bool.and_eq_true_iff.1 (Bool.and_eq_true_iff.1 h).1
    have hle : r.1 ≤ r.2 := of_decide_eq_true hle
    have hlt : r.2 < q.1 := of_decide_eq_true hlt
    rcases inRanges_cons.1 hc with hc | hc
    · exact hc.1
    · have := ih (ascending_tail h) hc
      omega

/-- Ascending tables that pass the comparison have no character in common. -/
theorem not_inRanges_of_disjoint {c : Char} : ∀ {fuel : Nat} {rs qs : List (Nat × Nat)},
    disjointRanges fuel rs qs = true → Ascending rs = true → Ascending qs = true →
    inRanges rs c = true → ¬ inRanges qs c = true := by
  intro fuel
  induction fuel with
  | zero =>
    intro rs qs h _ _ hr hq
    cases rs with
    | nil => cases hr
    | cons r rs =>
      cases qs with
      | nil => cases hq
      | cons q qs => cases h
  | succ fuel ih =>
    intro rs qs h hrs hqs hr hq
    cases rs with
    | nil => cases hr
    | cons r rs =>
      cases qs with
      | nil => cases hq
      | cons q qs =>
        rw [disjointRanges] at h
        split at h
        · have hle := le_of_inRanges hqs hq
          rcases inRanges_cons.1 hr with hr | hr
          · omega
          · exact ih h (ascending_tail hrs) hqs hr hq
        · obtain ⟨hlt, h⟩ := Bool.and_eq_true_iff.1 h
          have hlt : q.2 < r.1 := of_decide_eq_true hlt
          have hle := le_of_inRanges hrs hr
          rcases inRanges_cons.1 hq with hq | hq
          · omega
          · exact ih h hrs (ascending_tail hqs) hr hq

/-- No letter is a number. -/
theorem not_isNumber_of_isLetter {c : Char} (h : isLetter c = true) : ¬ isNumber c = true :=
  not_inRanges_of_disjoint (show disjointRanges 1000 letterRanges numberRanges = true by
    decide +kernel) (by decide +kernel) (by decide +kernel) h

end Phrasebook.Text
