import Mathlib.Tactic
import Phrasebook.Number.Binary64

/-!
# Natural numbers in the 64-bit format

A natural number below `2 ^ 53` is a number of the format. One from there on is rounded, to a number
that is not below `2 ^ 53` or to the infinite one, so no bound below `2 ^ 53` is crossed by
rounding.

Results:
* `exponentFor_one`: the exponent of a natural number is its binary logarithm less 52.
* `value?_ofNat`: what is below `2 ^ 53` is exact.
* `large_ofNat`: what is not stays so.
* `isPositive_ofNat`: no number above zero is rounded to zero.
-/

namespace Phrasebook.Binary64

/-- The exact value of a finite number. -/
def value? : Binary64 → Option ℚ
  | .finite negative significand exponent =>
    some ((if negative then -1 else 1) * significand * 2 ^ exponent)
  | .infinite _ => none

/-- The number is at least `2 ^ 53`. -/
def Large : Binary64 → Prop
  | .finite negative significand exponent =>
    negative = false ∧ 2 ^ 52 ≤ significand ∧ 1 ≤ exponent
  | .infinite negative => negative = false

/-! ## Ratios to one -/

variable {n : Nat}

theorem roundDiv_one (n : Nat) : roundDiv n 1 = n := by
  simp [roundDiv, Nat.mod_one]

theorem div_le_roundDiv (num den : Nat) : num / den ≤ roundDiv num den := by
  simp only [roundDiv]
  split <;> omega

theorem scale_of_nonneg {e : Int} (he : 0 ≤ e) (n : Nat) : scale n 1 e = (n, 2 ^ e.toNat) := by
  simp [scale, he]

theorem scale_of_nonpos {e : Int} (he : e ≤ 0) (n : Nat) :
    scale n 1 e = (n * 2 ^ (-e).toNat, 1) := by
  rcases he.lt_or_eq with hlt | rfl
  · simp [scale, hlt.not_ge]
  · simp [scale]

theorem exponentFor_one (hn : n ≠ 0) : exponentFor n 1 = (n.log2 : Int) - 52 := by
  have hlow := Nat.log2_self_le hn
  have hmax : max minExponent ((n.log2 : Int) - Nat.log2 1 - 53) = (n.log2 : Int) - 53 := by
    have hone : Nat.log2 1 = 0 := by decide
    rw [hone, minExponent]
    omega
  -- the first guess leaves 54 bits, so the exponent is always the next one
  have hfull : Nat.pow 2 53 ≤ (scale n 1 ((n.log2 : Int) - 53)).1 /
      (scale n 1 ((n.log2 : Int) - 53)).2 := by
    rcases Nat.le_total 53 n.log2 with hle | hle
    · rw [scale_of_nonneg (by omega), Nat.le_div_iff_mul_le (Nat.two_pow_pos _)]
      have hsum : 53 + ((n.log2 : Int) - 53).toNat = n.log2 := by omega
      calc 2 ^ 53 * 2 ^ ((n.log2 : Int) - 53).toNat
          = 2 ^ n.log2 := by rw [← Nat.pow_add, hsum]
        _ ≤ n := hlow
    · rw [scale_of_nonpos (by omega), Nat.div_one]
      have hsum : n.log2 + (-((n.log2 : Int) - 53)).toNat = 53 := by omega
      calc 2 ^ 53 = 2 ^ n.log2 * 2 ^ (-((n.log2 : Int) - 53)).toNat := by
            rw [← Nat.pow_add, hsum]
        _ ≤ n * 2 ^ (-((n.log2 : Int) - 53)).toNat := Nat.mul_le_mul_right _ hlow
  simp only [exponentFor, hmax]
  rw [if_neg (Nat.not_lt.2 hfull)]
  omega

/-- Below `2 ^ 53` the significand is the number, shifted to 53 bits. -/
theorem ofRatio_one_of_lt (hn : n ≠ 0) (h : n < 2 ^ 53) :
    ofRatio false n 1 = .finite false (n * 2 ^ (52 - n.log2)) ((n.log2 : Int) - 52) := by
  have hlog : n.log2 < 53 := (Nat.log2_lt hn).2 h
  have hshift : (-((n.log2 : Int) - 52)).toNat = 52 - n.log2 := by omega
  have hbits : n * 2 ^ (52 - n.log2) < 2 ^ 53 := by
    have hsum : n.log2 + 1 + (52 - n.log2) = 53 := by omega
    calc n * 2 ^ (52 - n.log2) < 2 ^ (n.log2 + 1) * 2 ^ (52 - n.log2) :=
          Nat.mul_lt_mul_of_pos_right Nat.lt_log2_self (Nat.two_pow_pos _)
      _ = 2 ^ 53 := by rw [← Nat.pow_add, hsum]
  simp only [ofRatio, if_neg hn, exponentFor_one hn]
  rw [scale_of_nonpos (by omega), hshift]
  dsimp only
  have hmax : ¬ maxExponent < (n.log2 : Int) - 52 := by
    rw [maxExponent]
    omega
  have hne : n * 2 ^ (52 - n.log2) ≠ Nat.pow 2 53 := hbits.ne
  rw [roundDiv_one, if_neg hne, if_neg hmax]

theorem large_ofRatio_one (h : 2 ^ 53 ≤ n) : Large (ofRatio false n 1) := by
  have hn : n ≠ 0 := by omega
  have hlog : 53 ≤ n.log2 := (Nat.le_log2 hn).2 h
  have hbits : 2 ^ 52 ≤ roundDiv n (2 ^ ((n.log2 : Int) - 52).toNat) := by
    refine le_trans ?_ (div_le_roundDiv _ _)
    rw [Nat.le_div_iff_mul_le (Nat.two_pow_pos _), ← Nat.pow_add]
    have hsum : 52 + ((n.log2 : Int) - 52).toNat = n.log2 := by omega
    rw [hsum]
    exact Nat.log2_self_le hn
  simp only [ofRatio, if_neg hn, exponentFor_one hn]
  rw [scale_of_nonneg (by omega)]
  dsimp only
  generalize roundDiv n (2 ^ ((n.log2 : Int) - 52).toNat) = m at hbits ⊢
  -- rounding up may give a 54th bit, and then the exponent grows
  by_cases hm : m = Nat.pow 2 53
  · simp only [if_pos hm]
    split
    · rfl
    · exact ⟨rfl, le_rfl, by omega⟩
  · simp only [if_neg hm]
    split
    · rfl
    · exact ⟨rfl, hbits, by omega⟩

/-! ## Natural numbers -/

/-- A number with few digits is read as a ratio, and one with too many is infinite. -/
theorem ofNat_eq (hn : n ≠ 0) :
    ofNat n = if 310 < (Nat.toDigits 10 n).length then .infinite false else ofRatio false n 1 := by
  simp [ofNat, ofDecimal, hn]

theorem ofNat_of_lt (hn : n ≠ 0) (h : n < 2 ^ 53) :
    ofNat n = .finite false (n * 2 ^ (52 - n.log2)) ((n.log2 : Int) - 52) := by
  have hdigits : (Nat.toDigits 10 n).length ≤ 310 := by
    refine (Nat.length_toDigits_le_iff (by decide) (by decide)).2 (h.trans_le ?_)
    decide +kernel
  rw [ofNat_eq hn, if_neg (Nat.not_lt.2 hdigits), ofRatio_one_of_lt hn h]

theorem value?_ofNat (h : n < 2 ^ 53) : (ofNat n).value? = some (n : ℚ) := by
  by_cases hn : n = 0
  · subst n
    simp [ofNat, ofDecimal, value?]
  · have hlog : n.log2 < 53 := (Nat.log2_lt hn).2 h
    have hexponent : (n.log2 : Int) - 52 = -((52 - n.log2 : Nat) : Int) := by omega
    have hpos : (2 : ℚ) ^ (52 - n.log2) ≠ 0 := by positivity
    rw [ofNat_of_lt hn h, value?, hexponent, zpow_neg, zpow_natCast]
    push_cast
    rw [one_mul, mul_assoc, mul_inv_cancel₀ hpos, mul_one]

theorem large_ofNat (h : 2 ^ 53 ≤ n) : Large (ofNat n) := by
  have hn : n ≠ 0 := by omega
  rw [ofNat_eq hn]
  split
  · rfl
  · exact large_ofRatio_one h

theorem Large.isPositive_eq_true {x : Binary64} (h : x.Large) : x.isPositive = true := by
  cases x with
  | infinite negative => simpa [isPositive, Large] using h
  | finite negative m e =>
    obtain ⟨rfl, hm, -⟩ := h
    have hne : m ≠ 0 := by omega
    simp [isPositive, hne]

theorem isPositive_ofNat (hn : n ≠ 0) : (ofNat n).isPositive = true := by
  by_cases h : n < 2 ^ 53
  · simp [ofNat_of_lt hn h, isPositive, hn]
  · exact (large_ofNat (Nat.not_lt.1 h)).isPositive_eq_true

theorem Large.le_of_value? {x : Binary64} (h : x.Large) {q : ℚ} (hq : x.value? = some q) :
    2 ^ 53 ≤ q := by
  cases x with
  | infinite negative => cases hq
  | finite negative m e =>
    obtain ⟨rfl, hm, he⟩ := h
    obtain rfl := Option.some.inj hq
    have hm' : (2 : ℚ) ^ 52 ≤ m := by exact_mod_cast hm
    have htwo : (2 : ℚ) ^ (1 : ℤ) ≤ 2 ^ e := zpow_le_zpow_right₀ (by norm_num) he
    calc (2 : ℚ) ^ 53 = 2 ^ 52 * 2 ^ (1 : ℤ) := by norm_num
      _ ≤ (m : ℚ) * 2 ^ e := by gcongr
      _ = (if false = true then -1 else 1) * m * 2 ^ e := by simp

end Phrasebook.Binary64
