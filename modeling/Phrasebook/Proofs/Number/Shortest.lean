import Mathlib.Tactic
import Phrasebook.Number.Shortest
import Phrasebook.Proofs.Json.Numeral

/-!
# The form of the shortest numeral

The text of a finite number is a numeral: it has at least one digit on each side of its point, and
no leading zero. The digits that are laid out start with none, since the decimal number that is
found is not zero.

Results:
* `head_toDigits`: the digits of a number above zero start with no zero.
* `digits_shortest_ne_zero`: the shortest decimal number is not zero.
* `exists_layout`: digits without a leading zero are laid out as a numeral.
* `exists_numeral`: the text of a number is a numeral.
-/

namespace Phrasebook.Binary64

open Phrasebook.Text Phrasebook.Json

/-- The number is one of the 64-bit format. -/
def InFormat : Binary64 → Prop
  | .finite _ significand exponent =>
    significand < 2 ^ 53 ∧ minExponent ≤ exponent ∧ exponent ≤ maxExponent
  | .infinite _ => True

/-! ## Digits -/

/-- The digits of a number above zero start with no zero. -/
theorem head_toDigits {n : Nat} (hn : n ≠ 0) : (Nat.toDigits 10 n).head? ≠ some '0' := by
  induction n using Nat.strong_induction_on with
  | _ n ih =>
    by_cases hlt : n < 10
    · rw [Nat.toDigits_of_lt_base hlt]
      have hdigits : ∀ k < 10, k ≠ 0 → Nat.digitChar k ≠ '0' := by decide
      simpa using hdigits n hlt hn
    · rw [Nat.toDigits_of_base_le (by decide) (by omega),
        List.head?_append_of_ne_nil _ Nat.toDigits_ne_nil]
      exact ih (n / 10) (by omega) (by omega)

theorem pow_le_of_length_toDigits {n : Nat} (hn : n ≠ 0) :
    10 ^ ((Nat.toDigits 10 n).length - 1) ≤ n := by
  by_contra hlt
  have hpos : 0 < (Nat.toDigits 10 n).length := Nat.length_toDigits_pos
  by_cases hone : (Nat.toDigits 10 n).length = 1
  · rw [hone] at hlt
    omega
  · have hle := (Nat.length_toDigits_le_iff (by decide) (by omega)).2 (Nat.not_le.1 hlt)
    omega

/-! ## The decimal number -/

theorem compare_eq_lt_of_zero (p : Int) {count : Nat} (hcount : count ≠ 0) (power : Int) :
    Decimal.compare ⟨0, p⟩ count power = .lt := by
  have hpos : 0 < count * Nat.pow 2 power.toNat * Nat.pow 10 (-p).toNat :=
    Nat.mul_pos (Nat.mul_pos (Nat.pos_of_ne_zero hcount) (Nat.pow_pos (by decide)))
      (Nat.pow_pos (by decide))
  simp only [Decimal.compare, Nat.zero_mul]
  exact Nat.compare_eq_lt.2 hpos

/-- Zero lies below the halfway point to the lower neighbour: it reads back as no other number. -/
theorem digits_ne_zero_of_readsBack {m : Nat} (hm : m ≠ 0) {e : Int} {d : Decimal}
    (h : readsBack m e d = true) : d.digits ≠ 0 := by
  rintro hd
  obtain ⟨digits, p⟩ := d
  obtain rfl : digits = 0 := hd
  have hlow : (if m = Nat.pow 2 52 ∧ minExponent < e then 4 * m - 1 else 4 * m - 2) ≠ 0 := by
    split <;> omega
  simp only [readsBack, compare_eq_lt_of_zero p hlow] at h
  split at h <;> simp at h

theorem digits_ne_zero_of_withDigits {m : Nat} (hm : m ≠ 0) {e : Int} {count : Nat} {d : Decimal}
    (h : withDigits m e count = some d) : d.digits ≠ 0 :=
  digits_ne_zero_of_readsBack hm (List.find?_some h)

theorem two_pow_le_ten_pow (k : Nat) : 2 ^ (3 * k) ≤ 10 ^ k := by
  rw [Nat.pow_mul]
  exact Nat.pow_le_pow_left (by decide) k

/-- The first digit of a number that is moved by enough places. -/
theorem pow_le_of_scaled {m : Nat} (hm : m ≠ 0) {e : Int} {k : Nat}
    (h : 2 ^ (-e).toNat ≤ 10 ^ k) :
    let scaled := m * Nat.pow 2 e.toNat * Nat.pow 10 k / Nat.pow 2 (-e).toNat
    10 ^ ((Nat.toDigits 10 scaled).length - 1) * 2 ^ (-e).toNat ≤ m * 2 ^ e.toNat * 10 ^ k := by
  intro scaled
  have hone : 1 ≤ m * 2 ^ e.toNat := Nat.mul_pos (Nat.pos_of_ne_zero hm) (Nat.pow_pos (by decide))
  have hne : scaled ≠ 0 := by
    refine Nat.pos_iff_ne_zero.1 (Nat.div_pos ?_ (Nat.pow_pos (by decide)))
    exact h.trans (Nat.le_mul_of_pos_left _ hone)
  calc 10 ^ ((Nat.toDigits 10 scaled).length - 1) * 2 ^ (-e).toNat
      ≤ scaled * 2 ^ (-e).toNat := Nat.mul_le_mul_right _ (pow_le_of_length_toDigits hne)
    _ ≤ m * 2 ^ e.toNat * 10 ^ k := Nat.div_mul_le_self _ _

/-- The first digit of a number stands where its magnitude says. -/
theorem pow_le_of_magnitude {m : Nat} (hm : m ≠ 0) {e : Int} (he : minExponent ≤ e) :
    ∃ length : Nat, magnitude m e = length - places ∧ 0 < length ∧
      10 ^ (length - 1) * 2 ^ (-e).toNat ≤ m * 2 ^ e.toNat * 10 ^ places := by
  have hfine : 2 ^ (-e).toNat ≤ 10 ^ places := by
    calc 2 ^ (-e).toNat ≤ 2 ^ (3 * places) :=
          Nat.pow_le_pow_right (by decide) (by unfold minExponent at he; unfold places; omega)
      _ ≤ 10 ^ places := two_pow_le_ten_pow places
  exact ⟨_, rfl, Nat.length_toDigits_pos, pow_le_of_scaled hm hfine⟩

theorem digits_neighbours_ne_zero {m : Nat} (hm : m ≠ 0) {e : Int} (he : minExponent ≤ e) :
    (neighbours m e 17).1.digits ≠ 0 := by
  obtain ⟨length, hmagnitude, hlength, hle⟩ := pow_le_of_magnitude hm he
  have hden : 0 < Nat.pow 2 (-e).toNat * Nat.pow 10 (magnitude m e - (17 : Nat)).toNat :=
    Nat.mul_pos (Nat.pow_pos (by decide)) (Nat.pow_pos (by decide))
  refine Nat.pos_iff_ne_zero.1 (Nat.div_pos ?_ hden)
  rw [hmagnitude]
  have hscale : 0 < 10 ^ places := Nat.pow_pos (by decide)
  refine Nat.le_of_mul_le_mul_right ?_ hscale
  -- the last of 17 digits stands on either side of the point
  rcases Nat.lt_or_ge length (places + 17) with hlt | hge
  · rw [show ((length : Int) - places - (17 : Nat)).toNat = 0 by omega,
      show (-((length : Int) - places - (17 : Nat))).toNat = places + 17 - length by omega]
    calc 2 ^ (-e).toNat * 10 ^ 0 * 10 ^ places
        ≤ 2 ^ (-e).toNat * 10 ^ (places + 16) := by
          rw [Nat.pow_zero, Nat.mul_one]
          exact Nat.mul_le_mul_left _ (Nat.pow_le_pow_right (by decide) (by omega))
      _ = 10 ^ (length - 1) * 2 ^ (-e).toNat * 10 ^ (places + 17 - length) := by
          rw [show places + 16 = (length - 1) + (places + 17 - length) by omega, Nat.pow_add]
          ac_rfl
      _ ≤ m * 2 ^ e.toNat * 10 ^ places * 10 ^ (places + 17 - length) :=
          Nat.mul_le_mul_right _ hle
      _ = m * 2 ^ e.toNat * 10 ^ (places + 17 - length) * 10 ^ places := by ac_rfl
  · rw [show ((length : Int) - places - (17 : Nat)).toNat = length - (places + 17) by omega,
      show (-((length : Int) - places - (17 : Nat))).toNat = 0 by omega]
    calc 2 ^ (-e).toNat * 10 ^ (length - (places + 17)) * 10 ^ places
        = 2 ^ (-e).toNat * 10 ^ (length - 17) := by
          rw [Nat.mul_assoc, ← Nat.pow_add,
            show length - (places + 17) + places = length - 17 by omega]
      _ ≤ 2 ^ (-e).toNat * 10 ^ (length - 1) :=
          Nat.mul_le_mul_left _ (Nat.pow_le_pow_right (by decide) (by omega))
      _ ≤ m * 2 ^ e.toNat * 10 ^ places := by rwa [Nat.mul_comm]
      _ = m * 2 ^ e.toNat * 10 ^ 0 * 10 ^ places := by rw [Nat.pow_zero, Nat.mul_one]

theorem digits_shortest_ne_zero {m : Nat} (hm : m ≠ 0) {e : Int} (he : minExponent ≤ e) :
    (shortest m e).digits ≠ 0 := by
  rw [shortest]
  cases h : (List.range 17).findSome? fun i => withDigits m e (i + 1) with
  | none => exact digits_neighbours_ne_zero hm he
  | some d =>
    obtain ⟨i, -, hi⟩ := List.exists_of_findSome?_eq_some h
    exact digits_ne_zero_of_withDigits hm hi

/-! ## The digits that are laid out -/

/-- Digits without a leading zero. -/
def Leading (ds : List Char) : Prop := AllDigits ds ∧ ds.head? ≠ some '0'

/-- Without the zeros at its end a number still starts as it did. -/
theorem leading_significant {d : Decimal} (hd : d.digits ≠ 0) : Leading d.significant.1 := by
  obtain ⟨hne, hdigits⟩ := Integer.allDigits_toDigits d.digits
  have hhead := head_toDigits hd
  obtain ⟨c, s, hcs⟩ := List.exists_cons_of_ne_nil hne
  rw [hcs, List.head?_cons] at hhead
  have hc : (c == '0') = false := by simpa using hhead
  have hrest : ∃ t, (∀ x ∈ t, x ∈ s) ∧
      ((Nat.toDigits 10 d.digits).reverse.dropWhile (· == '0')).reverse = c :: t := by
    rw [hcs, List.reverse_cons, List.dropWhile_append]
    split
    · exact ⟨[], by simp, by simp [hc]⟩
    · refine ⟨(s.reverse.dropWhile (· == '0')).reverse, fun x hx => ?_, by simp⟩
      exact List.mem_reverse.1 ((List.dropWhile_sublist _).mem (List.mem_reverse.1 hx))
  obtain ⟨t, hmem, ht⟩ := hrest
  rw [Decimal.significant, ht]
  refine ⟨⟨by simp, fun x hx => hdigits x ?_⟩, by simpa using hhead⟩
  rw [hcs]
  rcases List.mem_cons.1 hx with rfl | hx
  · exact List.mem_cons_self
  · exact List.mem_cons_of_mem _ (hmem x hx)

theorem Leading.append {ds zs : List Char} (h : Leading ds) (hz : ∀ c ∈ zs, isDigit c = true) :
    Leading (ds ++ zs) := by
  obtain ⟨⟨hne, hdigits⟩, hhead⟩ := h
  refine ⟨⟨by simp [hne], fun c hc => ?_⟩, by rwa [List.head?_append_of_ne_nil _ hne]⟩
  rcases List.mem_append.1 hc with hc | hc
  · exact hdigits c hc
  · exact hz c hc

theorem Leading.take {ds : List Char} (h : Leading ds) {n : Nat} (hn : n ≠ 0) :
    Leading (ds.take n) := by
  obtain ⟨⟨hne, hdigits⟩, hhead⟩ := h
  refine ⟨⟨by simp [hne, hn], fun c hc => hdigits c (List.mem_of_mem_take hc)⟩, ?_⟩
  rwa [List.head?_take, if_neg hn]

theorem isDigit_of_mem_zeros {n : Nat} {c : Char} (h : c ∈ List.replicate n '0') :
    isDigit c = true := by
  rw [List.eq_of_mem_replicate h]
  rfl

theorem allDigits_zero : AllDigits ['0'] :=
  ⟨List.cons_ne_nil _ _, List.forall_mem_singleton.2 rfl⟩

/-- The numeral of digits without a leading zero, with a fraction and an exponent. -/
def Leading.numeral {whole : List Char} (h : Leading whole) (fraction : List Char)
    (hf : ∀ c ∈ fraction, isDigit c = true) (exponent : Option (Char × List Char))
    (he : ∀ sign ds, exponent = some (sign, ds) → (sign = '+' ∨ sign = '-') ∧ AllDigits ds) :
    Numeral :=
  ⟨whole, fraction, exponent, h.1, fun hzero => absurd hzero h.2, hf, he⟩

/-- Digits without a leading zero are laid out as a numeral, wherever the point is. -/
theorem exists_layout {ds : List Char} (h : Leading ds) (n : Int) :
    ∃ numeral : Numeral, layout ds n = numeral.chars := by
  obtain ⟨c, s, rfl⟩ := List.exists_cons_of_ne_nil h.1.1
  have hdigits := h.1.2
  unfold layout
  dsimp only
  split
  · -- the point is behind the digits
    have hzeros : Leading (c :: s ++ List.replicate (n - (c :: s).length).toNat '0') :=
      h.append fun _ => isDigit_of_mem_zeros
    refine ⟨hzeros.numeral [] (by simp) none (by simp), ?_⟩
    simp [Leading.numeral, Numeral.chars, Numeral.fractionChars, Numeral.exponentChars]
  split
  · -- among the digits
    next hbehind hamong =>
    have hn : n.toNat ≠ 0 := by omega
    have hdrop : (c :: s).drop n.toNat ≠ [] := by
      rw [Ne, List.drop_eq_nil_iff]
      omega
    refine ⟨(h.take hn).numeral ((c :: s).drop n.toNat)
      (fun d hd => hdigits d (List.mem_of_mem_drop hd)) none (by simp), ?_⟩
    rw [Numeral.chars, Numeral.fractionChars_of_ne_nil hdrop]
    simp [Leading.numeral, Numeral.exponentChars]
  split
  · -- in front of the digits
    refine ⟨⟨['0'], List.replicate (-n).toNat '0' ++ c :: s, none, allDigits_zero, fun _ => rfl,
      fun d hd => ?_, by simp⟩, ?_⟩
    · rcases List.mem_append.1 hd with hd | hd
      · exact isDigit_of_mem_zeros hd
      · exact hdigits d hd
    · simp [Numeral.chars, Numeral.fractionChars, Numeral.exponentChars]
  · -- an exponent takes the place of zeros
    have hexponent : ∀ sign ds, some ((if n ≤ 0 then '-' else '+'),
        Nat.toDigits 10 (n - 1).natAbs) = some (sign, ds) →
        (sign = '+' ∨ sign = '-') ∧ AllDigits ds := by
      intro sign ds heq
      obtain ⟨rfl, rfl⟩ := Prod.mk.inj (Option.some.inj heq)
      refine ⟨?_, Integer.allDigits_toDigits _⟩
      split
      · exact .inr rfl
      · exact .inl rfl
    have hfirst : Leading [c] := by simpa using h.take (n := 1) (by decide)
    refine ⟨hfirst.numeral s (fun d hd => hdigits d (List.mem_cons_of_mem c hd)) _ hexponent, ?_⟩
    cases s with
    | nil => simp [Leading.numeral, Numeral.chars, Numeral.fractionChars, Numeral.exponentChars]
    | cons d s =>
      simp [Leading.numeral, Numeral.chars, Numeral.fractionChars, Numeral.exponentChars]

/-! ## The text of a number -/

/-- The text of a finite number is a numeral, behind a minus sign or not. -/
theorem exists_numeral {negative : Bool} {m : Nat} {e : Int}
    (h : InFormat (.finite negative m e)) : ∃ (numeral : Numeral) (minus : Bool),
    (text (.finite negative m e)).toList = (if minus then ['-'] else []) ++ numeral.chars := by
  by_cases hm : m = 0
  · refine ⟨⟨['0'], [], none, allDigits_zero, fun _ => rfl, by simp, by simp⟩, false, ?_⟩
    simp [text, hm, Numeral.chars, Numeral.fractionChars, Numeral.exponentChars]
  · obtain ⟨numeral, hlayout⟩ := exists_layout
      (leading_significant (digits_shortest_ne_zero hm h.2.1)) (shortest m e).significant.2
    refine ⟨numeral, negative, ?_⟩
    simp only [text, if_neg hm, String.toList_ofList, hlayout]

end Phrasebook.Binary64
