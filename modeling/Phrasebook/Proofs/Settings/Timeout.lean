import Phrasebook.Execution
import Phrasebook.Proofs.Literal.Integer
import Phrasebook.Proofs.Number.Integers
import Phrasebook.Subprocess.Timer

/-!
# The configured time

The variable for the time that a snippet may run asks for a number of milliseconds, or for the
default. A timer takes no more than `2147483647`. There is no such bound on what the variable can
ask for: whatever is larger reaches the timer, which then fires after one millisecond.

Results:
* `timeoutOf_eq`: the configured time is the number that is asked for, as a number of the format.
* `delay_ofNat`: the time after which a timer fires.
* `timeout_of_environment`: the configured time can be set exactly when no more is asked for.
-/

namespace Phrasebook

open Phrasebook.Text

/-! ## What is asked for -/

namespace Settings

/-- The number of milliseconds that the value of a variable asks for: the one that its digits
denote, or the default if there is none above zero. -/
def askedTime (text : Option String) : Nat :=
  let digits := (text.getD "").toList
  if AllDigits digits ∧ 1 ≤ decimalValue digits then decimalValue digits else 5000

theorem one_le_askedTime (text : Option String) : 1 ≤ askedTime text := by
  unfold askedTime
  dsimp only
  split_ifs with h
  · exact h.2
  · decide

theorem timeoutOf_of_digits {text : Option String} {n : Nat}
    (h : ofDigits? 10 (text.getD "").toList = some n) (hn : n ≠ 0) : timeoutOf text = .ofNat n := by
  unfold timeoutOf
  rw [h]
  exact if_pos (Binary64.isPositive_ofNat hn)

/-- The configured time is the number that is asked for, rounded to the format. -/
theorem timeoutOf_eq (text : Option String) : timeoutOf text = .ofNat (askedTime text) := by
  by_cases hdigits : AllDigits (text.getD "").toList
  · have hread := Integer.ofDigits?_of_digits hdigits
    by_cases hzero : decimalValue (text.getD "").toList = 0
    · have hnone : ¬ (Binary64.ofNat 0).isPositive = true := by decide +kernel
      unfold timeoutOf askedTime
      rw [hread, hzero, if_neg (by omega)]
      exact if_neg hnone
    · rw [timeoutOf_of_digits hread hzero, askedTime, if_pos ⟨hdigits, by omega⟩]
  · have hread : ofDigits? 10 (text.getD "").toList = none := by
      rw [Option.eq_none_iff_forall_not_mem]
      exact fun n hn => hdigits (Integer.ofDigits?_eq_some_iff.1 hn).1
    unfold timeoutOf askedTime
    rw [hread, if_neg fun h => hdigits h.1, defaultTimeout]

end Settings

/-! ## The timer -/

namespace Subprocess

theorem delay_of_large {x : Binary64} (h : x.Large) : delay x = 1 := by
  cases x with
  | infinite negative => rfl
  | finite negative m e =>
    obtain ⟨rfl, hm, he⟩ := h
    have hwhole : (-e).toNat = 0 := by omega
    have hlarge : longestDelay < m * Nat.pow 2 e.toNat / Nat.pow 2 (-e).toNat := by
      have hpos : 0 < Nat.pow 2 e.toNat := Nat.two_pow_pos _
      rw [hwhole]
      show 2 ^ 31 - 1 < m * Nat.pow 2 e.toNat / 1
      rw [Nat.div_one]
      calc 2 ^ 31 - 1 < 2 ^ 52 := by decide
        _ ≤ m := hm
        _ ≤ m * Nat.pow 2 e.toNat := Nat.le_mul_of_pos_right m hpos
    simp only [delay]
    rw [if_neg (by omega)]

/-- A timer fires after one millisecond if it cannot be set for the time that is asked for. -/
theorem delay_ofNat {n : Nat} (hn : 1 ≤ n) :
    delay (.ofNat n) = if n ≤ longestDelay then n else 1 := by
  by_cases hlt : n < 2 ^ 53
  · have hlog : n.log2 < 53 := (Nat.log2_lt (by omega)).2 hlt
    have hup : ((n.log2 : Int) - 52).toNat = 0 := by omega
    have hdown : (-((n.log2 : Int) - 52)).toNat = 52 - n.log2 := by omega
    rw [Binary64.ofNat_of_lt (by omega) hlt]
    simp only [delay, hup, hdown]
    have hexact : n * 2 ^ (52 - n.log2) * Nat.pow 2 0 / Nat.pow 2 (52 - n.log2) = n := by
      show n * 2 ^ (52 - n.log2) * 1 / 2 ^ (52 - n.log2) = n
      rw [Nat.mul_one, Nat.mul_div_cancel _ (Nat.two_pow_pos _)]
    rw [hexact]
    simp only [hn, true_and]
  · have hlong : ¬ n ≤ longestDelay := by
      show ¬ n ≤ 2 ^ 31 - 1
      omega
    rw [delay_of_large (Binary64.large_ofNat (Nat.not_lt.1 hlt)), if_neg hlong]

end Subprocess

namespace Settings

/-- A number that a timer can be set to. -/
def Settable (timeout : Binary64) : Prop :=
  ∃ n : Nat, 1 ≤ n ∧ n ≤ 2147483647 ∧ timeout.value? = some (n : ℚ)

theorem settable_ofNat_iff {n : Nat} (hn : 1 ≤ n) : Settable (.ofNat n) ↔ n ≤ 2147483647 := by
  constructor
  · rintro ⟨k, -, hk, hvalue⟩
    by_contra hlong
    by_cases hlt : n < 2 ^ 53
    · rw [Binary64.value?_ofNat hlt] at hvalue
      have heq : n = k := by exact_mod_cast Option.some.inj hvalue
      omega
    · have hle := (Binary64.large_ofNat (Nat.not_lt.1 hlt)).le_of_value? hvalue
      have hle' : 2 ^ 53 ≤ k := by exact_mod_cast hle
      omega
  · intro hle
    exact ⟨n, hn, hle, Binary64.value?_ofNat (by omega)⟩

/-- What passes to the timer when no time is chosen for a run, for every value of the variable. The
number that is asked for, or else the default, is above zero. If a timer can be set to it, it is the
configured time, and the timer fires after it. If not, the configured time is not a number that a
timer can be set to, and the timer fires after one millisecond. -/
theorem timeout_of_environment (env : Environment) (interpreter : Option String) (runner : Runner)
    (code : String) :
    let asked := askedTime (env.get? timeoutVariable)
    let timeout := (execute (.ofEnvironment env) { interpreter } runner code).call.timeout
    timeout = (ofEnvironment env).timeout ∧ 1 ≤ asked ∧
    (Settable timeout ↔ asked ≤ 2147483647) ∧
    (asked ≤ 2147483647 →
      timeout.value? = some (asked : ℚ) ∧ Subprocess.delay timeout = asked) ∧
    (2147483647 < asked → Subprocess.delay timeout = 1) := by
  intro asked timeout
  have hasked : 1 ≤ asked := one_le_askedTime _
  have htimeout : timeout = .ofNat asked := timeoutOf_eq _
  have hdelay : Subprocess.delay timeout = if asked ≤ 2147483647 then asked else 1 := by
    rw [htimeout]
    exact Subprocess.delay_ofNat hasked
  refine ⟨rfl, hasked, ?_, fun hle => ⟨?_, ?_⟩, fun hlt => ?_⟩
  · rw [htimeout]
    exact settable_ofNat_iff hasked
  · rw [htimeout]
    exact Binary64.value?_ofNat (by omega)
  · rw [hdelay, if_pos hle]
  · rw [hdelay, if_neg (by omega)]

/-- Leading zeros do not count, and the largest time for a timer is one that can be configured. -/
theorem timeout_of_longest_delay :
    let env : Environment := [(timeoutVariable, "02147483647")]
    let runner : Runner := fun _ => .ok {}
    let timeout := (execute (.ofEnvironment env) {} runner "pass").call.timeout
    Settable timeout ∧ timeout.value? = some 2147483647 ∧
      Subprocess.delay timeout = 2147483647 := by
  intro env runner timeout
  have hasked : askedTime (env.get? timeoutVariable) = 2147483647 := by decide +kernel
  obtain ⟨-, -, hsettable, hshort, -⟩ := timeout_of_environment env none runner "pass"
  rw [hasked] at hsettable hshort
  obtain ⟨hvalue, hdelay⟩ := hshort le_rfl
  exact ⟨hsettable.2 le_rfl, by exact_mod_cast hvalue, hdelay⟩

/-- One millisecond more than a timer takes, and a number that is too large for the format: neither
gives the default, and with either the timer fires after one millisecond. -/
theorem timeout_beyond_longest_delay :
    let timeoutFor := fun text : String =>
      (execute (.ofEnvironment [(timeoutVariable, text)]) {} (fun _ => .ok {}) "pass").call.timeout
    let long := timeoutFor "2147483648"
    let huge := timeoutFor (String.ofList ('1' :: List.replicate 309 '0'))
    (long.value? = some 2147483648 ∧ ¬ Settable long ∧ Subprocess.delay long = 1) ∧
    (huge = .infinite false ∧ ¬ Settable huge ∧ Subprocess.delay huge = 1) := by
  intro timeoutFor long huge
  have htimeoutFor : ∀ text, timeoutFor text = timeoutOf (some text) := fun _ => rfl
  have hlong : long = .ofNat 2147483648 := by
    have hasked : askedTime (some "2147483648") = 2147483648 := by decide +kernel
    exact (htimeoutFor _).trans (by rw [timeoutOf_eq, hasked])
  have hhuge : huge = .infinite false := by
    have hdigits : ofDigits? 10 ('1' :: List.replicate 309 '0') = some (10 ^ 309) := by
      decide +kernel
    have hinfinite : Binary64.ofNat (10 ^ 309) = .infinite false := by decide +kernel
    rw [← hinfinite]
    refine (htimeoutFor _).trans (timeoutOf_of_digits ?_ (pow_ne_zero 309 (by decide)))
    rw [Option.getD_some, String.toList_ofList, hdigits]
  refine ⟨⟨?_, ?_, ?_⟩, hhuge, ?_, ?_⟩
  · rw [hlong, Binary64.value?_ofNat (by decide)]
    norm_num
  · rw [hlong, settable_ofNat_iff (by decide)]
    decide
  · rw [hlong]
    decide +kernel
  · rw [hhuge]
    rintro ⟨n, -, -, hvalue⟩
    cases hvalue
  · rw [hhuge]
    rfl

end Settings

end Phrasebook
