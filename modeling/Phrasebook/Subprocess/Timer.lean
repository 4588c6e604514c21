import Phrasebook.Number.Binary64

/-!
# Timers

The deadline of a run is a timer that is set for the time of its call. A timer counts whole
milliseconds, from one to `longestDelay`. If it is set for a time that is shorter or longer, it
fires after one millisecond.

`delay` models the timer that `createSpawnRunner` sets.
-/

namespace Phrasebook.Subprocess

/-- The longest time that a timer can be set to. -/
def longestDelay : Nat := Nat.pow 2 31 - 1

/-- The number of milliseconds after which a timer fires that is set for a time. -/
def delay : Binary64 → Nat
  | .finite false significand exponent =>
    let n := significand * Nat.pow 2 exponent.toNat / Nat.pow 2 (-exponent).toNat
    if 1 ≤ n ∧ n ≤ longestDelay then n else 1
  | _ => 1

end Phrasebook.Subprocess
