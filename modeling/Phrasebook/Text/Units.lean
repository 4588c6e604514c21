/-!
# UTF-16 measure

Lengths, offsets and columns count UTF-16 code units: one for a character of the basic plane, two
for any other. `units` measures a text, and `slice` cuts one at two offsets.

* `units_append`: the measure is additive.
* `dropUnits_append`, `takeUnits_append`: cutting at the end of a first part gives the two parts
  back.
* `slice_append`: a slice that starts where a first part ends and is as long as the second part is
  that second part.
-/

namespace Phrasebook.Text

/-- The UTF-16 code units of one character. -/
def unitsOf (c : Char) : Nat := if c.toNat < 0x10000 then 1 else 2

/-- The UTF-16 code units of a text. -/
def units (s : List Char) : Nat := s.foldl (fun n c => n + unitsOf c) 0

theorem unitsOf_pos (c : Char) : 0 < unitsOf c := by unfold unitsOf; split <;> decide

private theorem foldl_units (s : List Char) (n : Nat) :
    s.foldl (fun n c => n + unitsOf c) n = n + units s := by
  unfold units
  induction s generalizing n with
  | nil => rfl
  | cons c s ih => simp only [List.foldl_cons]; rw [ih, ih (0 + unitsOf c)]; omega

@[simp] theorem units_nil : units [] = 0 := rfl

@[simp] theorem units_cons (c : Char) (s : List Char) : units (c :: s) = unitsOf c + units s := by
  rw [units, List.foldl_cons, foldl_units]; omega

@[simp] theorem units_append (s t : List Char) : units (s ++ t) = units s + units t := by
  induction s with
  | nil => simp
  | cons c s ih => simp [ih]; omega

/-- The text without its first `n` units. A character that the cut would split is dropped. -/
def dropUnits : Nat → List Char → List Char
  | _, [] => []
  | n, c :: s => if n = 0 then c :: s else dropUnits (n - unitsOf c) s

/-- The first `n` units of the text. A character that the cut would split is left out. -/
def takeUnits : Nat → List Char → List Char
  | _, [] => []
  | n, c :: s => if unitsOf c ≤ n then c :: takeUnits (n - unitsOf c) s else []

/-- The units from offset `start` up to, but not including, offset `stop`. -/
def slice (s : List Char) (start stop : Nat) : List Char :=
  takeUnits (stop - start) (dropUnits start s)

@[simp] theorem dropUnits_append (s t : List Char) : dropUnits (units s) (s ++ t) = t := by
  induction s with
  | nil => cases t <;> simp [dropUnits]
  | cons c s ih =>
    have := unitsOf_pos c
    simp [dropUnits, ih, show unitsOf c ≠ 0 by omega]

@[simp] theorem takeUnits_append (s t : List Char) : takeUnits (units s) (s ++ t) = s := by
  induction s with
  | nil =>
    cases t with
    | nil => rfl
    | cons c t => have := unitsOf_pos c; simp [takeUnits]; omega
  | cons c s ih => simp [takeUnits, ih]

theorem slice_append (p s t : List Char) :
    slice (p ++ (s ++ t)) (units p) (units p + units s) = s := by
  simp [slice]

end Phrasebook.Text
