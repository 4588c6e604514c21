import Phrasebook.Number.Binary64
import Phrasebook.Text.Points

/-!
# JSON values

A JSON value over a type of texts. The members of an object keep the order in which their keys were
first set; setting a key again changes its value and not its place.

* `get?_put`: a set key has the new value, and every other key keeps its own.
-/

namespace Phrasebook

/-- A JSON value with texts of type `σ`. -/
inductive Json (σ : Type := String) where
  | null
  | bool (b : Bool)
  | number (x : Binary64)
  | string (s : σ)
  | array (items : List (Json σ))
  | object (members : List (σ × Json σ))

namespace Json

/-- The members of an object. -/
abbrev Members (σ : Type := String) := List (σ × Json σ)

variable {σ τ : Type}

namespace Members

variable [DecidableEq σ]

/-- The value of a key. -/
def get? (ms : Members σ) (key : σ) : Option (Json σ) :=
  (ms.find? (·.1 == key)).map (·.2)

/-- Sets a key: in its place if it is there, else at the end. -/
def put (key : σ) (value : Json σ) : Members σ → Members σ
  | [] => [(key, value)]
  | (k, v) :: ms => if k = key then (k, value) :: ms else (k, v) :: put key value ms

/-- Sets the keys of `more` in order. -/
def putAll (ms more : Members σ) : Members σ := more.foldl (fun ms m => put m.1 m.2 ms) ms

theorem get?_put (ms : Members σ) (key other : σ) (value : Json σ) :
    (put key value ms).get? other = if key = other then some value else ms.get? other := by
  induction ms with
  | nil => by_cases h : key = other <;> simp [put, get?, h]
  | cons m ms ih =>
    obtain ⟨k, v⟩ := m
    simp only [get?] at ih
    by_cases hk : k = key
    · subst hk
      by_cases h : k = other <;> simp [put, get?, h]
    · by_cases ho : k = other
      · subst ho
        simp [put, get?, hk, Ne.symm hk]
      · simp [put, get?, hk, ho, ih]

end Members

/-- The number of an integer. -/
def ofInt (n : Int) : Json σ := .number (.ofInt n)

/-- The members of an object value. -/
def members? : Json σ → Option (Members σ)
  | .object ms => some ms
  | _ => none

/-! ## Other texts -/

mutual

/-- The value with each of its texts changed. -/
def mapText (f : σ → τ) : Json σ → Json τ
  | .null => .null
  | .bool b => .bool b
  | .number x => .number x
  | .string s => .string (f s)
  | .array items => .array (mapTextItems f items)
  | .object ms => .object (mapTextMembers f ms)

/-- The items of an array with their texts changed. -/
def mapTextItems (f : σ → τ) : List (Json σ) → List (Json τ)
  | [] => []
  | item :: items => mapText f item :: mapTextItems f items

/-- The members of an object with their keys and texts changed. -/
def mapTextMembers (f : σ → τ) : Members σ → Members τ
  | [] => []
  | (key, value) :: ms => (f key, mapText f value) :: mapTextMembers f ms

end

/-- The value with its texts as code points. -/
abbrev points (j : Json) : Json Text.Points := j.mapText Text.points

/-- The value with its texts as strings: each lone surrogate becomes U+FFFD. -/
abbrev ofPoints (j : Json Text.Points) : Json := j.mapText Text.ofPoints

end Json

end Phrasebook
