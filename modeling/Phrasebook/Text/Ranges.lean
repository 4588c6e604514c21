/-!
# Tables of code points

A character class is a table of code points: a list of ranges, or a list of runs with a stride
where a class takes every other code point. Lookups are linear, so a statement about a whole table
is a statement about the members of a list.
-/

namespace Phrasebook.Text

/-- Some range of the table holds the character; both ends count. -/
def inRanges (table : List (Nat × Nat)) (c : Char) : Bool :=
  table.any fun (first, last) => first ≤ c.toNat && c.toNat ≤ last

/-- The code points `first`, `first + stride`, `first + 2 * stride`, and so on up to `last`. -/
structure Run where
  first : Nat
  last : Nat
  stride : Nat

/-- `n` is one of the code points of the run. -/
def Run.contains (r : Run) (n : Nat) : Bool :=
  r.first ≤ n && n ≤ r.last && (n - r.first) % r.stride == 0

/-- Some run of the table holds the character. -/
def inRuns (table : List Run) (c : Char) : Bool :=
  table.any (·.contains c.toNat)

/-- Each range is well formed and ends below the start of the next one. -/
def Ascending : List (Nat × Nat) → Bool
  | [] => true
  | [(first, last)] => first ≤ last
  | (first, last) :: (first', last') :: rest =>
    first ≤ last && last < first' && Ascending ((first', last') :: rest)

theorem inRanges_eq_true_iff {table : List (Nat × Nat)} {c : Char} :
    inRanges table c = true ↔ ∃ r ∈ table, r.1 ≤ c.toNat ∧ c.toNat ≤ r.2 := by
  simp [inRanges]

end Phrasebook.Text
