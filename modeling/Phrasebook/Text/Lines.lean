/-!
# Lines

Splitting a text at a separator, and into lines. A line ends at a line feed; one carriage return in
front of it belongs to the line break.

* `splitAt_ne_nil`: there is always at least one part.
* `intercalate_splitAt`: joining the parts with the separator gives the text back.
* `not_mem_of_mem_splitAt`: no part holds the separator.
-/

namespace Phrasebook.Text

/-- The parts of a text between the occurrences of a separator. -/
def splitAt (sep : Char) : List Char → List (List Char)
  | [] => [[]]
  | c :: s =>
    if c = sep then [] :: splitAt sep s
    else match splitAt sep s with
      | [] => [[c]]
      | part :: parts => (c :: part) :: parts

theorem splitAt_ne_nil (sep : Char) (s : List Char) : splitAt sep s ≠ [] := by
  cases s with
  | nil => simp [splitAt]
  | cons c s =>
    simp only [splitAt]
    split
    · simp
    · split <;> simp

theorem intercalate_splitAt (sep : Char) (s : List Char) :
    [sep].intercalate (splitAt sep s) = s := by
  induction s with
  | nil => rfl
  | cons c s ih =>
    simp only [splitAt]
    split
    · next h =>
      subst h
      obtain ⟨part, parts, hp⟩ := List.exists_cons_of_ne_nil (splitAt_ne_nil c s)
      rw [hp] at ih ⊢
      simpa [List.intercalate, List.intersperse] using ih
    · split
      · next h => exact absurd h (splitAt_ne_nil sep s)
      · next part parts h =>
        rw [h] at ih
        rw [← ih]
        cases parts <;> simp [List.intercalate, List.intersperse]

theorem not_mem_of_mem_splitAt {sep : Char} {s part : List Char} (h : part ∈ splitAt sep s) :
    sep ∉ part := by
  induction s generalizing part with
  | nil => simp_all [splitAt]
  | cons c s ih =>
    simp only [splitAt] at h
    split at h
    · rcases List.mem_cons.1 h with rfl | h
      · simp
      · exact ih h
    · next hc =>
      split at h
      · next hs => exact absurd hs (splitAt_ne_nil sep s)
      · next p ps hs =>
        rcases List.mem_cons.1 h with rfl | h
        · intro hm
          rcases List.mem_cons.1 hm with rfl | hm
          · exact hc rfl
          · exact ih (hs ▸ List.mem_cons_self) hm
        · exact ih (hs ▸ List.mem_cons_of_mem _ h)

/-- A line without the carriage return that belongs to the line break after it. -/
def dropReturn (s : List Char) : List Char :=
  if s.getLast? = some '\r' then s.dropLast else s

/-- The lines of a text: it is cut at each LF, and a CR right before the LF is part of the cut. -/
def lines (s : List Char) : List (List Char) :=
  let parts := splitAt '\n' s
  parts.dropLast.map dropReturn ++ parts.getLast?.toList

example : lines "a\r\nb\n\nc".toList = ["a".toList, "b".toList, [], "c".toList] := by decide

example : lines "a\r\r\nb\rc\r".toList = ["a\r".toList, "b\rc\r".toList] := by decide

end Phrasebook.Text
