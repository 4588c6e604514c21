import Mathlib.Tactic
import Phrasebook.Text.Lines

/-!
# The lines of a text

A line is a part of the text without line feeds. It starts where the text does or behind a line
feed, and it ends where the text does or in front of a line break. A carriage return right before a
line feed belongs to the line break, so a line in front of a lone line feed does not end with one.

Results:
* `lines_of_not_mem`, `lines_append`: the first line.
* `getElem?_lines_eq_some_iff`: which part of the text each line is.
-/

namespace Phrasebook.Text

/-! ## The first line -/

theorem splitAt_of_not_mem {sep : Char} {s : List Char} (h : sep ∉ s) : splitAt sep s = [s] := by
  induction s with
  | nil => rfl
  | cons c s ih =>
    obtain ⟨hc, hs⟩ := List.ne_and_not_mem_of_not_mem_cons h
    rw [splitAt, if_neg (Ne.symm hc), ih hs]

theorem splitAt_append {sep : Char} {part : List Char} (h : sep ∉ part) (rest : List Char) :
    splitAt sep (part ++ sep :: rest) = part :: splitAt sep rest := by
  induction part with
  | nil => rw [List.nil_append, splitAt, if_pos rfl]
  | cons c part ih =>
    obtain ⟨hc, hpart⟩ := List.ne_and_not_mem_of_not_mem_cons h
    rw [List.cons_append, splitAt, if_neg (Ne.symm hc), ih hpart]

/-- A text without line feeds is one line. -/
theorem lines_of_not_mem {s : List Char} (h : '\n' ∉ s) : lines s = [s] := by
  rw [lines, splitAt_of_not_mem h]
  rfl

/-- What stands in front of the first line feed is the first line, but for a carriage return at its
end. -/
theorem lines_append {part : List Char} (h : '\n' ∉ part) (rest : List Char) :
    lines (part ++ '\n' :: rest) = dropReturn part :: lines rest := by
  have hne := splitAt_ne_nil '\n' rest
  rw [lines, splitAt_append h, lines, List.dropLast_cons_of_ne_nil hne,
    List.getLast?_cons_of_ne_nil hne]
  rfl

/-! ## Each line -/

/-- A line can start behind the text: it is empty, or a line feed is its last character. -/
def Starts (front : List Char) : Prop := front = [] ∨ front.getLast? = some '\n'

/-- The line can end in front of the text: it is empty, or a line break is what it starts with. -/
def Ends (line back : List Char) : Prop :=
  back = [] ∨ (∃ rest, back = '\n' :: rest ∧ line.getLast? ≠ some '\r') ∨
    ∃ rest, back = '\r' :: '\n' :: rest

/-- The line with a number, counted from zero: as many line feeds stand in front of it. -/
def LineAt (s : List Char) (number : Nat) (line : List Char) : Prop :=
  ∃ front back, s = front ++ (line ++ back) ∧ front.count '\n' = number ∧ Starts front ∧
    '\n' ∉ line ∧ Ends line back

theorem starts_append_iff (part front : List Char) :
    Starts (part ++ '\n' :: front) ↔ Starts front := by
  by_cases hfront : front = []
  · simp [Starts, hfront]
  · simp [Starts, hfront, List.getLast?_append, List.getLast?_cons_of_ne_nil]

theorem eq_nil_of_starts {front : List Char} (h : Starts front) (hcount : front.count '\n' = 0) :
    front = [] := by
  rcases h with h | h
  · exact h
  · exact absurd (List.mem_of_getLast? h) (List.count_eq_zero.1 hcount)

theorem dropReturn_append (line : List Char) : dropReturn (line ++ ['\r']) = line := by
  simp [dropReturn]

/-- A text that starts with a line has it as its first one. -/
theorem head_lines {line back : List Char} (h : '\n' ∉ line) (hends : Ends line back) :
    (lines (line ++ back))[0]? = some line := by
  rcases hends with rfl | ⟨rest, rfl, hreturn⟩ | ⟨rest, rfl⟩
  · rw [List.append_nil, lines_of_not_mem h]
    rfl
  · rw [lines_append h, dropReturn, if_neg hreturn]
    rfl
  · have hpart : '\n' ∉ line ++ ['\r'] := by simp [h]
    rw [List.append_cons line, lines_append hpart, dropReturn_append]
    rfl

/-- What stands in front of a line feed is a line and its end. -/
theorem exists_ends (part rest : List Char) :
    ∃ back, part ++ '\n' :: rest = dropReturn part ++ back ∧ Ends (dropReturn part) back := by
  by_cases hreturn : part.getLast? = some '\r'
  · obtain ⟨line, rfl⟩ := List.getLast?_eq_some_iff.1 hreturn
    rw [dropReturn_append]
    exact ⟨'\r' :: '\n' :: rest, by simp, .inr (.inr ⟨rest, rfl⟩)⟩
  · rw [dropReturn, if_neg hreturn]
    exact ⟨'\n' :: rest, rfl, .inr (.inl ⟨rest, rfl, hreturn⟩)⟩

theorem mem_of_mem_dropReturn {part : List Char} {c : Char} (h : c ∈ dropReturn part) :
    c ∈ part := by
  rw [dropReturn] at h
  split at h
  · exact List.mem_of_mem_dropLast h
  · exact h

/-- The lines of a text are the parts of it that `LineAt` describes. -/
theorem getElem?_lines_eq_some_iff {s : List Char} {number : Nat} {line : List Char} :
    (lines s)[number]? = some line ↔ LineAt s number line := by
  induction number generalizing s with
  | zero =>
    constructor
    · intro h
      by_cases hbreak : '\n' ∈ s
      · obtain ⟨part, rest, rfl, hpart⟩ := List.eq_append_cons_of_mem hbreak
        rw [lines_append hpart, List.getElem?_cons_zero, Option.some.injEq] at h
        obtain ⟨back, hs, hends⟩ := exists_ends part rest
        rw [h] at hs hends
        exact ⟨[], back, hs, rfl, .inl rfl,
          fun hmem => hpart (mem_of_mem_dropReturn (h ▸ hmem)), hends⟩
      · rw [lines_of_not_mem hbreak, List.getElem?_cons_zero, Option.some.injEq] at h
        subst h
        exact ⟨[], [], by simp, rfl, .inl rfl, hbreak, .inl rfl⟩
    · rintro ⟨front, back, rfl, hcount, hstarts, hline, hends⟩
      rw [eq_nil_of_starts hstarts hcount, List.nil_append]
      exact head_lines hline hends
  | succ number ih =>
    constructor
    · intro h
      by_cases hbreak : '\n' ∈ s
      · obtain ⟨part, rest, rfl, hpart⟩ := List.eq_append_cons_of_mem hbreak
        rw [lines_append hpart, List.getElem?_cons_succ] at h
        obtain ⟨front, back, rfl, hcount, hstarts, hline, hends⟩ := ih.1 h
        refine ⟨part ++ '\n' :: front, back, by simp, ?_, (starts_append_iff part front).2 hstarts,
          hline, hends⟩
        rw [List.count_append, List.count_eq_zero_of_not_mem hpart, List.count_cons_self, hcount,
          Nat.zero_add]
      · rw [lines_of_not_mem hbreak] at h
        cases h
    · rintro ⟨front, back, rfl, hcount, hstarts, hline, hends⟩
      have hmem : '\n' ∈ front := List.count_pos_iff.1 (by omega)
      obtain ⟨part, front, rfl, hpart⟩ := List.eq_append_cons_of_mem hmem
      rw [List.count_append, List.count_eq_zero_of_not_mem hpart, List.count_cons_self] at hcount
      rw [List.append_assoc, List.cons_append, lines_append hpart, List.getElem?_cons_succ]
      have hstarts' : Starts front := (starts_append_iff part front).1 hstarts
      exact ih.2 ⟨front, back, rfl, by omega, hstarts', hline, hends⟩

end Phrasebook.Text
