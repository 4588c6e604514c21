import Phrasebook.Command.Run
import Phrasebook.Proofs.Text.Lines

/-!
# The line that a failed run is explained with

A failed run is explained with the last line of the error output that is not blank. This is a whole
line: the output starts with it or a line feed stands in front of it, it goes up to a line break or
to the end, and only blanks follow. A blank output has no such line, and then the exit code is
named.

Results:
* `all_isBlankText_lines`: the lines of a text are blank exactly if the text is.
* `lines_append_of_starts`, `lines_append_of_ends`: the lines in front of a line and behind it.
* `getLast?_shown_eq_some_iff`: what the last line that is not blank is.
* `lastErrorLine_of_output`: the line that is taken from an error output.
-/

namespace Phrasebook

namespace Text

/-! ## Blank lines -/

theorem isBlankText_dropReturn (part : List Char) :
    isBlankText (dropReturn part) = isBlankText part := by
  rw [dropReturn]
  split
  · next hreturn =>
    obtain ⟨line, rfl⟩ := List.getLast?_eq_some_iff.1 hreturn
    have hblank : isBlank '\r' = true := by decide
    simp [isBlankText, hblank]
  · rfl

theorem all_isBlankText_splitAt {sep : Char} (hsep : isBlank sep = true) (s : List Char) :
    (splitAt sep s).all isBlankText = isBlankText s := by
  induction s with
  | nil => rfl
  | cons c s ih =>
    obtain ⟨part, parts, hparts⟩ := List.exists_cons_of_ne_nil (splitAt_ne_nil sep s)
    rw [hparts] at ih
    by_cases hc : c = sep
    · rw [splitAt, if_pos hc, hparts, List.all_cons, ih]
      simp [isBlankText, hc, hsep]
    · have hsplit : splitAt sep (c :: s) = (c :: part) :: parts := by
        rw [splitAt, if_neg hc, hparts]
      have hs : isBlankText s = (part.all isBlank && parts.all isBlankText) := ih.symm
      rw [hsplit, List.all_cons, isBlankText, List.all_cons, Bool.and_assoc, ← hs]
      rfl

/-- The lines of a text are blank exactly if the text is: line breaks are blanks. -/
theorem all_isBlankText_lines (s : List Char) : (lines s).all isBlankText = isBlankText s := by
  have hparts : (splitAt '\n' s).dropLast ++ (splitAt '\n' s).getLast?.toList = splitAt '\n' s := by
    rcases List.eq_nil_or_concat (splitAt '\n' s) with hnil | ⟨parts, last, hsplit⟩
    · exact absurd hnil (splitAt_ne_nil '\n' s)
    · simp [hsplit]
  have hdrop : isBlankText ∘ dropReturn = isBlankText := funext isBlankText_dropReturn
  have hblank : isBlank '\n' = true := by decide
  rw [← all_isBlankText_splitAt hblank s, lines, List.all_append, List.all_map, hdrop,
    ← List.all_append, hparts]

/-! ## The lines around a line -/

theorem lines_append_of_starts {front : List Char} (h : Starts front) :
    ∃ before, before.length = front.count '\n' ∧ ∀ t, lines (front ++ t) = before ++ lines t := by
  induction hcount : front.count '\n' generalizing front with
  | zero =>
    rw [eq_nil_of_starts h hcount]
    exact ⟨[], rfl, fun _ => rfl⟩
  | succ n ih =>
    have hmem : '\n' ∈ front := List.count_pos_iff.1 (by omega)
    obtain ⟨part, rest, rfl, hpart⟩ := List.eq_append_cons_of_mem hmem
    rw [List.count_append, List.count_eq_zero_of_not_mem hpart, List.count_cons_self] at hcount
    obtain ⟨before, hlength, hlines⟩ := ih ((starts_append_iff part rest).1 h) (by omega)
    refine ⟨dropReturn part :: before, by rw [List.length_cons, hlength], fun t => ?_⟩
    rw [List.append_assoc, List.cons_append, lines_append hpart, hlines, List.cons_append]

theorem lines_append_of_ends {line back : List Char} (h : '\n' ∉ line) (hends : Ends line back) :
    ∃ after, lines (line ++ back) = line :: after ∧ after.all isBlankText = isBlankText back := by
  rcases hends with rfl | ⟨rest, rfl, hreturn⟩ | ⟨rest, rfl⟩
  · exact ⟨[], by rw [List.append_nil, lines_of_not_mem h], rfl⟩
  · refine ⟨lines rest, by rw [lines_append h, dropReturn, if_neg hreturn], ?_⟩
    rw [all_isBlankText_lines]
    rfl
  · have hpart : '\n' ∉ line ++ ['\r'] := by simp [h]
    refine ⟨lines rest, ?_, ?_⟩
    · rw [List.append_cons line, lines_append hpart, dropReturn_append]
    · rw [all_isBlankText_lines]
      rfl

/-! ## The last line that is not blank -/

/-- The line stands between two parts of a text, as a whole line that is not blank, and only blanks
follow. -/
structure LastShown (s line front back : List Char) : Prop where
  whole : s = front ++ (line ++ back)
  starts : Starts front
  ends : Ends line back
  newline_notMem : '\n' ∉ line
  not_blank : isBlankText line = false
  blank_after : isBlankText back = true

/-- Of the lines that are not blank, the last one is the one that `LastShown` describes. -/
theorem getLast?_shown_eq_some_iff {s line : List Char} :
    ((lines s).filter (!isBlankText ·)).getLast? = some line ↔
      ∃ front back, LastShown s line front back := by
  rw [List.getLast?_filter, List.find?_eq_some_iff_append]
  constructor
  · rintro ⟨hline, after, before, hreverse, hafter⟩
    have hlines : lines s = before.reverse ++ line :: after.reverse := by
      rw [← List.reverse_reverse (lines s), hreverse]
      simp
    have hget : (lines s)[before.reverse.length]? = some line := by
      rw [hlines]
      simp
    obtain ⟨front, back, rfl, hcount, hstarts, hnewline, hends⟩ :=
      getElem?_lines_eq_some_iff.1 hget
    obtain ⟨before', hlength, hfront⟩ := lines_append_of_starts hstarts
    obtain ⟨after', hback, hblank⟩ := lines_append_of_ends hnewline hends
    rw [hfront, hback] at hlines
    obtain ⟨-, htail⟩ := List.append_inj hlines (by rw [hlength, hcount])
    refine ⟨front, back, rfl, hstarts, hends, hnewline, by simpa using hline, ?_⟩
    rw [← hblank, (List.cons.inj htail).2, List.all_reverse, List.all_eq_true]
    intro part hpart
    simpa using hafter part hpart
  · rintro ⟨front, back, rfl, hstarts, hends, hnewline, hline, hblank⟩
    obtain ⟨before, -, hfront⟩ := lines_append_of_starts hstarts
    obtain ⟨after, hback, hafter⟩ := lines_append_of_ends hnewline hends
    rw [hblank, List.all_eq_true] at hafter
    refine ⟨by simp [hline], after.reverse, before.reverse, ?_, ?_⟩
    · rw [hfront, hback]
      simp
    · intro part hpart
      simp [hafter part (List.mem_reverse.1 hpart)]

theorem filter_lines_eq_nil_iff {s : List Char} :
    (lines s).filter (!isBlankText ·) = [] ↔ isBlankText s = true := by
  rw [← all_isBlankText_lines, List.all_eq_true, List.filter_eq_nil_iff]
  simp

end Text

open Phrasebook.Text

/-! ## Error outputs -/

theorem lastErrorLine_of_isBlankText {e : String} (h : isBlankText e.toList = true) :
    lastErrorLine e = "" := by
  rw [lastErrorLine, filter_lines_eq_nil_iff.2 h]
  rfl

/-- An error output that is not blank has a last line that is not. -/
theorem exists_lastShown {e : String} (h : isBlankText e.toList = false) :
    ∃ front back, LastShown e.toList (lastErrorLine e).toList front back := by
  have hne : (lines e.toList).filter (!isBlankText ·) ≠ [] := by
    rw [Ne, filter_lines_eq_nil_iff, h]
    decide
  obtain ⟨line, hline⟩ := Option.ne_none_iff_exists'.1 (mt List.getLast?_eq_none_iff.1 hne)
  have hlast : (lastErrorLine e).toList = line := by
    rw [lastErrorLine, hline, Option.getD_some, String.toList_ofList]
  rw [hlast]
  exact getLast?_shown_eq_some_iff.1 hline

theorem eq_of_lastShown {e : String} {line front back : List Char}
    (h : LastShown e.toList line front back) : line = (lastErrorLine e).toList := by
  rw [lastErrorLine, getLast?_shown_eq_some_iff.2 ⟨front, back, h⟩, Option.getD_some,
    String.toList_ofList]

theorem lastErrorLine_eq_empty_iff {e : String} :
    lastErrorLine e = "" ↔ isBlankText e.toList = true := by
  constructor
  · intro hempty
    by_contra hblank
    obtain ⟨front, back, hlast⟩ := exists_lastShown (Bool.eq_false_iff.2 hblank)
    have hshown := hlast.not_blank
    rw [hempty] at hshown
    cases hshown
  · exact lastErrorLine_of_isBlankText

/-- The line that is taken from an error output is empty exactly if the output is blank. Otherwise
it is the one whole line of the output that is not blank and that only blanks follow. The report of
a failed run names it, and names the exit code exactly if the output is blank. -/
theorem lastErrorLine_of_output (e : String) :
    (lastErrorLine e = "" ↔ ∀ c ∈ e.toList, isBlank c = true) ∧
    ((∃ c ∈ e.toList, isBlank c = false) →
      (∃ front back, LastShown e.toList (lastErrorLine e).toList front back) ∧
      ∀ line front back, LastShown e.toList line front back → line = (lastErrorLine e).toList) ∧
    ∀ exitCode stdout truncated, ∃ reason,
      Command.executionReport (.failed exitCode stdout e truncated) =
        Command.outputEvents stdout truncated ++
          [Console.error ("Error: " ++ reason),
            Console.warn "Make sure to create variables before using them"] ∧
      ((∀ c ∈ e.toList, isBlank c = true) →
        reason = "exit code " ++ Command.exitCodeText exitCode) ∧
      ((∃ c ∈ e.toList, isBlank c = false) → reason = lastErrorLine e) := by
  have hempty : lastErrorLine e = "" ↔ ∀ c ∈ e.toList, isBlank c = true := by
    rw [lastErrorLine_eq_empty_iff, isBlankText, List.all_eq_true]
  have hshown : (∃ c ∈ e.toList, isBlank c = false) → isBlankText e.toList = false := by
    rintro ⟨c, hc, hblank⟩
    exact List.all_eq_false.2 ⟨c, hc, by simp [hblank]⟩
  refine ⟨hempty, fun h => ⟨exists_lastShown (hshown h), fun _ _ _ => eq_of_lastShown⟩, ?_⟩
  intro exitCode stdout truncated
  refine ⟨Command.failureReason exitCode e, rfl, fun h => ?_, fun h => ?_⟩
  · rw [Command.failureReason, if_pos (hempty.2 h)]
    rfl
  · have hne : lastErrorLine e ≠ "" := by
      rw [Ne, lastErrorLine_eq_empty_iff, hshown h]
      decide
    rw [Command.failureReason, if_neg hne]

/-- A carriage return that belongs to no line break stays in the line. The blank lines behind it are
passed over, also one that holds a line separator. -/
theorem lastErrorLine_of_returns :
    let e := "Traceback\r\nNameError: x\r\r\n\u2028 \r\n"
    (∃ c ∈ e.toList, isBlank c = false) ∧ lastErrorLine e = "NameError: x\r" ∧
      Command.executionReport (.failed (some 1) "" e false) =
        [Console.error "Error: NameError: x\r",
          Console.warn "Make sure to create variables before using them"] := by
  intro e
  have hshown : ∃ c ∈ e.toList, isBlank c = false := ⟨'T', by decide, by decide⟩
  obtain ⟨-, hlast, hreport⟩ := lastErrorLine_of_output e
  obtain ⟨reason, hevents, -, hreason⟩ := hreport (some 1) "" false
  have hplace : LastShown e.toList "NameError: x\r".toList "Traceback\r\n".toList
      "\r\n\u2028 \r\n".toList :=
    ⟨by decide, .inr (by decide), .inr (.inr ⟨_, rfl⟩), by decide, by decide, by decide⟩
  have hline : lastErrorLine e = "NameError: x\r" :=
    (String.toList_inj.1 ((hlast hshown).2 _ _ _ hplace)).symm
  refine ⟨hshown, hline, ?_⟩
  rw [hevents, hreason hshown, hline]
  rfl

end Phrasebook
