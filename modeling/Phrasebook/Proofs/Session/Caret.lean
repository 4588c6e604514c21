import Phrasebook.Proofs.Console
import Phrasebook.Proofs.Diagnostic.Caret
import Phrasebook.Proofs.Session.Answer

/-!
# The caret in a session

A session shows a failure with the normalized instruction and a caret. No instruction that fails has
a line break in it, so the instruction is one line, and the caret is under what the message quotes.

Results:
* `place_of_translate_eq_error`: the fragment that a failure quotes, as a part of the instruction.
* `answer_of_translate_eq_error`: the answer to a line that cannot be translated.
* `caret_under_fault`: where the caret stands, for any diagnostic and in a session.
-/

namespace Phrasebook

open Phrasebook.Text

/-! ## The instruction is one line -/

theorem newline_notMem_of_holds {k : Slot} {w : List Char} (h : k.Holds w) : '\n' ∉ w := by
  intro hmem
  have hend : isLineEnd '\n' = false := Slot.not_lineEnd_of_admits (h.admits _ hmem)
  exact absurd hend (by decide)

theorem AsksDictionary.newline_notMem {n body : List Char} (h : AsksDictionary n body) :
    '\n' ∉ n := by
  obtain ⟨rfl, hbody⟩ := h
  have hwords : '\n' ∉ "create dictionary ".toList := by decide
  simp only [List.mem_append, not_or]
  exact ⟨hwords, newline_notMem_of_holds hbody⟩

theorem AsksComparison.newline_notMem {n operand number message : List Char}
    (h : AsksComparison n operand number message) : '\n' ∉ n := by
  obtain ⟨rfl, hoperand, hnumber, hmessage⟩ := h
  have hwords : ∀ words ∈ ["if ", " equals ", " then print "], '\n' ∉ words.toList := by decide
  simp only [List.mem_append, not_or]
  exact ⟨hwords _ (by simp), newline_notMem_of_holds hoperand, hwords _ (by simp),
    newline_notMem_of_holds hnumber, hwords _ (by simp), newline_notMem_of_holds hmessage⟩

/-! ## What a failure quotes -/

/-- The message of a report quotes one fragment. -/
theorem Quotes.unique {d : Diagnostic} {a b : List Char} (ha : Quotes d a) (hb : Quotes d b) :
    a = b := by
  have heq := congrArg String.toList (ha.symm.trans hb)
  simpa only [String.toList_append, String.toList_ofList, List.append_cancel_right_eq,
    List.append_cancel_left_eq] using heq

/-- The text in front of a fragment ends with a blank piece of a dictionary. -/
def EndsWithBlankPiece (n front : List Char) : Prop :=
  ∃ body before piece, AsksDictionary n body ∧ FirstFaulty body before piece ∧
    (∀ c ∈ piece, isBlank c = true) ∧
    front = "create dictionary ".toList ++ (before.flatMap (· ++ [',']) ++ piece)

/-- A failure starts where the fragment that its message quotes stands in the instruction. The
fragment is empty only where it would stand behind a blank piece of a dictionary. -/
theorem place_of_translate_eq_error {s : String} {e : TranslationError}
    (h : standardRules.translate s = .error e) :
    ∃ id d fragment front back, e = .synthesis id d ∧ Quotes d fragment ∧
      (normalize s).toList = front ++ (fragment ++ back) ∧
      d.span.start = ⟨1, (units front : Int) + 1⟩ ∧
      (fragment = [] → EndsWithBlankPiece (normalize s).toList front) := by
  rcases eq_of_translate_eq_error h with ⟨body, before, piece, hasks, hfirst, rfl⟩ |
    ⟨operand, number, message, hasks, -, rfl⟩
  · obtain ⟨rest, hn⟩ := dictionary_split hasks hfirst
    have hwords : units "create dictionary ".toList = 18 := by decide
    refine ⟨_, _, trim piece,
      "create dictionary ".toList ++ (before.flatMap (· ++ [',']) ++ piece.takeWhile isBlank),
      rest, rfl, quotes_fault _ piece, by rw [hn, ← List.append_assoc], ?_, fun hnil => ?_⟩
    · rw [span_fault, spanOf, units_append, units_append, hwords, Nat.add_assoc]
    · have hblank : ∀ c ∈ piece, isBlank c = true := List.all_eq_true.1 (trim_eq_nil_iff.1 hnil)
      exact ⟨body, before, piece, hasks, hfirst, hblank,
        by rw [List.takeWhile_eq_self_iff.2 hblank]⟩
  · refine ⟨_, _, operand, "if ".toList,
      " equals ".toList ++ (number ++ (" then print ".toList ++ message)), rfl,
      quotes_invalidVariable operand 3, hasks.1, ?_, fun hnil => absurd hnil hasks.2.1.1⟩
    rw [show (3 : Int) = (3 : Nat) from rfl, span_invalidVariable]
    rfl

/-- An instruction that cannot be translated is one line. It is not blank and ends no session. -/
theorem oneLine_of_translate_eq_error {s : String} {e : TranslationError}
    (h : standardRules.translate s = .error e) :
    '\n' ∉ (normalize s).toList ∧ normalize s ≠ "" ∧ ¬ Session.Leaves s := by
  have hhead : '\n' ∉ (normalize s).toList ∧
      ((normalize s).toList.head? = some 'c' ∨ (normalize s).toList.head? = some 'i') := by
    rcases eq_of_translate_eq_error h with ⟨body, before, piece, hasks, -, -⟩ |
      ⟨operand, number, message, hasks, -, -⟩
    · exact ⟨hasks.newline_notMem, .inl (by rw [hasks.1]; rfl)⟩
    · exact ⟨hasks.newline_notMem, .inr (by rw [hasks.1]; rfl)⟩
  obtain ⟨hline, hhead⟩ := hhead
  refine ⟨hline, ?_, fun hleaves => ?_⟩
  · intro hempty
    rw [hempty] at hhead
    exact absurd hhead (by decide)
  · rw [Session.Leaves, lowered_trimmed] at hleaves
    have hwords : ∀ w ∈ ["exit", "quit", "q"],
        ¬ (w.toList.head? = some 'c' ∨ w.toList.head? = some 'i') := by decide
    exact hwords _ hleaves hhead

namespace Session

/-- The answer to a line that cannot be translated: an error with the normalized instruction, and
nothing else but log records. -/
theorem answer_of_translate_eq_error {line : String} {id : String} {d : Diagnostic}
    (h : standardRules.translate line = .error (.synthesis id d)) (settings : Settings)
    (options : Options) (runner : Runner) :
    answer settings options runner line =
      { events :=
          Console.records (standardRules.translationRecords settings line) ++
            [.line .error ("\x1b[31m✗\x1b[0m " ++ d.display (normalize line))]
        result := .ok .stay } := by
  obtain ⟨-, hblank, hstay⟩ := oneLine_of_translate_eq_error h
  rw [answer_eq hstay hblank, h, ← Console.error_eq]

end Session

/-- The failure of a line, shown with its normal form: the caret is under the fragment that the
message quotes. -/
theorem pointsAt_of_translate_eq_error {line : String} {id : String} {d : Diagnostic}
    (h : standardRules.translate line = .error (.synthesis id d)) {front : List Char}
    (hstart : d.span.start = ⟨1, (units front : Int) + 1⟩) :
    Diagnostic.PointsAt (d.display (normalize line)) d.firstLine 1 (normalize line).toList
      (units front) := by
  obtain ⟨hline, hblank, -⟩ := oneLine_of_translate_eq_error h
  have hfirst : LineAt (normalize line).toList (d.span.start.line - 1).toNat
      (normalize line).toList := by
    rw [hstart]
    exact ⟨[], [], by simp, rfl, .inl rfl, hline, .inl rfl⟩
  have hoffset : (d.span.start.col - 1).toNat = units front := by
    rw [hstart]
    dsimp only
    omega
  have hpoints := Diagnostic.pointsAt_display (by rw [hstart]) hfirst
    (String.toList_eq_nil_iff.not.2 hblank)
  rwa [hoffset, hstart] at hpoints

/-- The caret stands under the column where a diagnostic starts, one line below it, whatever the
number of the line. In a session the line is the normalized instruction as a whole: a line that
cannot be translated has a single error for an answer, and the caret is under the first unit of what
the message quotes, or right behind the blank piece that it would quote. -/
theorem caret_under_fault :
    (∀ (d : Diagnostic) (source : String) (line : List Char),
      1 ≤ d.span.start.line → 1 ≤ d.span.start.col →
      LineAt source.toList (d.span.start.line - 1).toNat line → line ≠ [] →
      ∃ text, d.display? (some source) = .ok text ∧ Diagnostic.PointsAt text d.firstLine
        d.span.start.line line (d.span.start.col - 1).toNat) ∧
    ∀ (line : String) (e : TranslationError), standardRules.translate line = .error e →
      ∃ id d fragment front back text, e = .synthesis id d ∧ Quotes d fragment ∧
        (normalize line).toList = front ++ (fragment ++ back) ∧
        d.span.start = ⟨1, (units front : Int) + 1⟩ ∧
        (fragment = [] → EndsWithBlankPiece (normalize line).toList front) ∧
        Diagnostic.PointsAt text d.firstLine 1 (normalize line).toList (units front) ∧
        ∀ settings options runner, Session.answer settings options runner line =
          { events :=
              Console.records (standardRules.translationRecords settings line) ++
                [.line .error ("\x1b[31m✗\x1b[0m " ++ text)]
            result := .ok .stay } := by
  refine ⟨fun d source line hnumber hcol hline hne => ?_, fun line e h => ?_⟩
  · exact ⟨d.display source, Diagnostic.display?_of_col hcol source,
      Diagnostic.pointsAt_display hnumber hline hne⟩
  · obtain ⟨id, d, fragment, front, back, rfl, hquotes, hn, hstart, hempty⟩ :=
      place_of_translate_eq_error h
    exact ⟨id, d, fragment, front, back, d.display (normalize line), rfl, hquotes, hn, hstart,
      hempty, pointsAt_of_translate_eq_error h hstart, Session.answer_of_translate_eq_error h⟩

/-- Line 10 of a text with CR and LF between its lines, behind a character of two units; and a blank
piece between two others, one of which has no colon either. -/
theorem caret_under_fault_blank :
    let d : Diagnostic := ⟨.error, "N001", "m", ⟨⟨10, 3⟩, ⟨10, 4⟩⟩⟩
    let source := "1\r\n2\r\n3\r\n4\r\n5\r\n6\r\n7\r\n8\r\n\r\n😀bc\r\n"
    let line := "  Create dictionary a:1, ,b"
    let answered := "error N001: Expected exactly one ':' in dictionary pair '' at 1:24" ++
      "\n> 1| create dictionary a:1, ,b" ++
      "\n>                           ^"
    d.display? (some source) = .ok "error N001: m at 10:3\n> 10| 😀bc\n>       ^" ∧
    (∃ front, EndsWithBlankPiece (normalize line).toList front ∧ units front = 23) ∧
    (Session.answer (.ofEnvironment []) {} (fun _ => .ok {}) line).events =
      Console.records (standardRules.translationRecords (.ofEnvironment []) line) ++
        [.line .error ("\x1b[31m✗\x1b[0m " ++ answered)] := by
  intro d source line answered
  have hline : LineAt source.toList 9 "😀bc".toList :=
    ⟨"1\r\n2\r\n3\r\n4\r\n5\r\n6\r\n7\r\n8\r\n\r\n".toList, "\r\n".toList, by decide, by decide,
      .inr (by decide), by decide, .inr (.inr ⟨[], rfl⟩)⟩
  have hnormal : (normalize line).toList = "create dictionary a:1, ,b".toList := by decide +kernel
  have htranslate : standardRules.translate line =
      .error (.synthesis "create-dictionary" (.malformedPair "" 23)) := by
    rw [standardRules_eq_map]
    decide +kernel
  obtain ⟨hdisplay, hsession⟩ := caret_under_fault
  obtain ⟨shown, hshown, hmarked⟩ := hdisplay d source _ (by decide) (by decide) hline (by decide)
  have htext : shown = "error N001: m at 10:3\n> 10| 😀bc\n>       ^" :=
    hmarked.unique ⟨List.replicate 7 ' ', by decide, fun _ => List.eq_of_mem_replicate, by decide⟩
  obtain ⟨id, e, fragment, front, back, text, he, hquotes, -, hstart, hempty, hpoints, hanswer⟩ :=
    hsession line _ htranslate
  cases he
  have hfragment : fragment = [] := hquotes.unique rfl
  have hfront : units front = 23 := by
    have hcol : (24 : Int) = units front + 1 := congrArg Position.col hstart
    omega
  rw [hnormal, hfront] at hpoints
  have hanswered : text = answered :=
    hpoints.unique
      ⟨List.replicate 27 ' ', by decide +kernel, fun _ => List.eq_of_mem_replicate, by decide⟩
  exact ⟨hshown.trans (congrArg _ htext), ⟨front, hempty hfragment, hfront⟩,
    by rw [hanswer, hanswered]⟩

end Phrasebook
