import Phrasebook.Diagnostic.Display
import Phrasebook.Proofs.Literal.Integer
import Phrasebook.Proofs.Text.Lines
import Phrasebook.Text.Units

/-!
# Where the caret stands

A diagnostic is shown with its source line and with a caret line below. The source line is echoed
behind its number, so the caret has to be moved by as many units as the number has digits. The
digits of a number are one unit each, and so are blanks: the counts of characters that the caret
line is made of are counts of units.

Results:
* `units_numeral`: the units of the digits of a number.
* `PointsAt.unique`: the first line, the source line and the column determine the text.
* `pointsAt_display`: the caret stands under the column where the diagnostic starts.
-/

namespace Phrasebook

open Phrasebook.Text

/-! ## Units -/

theorem unitsOf_of_lt {c : Char} (h : c.toNat < 0x10000) : unitsOf c = 1 := if_pos h

/-- Characters of one unit each. -/
theorem units_eq_length {s : List Char} (h : ∀ c ∈ s, unitsOf c = 1) : units s = s.length := by
  induction s with
  | nil => rfl
  | cons c s ih =>
    obtain ⟨hc, hs⟩ := List.forall_mem_cons.1 h
    rw [units_cons, hc, ih hs, List.length_cons, Nat.add_comm]

theorem units_replicate_blank (n : Nat) : units (List.replicate n ' ') = n := by
  have hblank : ∀ c ∈ List.replicate n ' ', unitsOf c = 1 := by
    intro c hc
    rw [List.eq_of_mem_replicate hc]
    rfl
  rw [units_eq_length hblank, List.length_replicate]

/-- The numeral of a natural number has as many units as digits. -/
theorem units_numeral (n : Nat) :
    units (toString (n : Int)).toList = (toString (n : Int)).toList.length := by
  refine units_eq_length fun c hc => unitsOf_of_lt ?_
  have hdigit : isDigit c = true := by
    rw [show (toString (n : Int)).toList = Nat.toDigits 10 n from
      Integer.toList_numeral_natCast n] at hc
    exact (Integer.allDigits_toDigits n).2 c hc
  have hle := (Integer.toNat_of_isDigit hdigit).2
  omega

namespace Diagnostic

/-! ## Carets -/

/-- The severity, the code, the message and the place of a diagnostic, in one line. -/
def firstLine (d : Diagnostic) : String :=
  (match d.severity with
    | .error => "error"
    | .warning => "warning") ++
    " " ++ d.code ++ ": " ++ d.message ++
    " at " ++ toString d.span.start.line ++ ":" ++ toString d.span.start.col

theorem headline_eq (d : Diagnostic) : d.headline = d.firstLine := by
  obtain ⟨severity, code, message, span⟩ := d
  cases severity <;> simp [headline, firstLine, Severity.name, toString]

/-- What stands in front of a source line that is echoed. -/
def echoHead (number : Int) : List Char := "> ".toList ++ (toString number).toList ++ "| ".toList

/-- Behind its first part the text has two more lines: a source line behind its number, and nothing
but a caret, which has the index that the unit at `offset` of the source line has in the line
above. -/
def PointsAt (text : String) (first : String) (number : Int) (line : List Char) (offset : Nat) :
    Prop :=
  ∃ gap, text.toList =
      first.toList ++ '\n' :: (echoHead number ++ line) ++ '\n' :: ('>' :: gap ++ ['^']) ∧
    (∀ c ∈ gap, c = ' ') ∧ units ('>' :: gap) = units (echoHead number) + offset

/-- There is one text only with a given first line, source line and column. -/
theorem PointsAt.unique {text text' first : String} {number : Int} {line : List Char} {offset : Nat}
    (h : PointsAt text first number line offset) (h' : PointsAt text' first number line offset) :
    text = text' := by
  obtain ⟨gap, htext, hgap, hunits⟩ := h
  obtain ⟨gap', htext', hgap', hunits'⟩ := h'
  have hblanks : ∀ {g : List Char}, (∀ c ∈ g, c = ' ') → g = List.replicate (units g) ' ' := by
    intro g hg
    conv => lhs; rw [List.eq_replicate_of_mem hg]
    rw [units_eq_length fun c hc => by rw [hg c hc]; rfl]
  have hsame : units gap = units gap' := by
    rw [units_cons] at hunits hunits'
    omega
  rw [← String.toList_inj, htext, htext', hblanks hgap, hblanks hgap', hsame]

theorem toList_echoLine (d : Diagnostic) (line : String) :
    (d.echoLine line).toList = echoHead d.span.start.line ++ line.toList := by
  have hline : d.echoLine line = "> " ++ toString d.span.start.line ++ "| " ++ line := rfl
  rw [hline, String.toList_append, String.toList_append, String.toList_append]
  rfl

/-- What stands between the mark of the caret line and the caret. -/
def caretGap (d : Diagnostic) : List Char :=
  List.replicate (1 + (toString d.span.start.line).toList.length + 2 +
    (d.span.start.col - 1).toNat) ' '

theorem toList_caretLine (d : Diagnostic) :
    d.caretLine.toList = '>' :: d.caretGap ++ ['^'] := by
  have hline : d.caretLine = "> " ++ indent (toString d.span.start.line).length ++ "  " ++
    indent (d.span.start.col - 1).toNat ++ "^" := rfl
  rw [hline, caretGap, List.replicate_add, List.replicate_add, List.replicate_add]
  simp only [String.toList_append, indent, String.toList_ofList, String.length_toList]
  rfl

theorem units_caretGap {d : Diagnostic} (hnumber : 1 ≤ d.span.start.line) :
    units ('>' :: d.caretGap) =
      units (echoHead d.span.start.line) + (d.span.start.col - 1).toNat := by
  obtain ⟨n, hn⟩ := Int.eq_ofNat_of_zero_le (show 0 ≤ d.span.start.line by omega)
  have hfront : units "> ".toList = 2 := rfl
  have hback : units "| ".toList = 2 := rfl
  have hmark : unitsOf '>' = 1 := rfl
  rw [units_cons, caretGap, units_replicate_blank, echoHead, hn, units_append, units_append,
    units_numeral, hfront, hback, hmark]
  omega

theorem sourceLine?_of_lineAt {d : Diagnostic} {source : String} {line : List Char}
    (hnumber : 1 ≤ d.span.start.line)
    (hline : LineAt source.toList (d.span.start.line - 1).toNat line) (hne : line ≠ []) :
    d.sourceLine? source = some (String.ofList line) := by
  have hlines := getElem?_lines_eq_some_iff.2 hline
  have hempty : line.isEmpty = false := List.isEmpty_eq_false_iff.2 hne
  have hlow : ¬ d.span.start.line < 1 := by omega
  rw [sourceLine?, if_neg hlow, hlines]
  simp only [Option.filter_some, hempty, Bool.not_false, if_true, Option.map_some]

/-- A diagnostic about a line of the source that is not empty is shown with the source line and with
a caret under the column where the diagnostic starts. -/
theorem pointsAt_display {d : Diagnostic} {source : String} {line : List Char}
    (hnumber : 1 ≤ d.span.start.line)
    (hline : LineAt source.toList (d.span.start.line - 1).toNat line) (hne : line ≠ []) :
    PointsAt (d.display source) d.firstLine d.span.start.line line
      (d.span.start.col - 1).toNat := by
  refine ⟨d.caretGap, ?_, fun c hc => List.eq_of_mem_replicate hc, units_caretGap hnumber⟩
  have htext : d.display source =
      d.firstLine ++ "\n" ++ d.echoLine (String.ofList line) ++ "\n" ++ d.caretLine := by
    rw [display, sourceLine?_of_lineAt hnumber hline hne, ← headline_eq]
    rfl
  rw [htext]
  simp only [String.toList_append, toList_echoLine, toList_caretLine, String.toList_ofList]
  simp

/-- A diagnostic can be shown with a source if it starts at the first column or behind it. -/
theorem display?_of_col {d : Diagnostic} (hcol : 1 ≤ d.span.start.col) (source : String) :
    d.display? (some source) = .ok (d.display source) := by
  have hcolumn : ¬ d.span.start.col < 1 := by omega
  rw [display?, if_neg fun h => hcolumn h.2]

end Diagnostic

end Phrasebook
