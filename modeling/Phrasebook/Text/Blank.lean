/-!
# Blanks

The blank characters: the white space of Unicode's category `Zs`, the tab and line-break controls,
the two separators U+2028 and U+2029, and the zero-width no-break space U+FEFF. Trimming removes
blanks at both ends of a text and nothing else.

`head_dropWhile_isBlank` and `getLast_trimEnd` say that what is left does not start or end with a
blank.
-/

namespace Phrasebook.Text

/-- A blank character. -/
def isBlank (c : Char) : Bool :=
  (0x09 ≤ c.toNat && c.toNat ≤ 0x0D) || c.toNat == 0x20 || c.toNat == 0xA0 || c.toNat == 0x1680 ||
  (0x2000 ≤ c.toNat && c.toNat ≤ 0x200A) || c.toNat == 0x2028 || c.toNat == 0x2029 ||
  c.toNat == 0x202F || c.toNat == 0x205F || c.toNat == 0x3000 || c.toNat == 0xFEFF

/-- The text without the blanks at its start. -/
def trimStart (s : List Char) : List Char := s.dropWhile isBlank

/-- The text without the blanks at its end. -/
def trimEnd (s : List Char) : List Char := (s.reverse.dropWhile isBlank).reverse

/-- The text without the blanks at its ends. -/
def trim (s : List Char) : List Char := trimEnd (trimStart s)

/-- The text holds blanks only. -/
def isBlankText (s : List Char) : Bool := s.all isBlank

theorem head_dropWhile_isBlank {s : List Char} {c : Char}
    (h : (s.dropWhile isBlank).head? = some c) : isBlank c = false := by
  simpa [h] using List.head?_dropWhile_not isBlank s

theorem getLast_trimEnd {s : List Char} {c : Char} (h : (trimEnd s).getLast? = some c) :
    isBlank c = false := by
  rw [trimEnd, List.getLast?_reverse] at h
  exact head_dropWhile_isBlank h

example : isBlank '\t' ∧ isBlank (Char.ofNat 0xA0) ∧ isBlank (Char.ofNat 0xFEFF) := by decide

example : ¬ isBlank (Char.ofNat 0x85) ∧ ¬ isBlank (Char.ofNat 0x200B) ∧
    ¬ isBlank (Char.ofNat 0x180E) := by decide

end Phrasebook.Text
