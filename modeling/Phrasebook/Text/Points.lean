import Phrasebook.Text.Utf8

/-!
# Texts as code points

A text of the program can hold lone surrogates: code points from D800 to DFFF that stand for no
character and have no place in a `String`. `Points` is such a text as the list of its code points,
in which the two halves of a pair are one. `points` and `ofPoints` go from one form to the other,
and a lone surrogate becomes U+FFFD.

* `ofPoints_points`: nothing is lost on the way to code points and back.
-/

namespace Phrasebook.Text

/-- A text as its code points, lone surrogates among them. -/
abbrev Points := List Nat

/-- The code points of a text. -/
def points (s : String) : Points := s.toList.map Char.toNat

/-- The code point is half of a pair. -/
def isSurrogate (n : Nat) : Bool := 0xD800 ≤ n && n < 0xE000

/-- The character of a code point; a surrogate has none. -/
def pointChar (n : Nat) : Char := if isSurrogate n then Utf8.replacement else Char.ofNat n

/-- The text of code points. -/
def ofPoints (ns : Points) : String := String.ofList (ns.map pointChar)

/-- The code point of a character is no surrogate. -/
theorem isSurrogate_toNat (c : Char) : isSurrogate c.toNat = false := by
  have hvalid : c.toNat < 0xD800 ∨ 0xDFFF < c.toNat ∧ c.toNat < 0x110000 := c.valid
  simp only [isSurrogate, Bool.and_eq_false_iff, decide_eq_false_iff_not]
  omega

@[simp]
theorem pointChar_toNat (c : Char) : pointChar c.toNat = c := by
  rw [pointChar, isSurrogate_toNat, if_neg Bool.false_ne_true, Char.ofNat_toNat]

@[simp]
theorem ofPoints_points (s : String) : ofPoints (points s) = s := by
  have hchars : pointChar ∘ Char.toNat = id := funext pointChar_toNat
  rw [ofPoints, points, List.map_map, hchars, List.map_id, String.ofList_toList]

theorem points_inj {s t : String} : points s = points t ↔ s = t :=
  ⟨fun h => by rw [← ofPoints_points s, h, ofPoints_points], congrArg points⟩

end Phrasebook.Text
