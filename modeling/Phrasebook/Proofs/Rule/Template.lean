import Phrasebook.Proofs.Pattern.Takes
import Phrasebook.Snippet

/-!
# Templates

A template is a row of fixed words and slots; an instruction fits it if it is the template with its
slots filled. `Fills t o s cs` says so of the text `s` that starts at offset `o`, and `cs` are the
contents of the slots.

Results:
* `Fills.unique`: in a template whose slots are delimited, the filling is determined by the text.
* `Fills.not_lineEnd`: no character of a text that fits ends a line.
* `Fills.forall₂_holds`, `Fills.map_capture`: each capture is held by its slot and is a slice of the
  instruction.
-/

namespace Phrasebook

open Phrasebook.Text

/-! ## Slots -/

/-- The kinds of slot, by the texts that they hold. -/
inductive Slot where
  /-- One of the four keywords of arithmetic. -/
  | keyword
  /-- One or more ASCII digits. -/
  | number
  /-- One or more letters, numbers and underscores, of any script. -/
  | name
  /-- One or more characters, none of which ends a line. -/
  | text
  deriving DecidableEq, Repr

/-- The characters that end a line. -/
def lineEnds : List Char := ['\n', '\r', Char.ofNat 0x2028, Char.ofNat 0x2029]

/-- The character ends a line. -/
def isLineEnd (c : Char) : Bool := lineEnds.contains c

/-- The words that ask for an operation of arithmetic. -/
def arithmeticKeywords : List (List Char) :=
  ["add".toList, "subtract".toList, "multiply".toList, "divide".toList]

namespace Slot

/-- The characters that can stand in a slot. -/
def admits : Slot → Char → Bool
  | .keyword, c => 'a' ≤ c && c ≤ 'z'
  | .number, c => isDigit c
  | .name, c => isLetter c || isNumber c || c == '_'
  | .text, c => !isLineEnd c

/-- The texts that can stand in a slot. -/
def Holds : Slot → List Char → Prop
  | .keyword, w => w ∈ arithmeticKeywords
  | k, w => w ≠ [] ∧ ∀ c ∈ w, k.admits c = true

/-- No slot admits a character that ends a line. -/
theorem not_lineEnd_of_admits {k : Slot} {c : Char} (h : k.admits c = true) :
    isLineEnd c = false := by
  have hall : (lineEnds.all fun c => !k.admits c) = true := by
    cases k <;> decide +kernel
  by_contra hc
  have hmem : c ∈ lineEnds := by simpa [isLineEnd] using hc
  have hno := List.all_eq_true.1 hall c hmem
  rw [h] at hno
  exact absurd hno (by decide)

theorem Holds.admits {k : Slot} {w : List Char} (h : k.Holds w) : ∀ c ∈ w, k.admits c = true := by
  cases k with
  | keyword =>
    have hall : (arithmeticKeywords.all fun v => v.all Slot.keyword.admits) = true := by decide
    exact List.all_eq_true.1 (List.all_eq_true.1 hall w h)
  | number => exact h.2
  | name => exact h.2
  | text => exact h.2

end Slot

/-! ## Templates -/

/-- A part of a template. -/
inductive Part where
  | words (w : String)
  | slot (k : Slot)
  deriving DecidableEq, Repr

/-- A row of fixed words and slots. -/
abbrev Template := List Part

/-- The text that starts at the offset is the template with its slots filled by the captures. -/
inductive Fills : Template → Nat → List Char → List Capture → Prop
  | nil (o : Nat) : Fills [] o [] []
  | words {w : String} {t : Template} {o : Nat} {s : List Char} {cs : List Capture}
      (h : Fills t (o + units w.toList) s cs) : Fills (.words w :: t) o (w.toList ++ s) cs
  | slot {k : Slot} {w : List Char} {t : Template} {o : Nat} {s : List Char} {cs : List Capture}
      (hw : k.Holds w) (h : Fills t (o + units w) s cs) :
      Fills (.slot k :: t) o (w ++ s) (⟨String.ofList w, o⟩ :: cs)

/-- The mark that a capture comes from. -/
def Capture.mark (c : Capture) : Option Mark := some (c.start, c.start + units c.text.toList)

namespace Template

/-- The number of slots. -/
def slots : Template → Nat
  | [] => 0
  | .words _ :: t => slots t
  | .slot _ :: t => slots t + 1

/-- The kinds of the slots, in order. -/
def kinds : Template → List Slot
  | [] => []
  | .words _ :: t => kinds t
  | .slot k :: t => k :: kinds t

/-- What follows a slot ends it: fixed words up to the end, or a character that the slot does not
admit. -/
def delimits (k : Slot) : Template → Bool
  | [] => true
  | .words w :: t => ((w.toList.head?.map fun c => !k.admits c).getD false) || (slots t == 0)
  | .slot _ :: _ => false

/-- Every slot is delimited. -/
def delimited : Template → Bool
  | [] => true
  | .words _ :: t => delimited t
  | .slot k :: t => delimits k t && delimited t

/-- No fixed word ends a line. -/
def oneLine : Template → Bool
  | [] => true
  | .words w :: t => w.toList.all (!isLineEnd ·) && oneLine t
  | .slot _ :: t => oneLine t

end Template

/-! ## The filling is determined by the text -/

namespace Fills

/-- A template without slots is one fixed text. -/
theorem eq_of_slots_eq_zero {t : Template} (ht : t.slots = 0) {o o' : Nat} {s s' : List Char}
    {cs cs' : List Capture} (h : Fills t o s cs) (h' : Fills t o' s' cs') : s = s' := by
  induction h generalizing o' s' cs' with
  | nil o => cases h'; rfl
  | words h ih =>
    cases h' with
    | words h' => rw [ih ht h']
  | slot hw h ih => simp [Template.slots] at ht

/-- The longest start of a text that a slot admits, if what follows is not admitted. -/
theorem takeWhile_admits {k : Slot} {w r : List Char} (hw : ∀ c ∈ w, k.admits c = true)
    (hr : (r.head?.map fun c => !k.admits c).getD false = true) :
    (w ++ r).takeWhile k.admits = w := by
  rw [List.takeWhile_append_of_pos hw]
  cases r with
  | nil => simp at hr
  | cons c r =>
    have hc : k.admits c = false := by simpa using hr
    simp [hc]

/-- A text behind a delimited slot leaves only one way to fill the slot. -/
theorem slot_unique {k : Slot} {t : Template} (ht : t.delimits k = true) {o o' : Nat}
    {w w' s s' : List Char} {cs cs' : List Capture} (hw : k.Holds w) (hw' : k.Holds w')
    (h : Fills t o s cs) (h' : Fills t o' s' cs') (he : w ++ s = w' ++ s') : w = w' := by
  cases h with
  | nil o =>
    cases h'
    simpa using he
  | @words v t _ s _ h =>
    cases h' with
    | @words _ _ _ s' _ h' =>
      rcases Bool.or_eq_true_iff.1 ht with hd | hz
      · -- the first fixed character ends the slot on both sides
        have hend : ∀ r, ((v.toList ++ r).head?.map fun c => !k.admits c).getD false = true := by
          intro r
          cases hv : v.toList with
          | nil => simp [hv] at hd
          | cons c u => simpa [hv] using hd
        have := congrArg (List.takeWhile k.admits) he
        rwa [takeWhile_admits hw.admits (hend s), takeWhile_admits hw'.admits (hend s')] at this
      · -- only fixed words follow, so what follows is the same text on both sides
        have hs : s = s' := eq_of_slots_eq_zero (by simpa using hz) h h'
        rw [hs] at he
        exact List.append_cancel_right he
  | slot _ _ => simp [Template.delimits] at ht

/-- In a template whose slots are delimited, the filling is determined by the text. -/
theorem unique {t : Template} (ht : t.delimited = true) {o : Nat} {s : List Char}
    {cs cs' : List Capture} (h : Fills t o s cs) (h' : Fills t o s cs') : cs = cs' := by
  induction h generalizing cs' with
  | nil o => cases h'; rfl
  | @words w t o s cs h ih =>
    generalize hs : w.toList ++ s = s₁ at h'
    cases h' with
    | words h' =>
      rw [List.append_cancel_left hs] at ih h
      exact ih ht h'
  | @slot k w t o s cs hw h ih =>
    obtain ⟨hd, ht⟩ := Bool.and_eq_true_iff.1 ht
    generalize hs : w ++ s = s₁ at h'
    cases h' with
    | slot hw' h' =>
      obtain rfl := slot_unique hd hw hw' h h' hs
      obtain rfl := List.append_cancel_left hs
      rw [ih ht h']

/-- No character of a text that fits ends a line. -/
theorem not_lineEnd {t : Template} (ht : t.oneLine = true) {o : Nat} {s : List Char}
    {cs : List Capture} (h : Fills t o s cs) : ∀ c ∈ s, isLineEnd c = false := by
  induction h with
  | nil o => simp
  | words h ih =>
    obtain ⟨hw, ht⟩ := Bool.and_eq_true_iff.1 ht
    intro c hc
    rcases List.mem_append.1 hc with hc | hc
    · simpa using List.all_eq_true.1 hw c hc
    · exact ih ht c hc
  | slot hw h ih =>
    intro c hc
    rcases List.mem_append.1 hc with hc | hc
    · exact Slot.not_lineEnd_of_admits (hw.admits c hc)
    · exact ih ht c hc

/-- There is one capture for each slot. -/
theorem length_eq {t : Template} {o : Nat} {s : List Char} {cs : List Capture}
    (h : Fills t o s cs) : cs.length = t.slots := by
  induction h with
  | nil o => rfl
  | words h ih => exact ih
  | slot hw h ih => simp [Template.slots, ih]

/-- Each capture is held by its slot. -/
theorem forall₂_holds {t : Template} {o : Nat} {s : List Char} {cs : List Capture}
    (h : Fills t o s cs) : List.Forall₂ (fun k c => k.Holds c.text.toList) t.kinds cs := by
  induction h with
  | nil o => exact .nil
  | words h ih => exact ih
  | slot hw h ih => exact .cons (by rwa [String.toList_ofList]) ih

/-- Each capture is the slice of the instruction at its mark. -/
theorem map_capture {t : Template} {o : Nat} {s : List Char}
    {cs : List Capture} (h : Fills t o s cs) : ∀ pre, units pre = o →
      (cs.map Capture.mark).map (Trigger.capture (pre ++ s)) = cs := by
  induction h with
  | nil o => intro pre _; rfl
  | @words w t o s cs h ih =>
    intro pre hpre
    rw [← List.append_assoc]
    exact ih (pre ++ w.toList) (by rw [units_append, hpre])
  | @slot k w t o s cs hw h ih =>
    intro pre hpre
    have hrest := ih (pre ++ w) (by rw [units_append, hpre])
    rw [List.append_assoc] at hrest
    rw [List.map_cons, List.map_cons, hrest]
    subst hpre
    simp [Capture.mark, Trigger.capture, slice_append]

end Fills

end Phrasebook
