import Phrasebook.Proofs.Literal.Fault
import Phrasebook.Proofs.Snippet.Rendering
import Phrasebook.Proofs.Text.Ranges

/-!
# Snippets that cannot be rendered

The captures of a standard rule are held by the slots of its snippet. Then only two kinds of snippet
can fail: a dictionary with a faulty piece, and a comparison whose left side is no operand.

Results:
* `ofCapture?_eq`: which texts of a name slot are operands.
* `exists_render_eq_ok`: every other kind of snippet is rendered.
* `render_createDictionary_of_firstFaulty`, `render_conditional_of_notOperand`: how the two fail.
-/

namespace Phrasebook

open Phrasebook.Text

/-! ## Operands -/

/-- The text is neither an integer nor a variable: it is not made of ASCII digits, and it starts
with a number or is a reserved word. -/
def NotOperand (v : List Char) : Prop :=
  ¬ AllDigits v ∧ ((∃ c, v.head? = some c ∧ isNumber c = true) ∨
    String.ofList v ∈ Snippet.reservedWords)

/-- A character of a name slot starts a name iff it is no number. -/
theorem isNameStart_iff {c : Char} (h : Slot.name.admits c = true) :
    Snippet.isNameStart c = true ↔ ¬ isNumber c = true := by
  have hunderscore : isNumber '_' = false := by decide
  simp only [Snippet.isNameStart, Slot.admits, Bool.or_eq_true, beq_iff_eq] at h ⊢
  constructor
  · rintro (hletter | rfl)
    · exact not_isNumber_of_isLetter hletter
    · rw [hunderscore]
      decide
  · intro hnumber
    rcases h with (hletter | h) | h
    · exact .inl hletter
    · exact absurd h hnumber
    · exact .inr h

/-- A text of a name slot is a name iff it does not start with a number. -/
theorem isName_iff {v : List Char} (h : Slot.name.Holds v) :
    Snippet.isName v = true ↔ ¬ ∃ c, v.head? = some c ∧ isNumber c = true := by
  obtain ⟨hne, hall⟩ := h
  obtain ⟨c, v, rfl⟩ := List.exists_cons_of_ne_nil hne
  have hparts : v.all Snippet.isNamePart = true :=
    List.all_eq_true.2 fun d hd => hall d (List.mem_cons_of_mem c hd)
  rw [Snippet.isName, hparts, Bool.and_true, isNameStart_iff (hall c List.mem_cons_self)]
  simp

/-- The left side of a comparison, by what its text is. -/
theorem ofCapture?_eq {c : Capture} (h : Slot.name.Holds c.text.toList) :
    (NotOperand c.text.toList ∧ Snippet.Operand.ofCapture? c =
      .error (.malformed (.invalidVariable c.text c.start))) ∨
    (¬ NotOperand c.text.toList ∧ ∃ o, Snippet.Operand.ofCapture? c = .ok o) := by
  have hdigits : (!c.text.toList.isEmpty && c.text.toList.all isDigit) = true ↔
      AllDigits c.text.toList := by
    simp [AllDigits]
  have hname : (Snippet.isName c.text.toList && !Snippet.reservedWords.contains c.text) = true ↔
      ¬ ((∃ d, c.text.toList.head? = some d ∧ isNumber d = true) ∨
        c.text ∈ Snippet.reservedWords) := by
    rw [Bool.and_eq_true, isName_iff h, not_or]
    simp
  rw [Snippet.Operand.ofCapture?, NotOperand, String.ofList_toList]
  split
  · next hd =>
    rw [hdigits] at hd
    rw [integer_of_holds hd]
    exact .inr ⟨fun hno => hno.1 hd, _, rfl⟩
  · next hd =>
    rw [hdigits] at hd
    split
    · next hn => exact .inr ⟨fun hno => hname.1 hn hno.2, _, rfl⟩
    · next hn => exact .inl ⟨⟨hd, not_not.1 fun hno => hn (hname.2 hno)⟩, rfl⟩

/-! ## Rendering -/

section Rendering

variable {a b c : Capture} (catalog : List CatalogEntry)

/-- Every snippet but a dictionary or a comparison is rendered for the captures of its slots. -/
theorem exists_render_eq_ok {k : Snippet} (hd : k ≠ .createDictionary) (hc : k ≠ .conditional)
    {cs : List Capture} (hcs : List.Forall₂ (fun k c => Slot.Holds k c.text.toList) k.slots cs) :
    ∃ code, k.render cs catalog = .ok code := by
  cases k with
  | fixed w => exact ⟨_, rfl⟩
  | printRange =>
    rcases hcs with _ | ⟨ha, _ | ⟨hb, ⟨⟩⟩⟩
    simp [Snippet.render, Snippet.captureAt, bind, Except.bind, integer_of_holds ha,
      integerOf_of_holds hb, pure, Except.pure]
  | printText =>
    rcases hcs with _ | ⟨ha, ⟨⟩⟩
    exact ⟨_, rfl⟩
  | arithmetic =>
    rcases hcs with _ | ⟨ha, _ | ⟨hb, _ | ⟨hc, ⟨⟩⟩⟩⟩
    obtain ⟨op, hop⟩ := exists_ofKeyword?_of_mem ha
    simp [Snippet.render, Snippet.captureAt, bind, Except.bind, hop, integer_of_holds hb,
      integer_of_holds hc, pure, Except.pure]
  | createList =>
    rcases hcs with _ | ⟨ha, ⟨⟩⟩
    exact ⟨_, rfl⟩
  | appendToList =>
    rcases hcs with _ | ⟨ha, ⟨⟩⟩
    exact ⟨_, rfl⟩
  | square =>
    rcases hcs with _ | ⟨ha, ⟨⟩⟩
    simp [Snippet.render, Snippet.captureAt, bind, Except.bind, integer_of_holds ha, pure,
      Except.pure]
  | createString =>
    rcases hcs with _ | ⟨ha, ⟨⟩⟩
    exact ⟨_, rfl⟩
  | createDictionary => exact absurd rfl hd
  | conditional => exact absurd rfl hc
  | askInput =>
    rcases hcs with _ | ⟨ha, ⟨⟩⟩
    exact ⟨_, rfl⟩
  | help => exact ⟨_, rfl⟩

theorem render_createDictionary_of_firstFaulty {before : List (List Char)} {piece : List Char}
    (h : FirstFaulty a.text.toList before piece) :
    Snippet.render [a] catalog .createDictionary = .error (.malformed
      (Pair.fault (a.start + units (before.flatMap (· ++ [',']))) piece)) := by
  simp [Snippet.render, Snippet.captureAt, bind, Except.bind, dictionaryPairs_of_firstFaulty h]

theorem exists_render_createDictionary
    (h : ¬ ∃ before piece, FirstFaulty a.text.toList before piece) :
    ∃ code, Snippet.render [a] catalog .createDictionary = .ok code := by
  obtain ⟨es, hes⟩ := exists_dictionaryPairs_eq_ok a.start h
  simp [Snippet.render, Snippet.captureAt, bind, Except.bind, hes, pure, Except.pure]

theorem render_conditional_of_notOperand (ha : Slot.name.Holds a.text.toList)
    (h : NotOperand a.text.toList) :
    Snippet.render [a, b, c] catalog .conditional =
      .error (.malformed (.invalidVariable a.text a.start)) := by
  rcases ofCapture?_eq ha with ⟨-, herror⟩ | ⟨hno, -⟩
  · simp [Snippet.render, Snippet.captureAt, bind, Except.bind, herror]
  · exact absurd h hno

theorem exists_render_conditional (ha : Slot.name.Holds a.text.toList)
    (hb : Slot.number.Holds b.text.toList) (h : ¬ NotOperand a.text.toList) :
    ∃ code, Snippet.render [a, b, c] catalog .conditional = .ok code := by
  rcases ofCapture?_eq ha with ⟨hno, -⟩ | ⟨-, o, ho⟩
  · exact absurd hno h
  · simp [Snippet.render, Snippet.captureAt, bind, Except.bind, ho, integer_of_holds hb, pure,
      Except.pure]

end Rendering

end Phrasebook
