import Phrasebook.Json.Parser
import Phrasebook.Json.Printer

/-!
# Quoted strings

A string is read back from its quoted form, whatever its characters: the escapes are those of the
double quote, the backslash and the control characters, and every other character stands for itself.
No quoted form holds a control character, so none holds a line break.

Results:
* `escape_cases`, `stringPoints_escape`: one character.
* `joinSurrogates_toNat`: a string holds no surrogates.
* `stringBody_escape`: a string.
* `not_control_of_mem_quote`: the characters of a quoted form.
-/

namespace Phrasebook.Json

/-! ## One character -/

/-- The four digits of an escape of a control character. -/
theorem codeUnit?_control : ∀ n < 0x20,
    codeUnit? '0' '0' (hexChar (n / 16)) (hexChar n) = some n := by
  decide +kernel

theorem hexChar_of_control : ∀ n < 0x20,
    0x20 ≤ (hexChar (n / 16)).toNat ∧ 0x20 ≤ (hexChar n).toNat := by
  decide +kernel

/-- The forms in which a character stands inside a string. -/
theorem escape_cases (c : Char) :
    (∃ e, escape c = ['\\', e] ∧ e ≠ 'u' ∧ 0x20 ≤ e.toNat ∧ shortEscape? e = some c.toNat) ∨
    (escape c = ['\\', 'u', '0', '0', hexChar (c.toNat / 16), hexChar c.toNat] ∧
      c.toNat < 0x20) ∨
    (escape c = [c] ∧ c ≠ '"' ∧ c ≠ '\\' ∧ 0x20 ≤ c.toNat) := by
  unfold escape
  split
  · next h => exact .inl ⟨'"', rfl, by decide, by decide, by rw [h]; rfl⟩
  split
  · next h => exact .inl ⟨'\\', rfl, by decide, by decide, by rw [h]; rfl⟩
  split
  · next h => exact .inl ⟨'b', rfl, by decide, by decide, by rw [h]; rfl⟩
  split
  · next h => exact .inl ⟨'t', rfl, by decide, by decide, by rw [h]; rfl⟩
  split
  · next h => exact .inl ⟨'n', rfl, by decide, by decide, by rw [h]; rfl⟩
  split
  · next h => exact .inl ⟨'f', rfl, by decide, by decide, by rw [h]; rfl⟩
  split
  · next h => exact .inl ⟨'r', rfl, by decide, by decide, by rw [h]; rfl⟩
  split
  · next h => exact .inr (.inl ⟨rfl, h⟩)
  · next hquote hslash _ _ _ _ _ h => exact .inr (.inr ⟨rfl, hquote, hslash, Nat.not_lt.1 h⟩)

/-- An escaped character is read as its code point. -/
theorem stringPoints_escape (c : Char) (s : List Char) :
    stringPoints (escape c ++ s) =
      (stringPoints s).map fun p => (c.toNat :: p.1, p.2) := by
  obtain ⟨e, hescape, hu, -, he⟩ | ⟨hescape, h⟩ | ⟨hescape, hquote, hslash, h⟩ := escape_cases c
  · rw [hescape]
    cases hs : stringPoints s <;> simp [stringPoints, hu, he, hs]
  · rw [hescape]
    cases hs : stringPoints s <;> simp [stringPoints, codeUnit?_control _ h, hs]
  · rw [hescape]
    cases hs : stringPoints s <;> simp [stringPoints, hslash, Nat.not_lt.2 h, hs]

/-- The code points of characters are not joined to others. -/
theorem joinSurrogates_toNat (s : List Char) :
    joinSurrogates (s.map Char.toNat) = s.map Char.toNat := by
  induction s with
  | nil => rfl
  | cons c s ih =>
    cases s with
    | nil => rfl
    | cons d s =>
      have hvalid : c.toNat < 0xD800 ∨ 0xDFFF < c.toNat ∧ c.toNat < 0x110000 := c.valid
      rw [List.map_cons, List.map_cons, joinSurrogates, if_neg (by omega), ← List.map_cons, ih]

/-! ## Strings -/

theorem stringPoints_flatMap_escape (s rest : List Char) :
    stringPoints (s.flatMap escape ++ '"' :: rest) = some (s.map Char.toNat, rest) := by
  induction s with
  | nil => simp [stringPoints]
  | cons c s ih =>
    rw [List.flatMap_cons, List.append_assoc, stringPoints_escape, ih]
    rfl

/-- A string is read back from its quoted form. -/
theorem stringBody_escape (s : String) (rest : List Char) :
    stringBody (s.toList.flatMap escape ++ '"' :: rest) = some (Text.points s, rest) := by
  rw [stringBody, stringPoints_flatMap_escape]
  simp only [Option.map_some, joinSurrogates_toNat, Text.points]

theorem toList_quote (s : String) :
    (quote s).toList = '"' :: (s.toList.flatMap escape ++ ['"']) := by
  rw [quote, String.toList_ofList, List.cons_append]

/-! ## Control characters -/

theorem not_control_of_mem_escape {c d : Char} (h : d ∈ escape c) : 0x20 ≤ d.toNat := by
  obtain ⟨e, hescape, -, he, -⟩ | ⟨hescape, hcontrol⟩ | ⟨hescape, -, -, hc⟩ := escape_cases c
  · rw [hescape, List.mem_cons, List.mem_singleton] at h
    rcases h with rfl | rfl
    · decide
    · exact he
  · obtain ⟨hhigh, hlow⟩ := hexChar_of_control _ hcontrol
    rw [hescape] at h
    simp only [List.mem_cons, List.not_mem_nil, or_false] at h
    rcases h with rfl | rfl | rfl | rfl | rfl | rfl
    · decide
    · decide
    · decide
    · decide
    · exact hhigh
    · exact hlow
  · rw [hescape, List.mem_singleton] at h
    rwa [h]

/-- No quoted form holds a control character. -/
theorem not_control_of_mem_quote {s : String} {d : Char} (h : d ∈ (quote s).toList) :
    0x20 ≤ d.toNat := by
  rw [toList_quote, List.mem_cons, List.mem_append, List.mem_flatMap, List.mem_singleton] at h
  obtain rfl | ⟨c, -, hd⟩ | rfl := h
  · decide
  · exact not_control_of_mem_escape hd
  · decide

end Phrasebook.Json
