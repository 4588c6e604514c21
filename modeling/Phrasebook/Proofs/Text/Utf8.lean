import Phrasebook.Text.Utf8

/-!
# Texts as bytes and back

Decoding undoes encoding. The decoder takes the bytes of one character at a time: after the last one
it has read that character and stands between two characters again, whatever it read before.

Results:
* `step_lead`, `step_more`, `step_last`: what one byte of a character does.
* `feed_encodeChar`: what the bytes of a character do.
* `decode_encode`: a text is read back from its bytes.
-/

namespace Phrasebook.Text.Utf8

namespace Decoder

/-! ## One byte -/

section

variable {n bits missing low high : Nat}

theorem step_lead (d : Decoder) (hd : d.pending = none) (hn : n < 256) :
    d.step (UInt8.ofNat n) = d.lead n := by
  rw [step, hd, UInt8.toNat_ofNat_of_lt' hn]

/-- A byte in the range ends a character of which it is the last one. -/
theorem step_last (cs : List Char) (hlow : low ≤ n) (hhigh : n ≤ high) (hn : n < 256) :
    step ⟨cs, some ⟨bits, 1, low, high⟩⟩ (UInt8.ofNat n) =
      ⟨Char.ofNat (bits * 64 + (n - 0x80)) :: cs, none⟩ := by
  rw [step, UInt8.toNat_ofNat_of_lt' hn]
  simp only [if_pos (And.intro hlow hhigh)]
  rfl

/-- A byte in the range goes on with a character of which more is to come. -/
theorem step_more (cs : List Char) (hlow : low ≤ n) (hhigh : n ≤ high) (hn : n < 256) :
    step ⟨cs, some ⟨bits, missing + 2, low, high⟩⟩ (UInt8.ofNat n) =
      ⟨cs, some ⟨bits * 64 + (n - 0x80), missing + 1, 0x80, 0xBF⟩⟩ := by
  rw [step, UInt8.toNat_ofNat_of_lt' hn]
  simp only [if_pos (And.intro hlow hhigh), show ¬ missing + 2 ≤ 1 by omega, if_false]
  rfl

theorem lead_one (d : Decoder) (h : n < 0x80) : d.lead n = d.emit (Char.ofNat n) := by
  rw [lead, if_pos h]

theorem lead_two (d : Decoder) (hlow : 0xC2 ≤ n) (hhigh : n < 0xE0) :
    d.lead n = ⟨d.chars, some ⟨n - 0xC0, 1, 0x80, 0xBF⟩⟩ := by
  rw [lead, if_neg (by omega), if_neg (by omega), if_pos hhigh]

theorem lead_three (d : Decoder) (hlow : 0xE0 ≤ n) (hhigh : n < 0xF0) :
    d.lead n = ⟨d.chars, some ⟨n - 0xE0, 2, if n = 0xE0 then 0xA0 else 0x80,
      if n = 0xED then 0x9F else 0xBF⟩⟩ := by
  rw [lead, if_neg (by omega), if_neg (by omega), if_neg (by omega), if_pos hhigh]

theorem lead_four (d : Decoder) (hlow : 0xF0 ≤ n) (hhigh : n < 0xF5) :
    d.lead n = ⟨d.chars, some ⟨n - 0xF0, 3, if n = 0xF0 then 0x90 else 0x80,
      if n = 0xF4 then 0x8F else 0xBF⟩⟩ := by
  rw [lead, if_neg (by omega), if_neg (by omega), if_neg (by omega), if_neg (by omega),
    if_pos hhigh]

end

/-! ## One character -/

theorem ofNat_of_eq (c : Char) {n : Nat} (h : n = c.toNat) : Char.ofNat n = c := by
  rw [h, Char.ofNat_toNat]

/-- The number of a character is that of no surrogate and is at most 10FFFF. -/
theorem toNat_valid (c : Char) : c.toNat < 0xD800 ∨ 0xDFFF < c.toNat ∧ c.toNat < 0x110000 := c.valid

/-- The bytes of a character make the decoder read that character. -/
theorem feed_encodeChar (cs : List Char) (c : Char) :
    feed ⟨cs, none⟩ (String.utf8EncodeChar c) = ⟨c :: cs, none⟩ := by
  have hvalid := toNat_valid c
  have hval : c.val.toNat = c.toNat := rfl
  simp only [String.utf8EncodeChar, hval, feed]
  -- by the number of bytes, which the number of the character decides
  split
  · rw [List.foldl_cons, List.foldl_nil, step_lead _ rfl (by omega), lead_one _ (by omega),
      Char.ofNat_toNat]
    rfl
  split
  · rw [List.foldl_cons, step_lead _ rfl (by omega), lead_two _ (by omega) (by omega),
      List.foldl_cons, step_last _ (by omega) (by omega) (by omega), List.foldl_nil,
      ofNat_of_eq c (by omega)]
  split
  · rw [List.foldl_cons, step_lead _ rfl (by omega), lead_three _ (by omega) (by omega),
      List.foldl_cons, step_more _ (by split <;> omega) (by split <;> omega) (by omega),
      List.foldl_cons, step_last _ (by omega) (by omega) (by omega), List.foldl_nil,
      ofNat_of_eq c (by omega)]
  · rw [List.foldl_cons, step_lead _ rfl (by omega), lead_four _ (by omega) (by omega),
      List.foldl_cons, step_more _ (by split <;> omega) (by split <;> omega) (by omega),
      List.foldl_cons, step_more _ (by omega) (by omega) (by omega),
      List.foldl_cons, step_last _ (by omega) (by omega) (by omega), List.foldl_nil,
      ofNat_of_eq c (by omega)]

/-- The bytes of a text make the decoder read that text. -/
theorem feed_encode (cs s : List Char) : feed ⟨cs, none⟩ (encode s) = ⟨s.reverse ++ cs, none⟩ := by
  induction s generalizing cs with
  | nil => rfl
  | cons c s ih =>
    have hcons : encode (c :: s) = String.utf8EncodeChar c ++ encode s := rfl
    rw [hcons, feed, List.foldl_append]
    change feed (feed ⟨cs, none⟩ (String.utf8EncodeChar c)) (encode s) = _
    rw [feed_encodeChar, ih, List.reverse_cons, List.append_assoc]
    rfl

end Decoder

/-! ## Texts -/

/-- A text is read back from its bytes. -/
theorem decode_encode (s : List Char) : decode (encode s) = s := by
  have hfeed : Decoder.feed {} (encode s) = ⟨s.reverse ++ [], none⟩ := Decoder.feed_encode [] s
  rw [decode, hfeed, List.append_nil, Decoder.finish]
  exact List.reverse_reverse s

end Phrasebook.Text.Utf8
