/-!
# UTF-8

Texts as bytes and back. Decoding never fails: each maximal part of the input that cannot belong to
a well-formed sequence is read as one U+FFFD, and a byte-order mark is an ordinary character. The
decoder is a machine that takes one byte at a time, so a text may be cut into chunks anywhere.

* `decode_append`: decoding two chunks is running the machine over one and then over the other.
-/

namespace Phrasebook.Text.Utf8

/-- The bytes of a text. -/
def encode (s : List Char) : List UInt8 := s.flatMap String.utf8EncodeChar

/-- The character that stands for bytes that are not UTF-8. -/
def replacement : Char := Char.ofNat 0xFFFD

/-- A character of which some bytes have been read: the bits so far, the number of bytes still to
come, and the least and the greatest value that the next byte may have. -/
structure Pending where
  bits : Nat
  missing : Nat
  low : Nat
  high : Nat

/-- The state between two bytes: the characters read so far, the latest first, and the character
that has begun. -/
structure Decoder where
  chars : List Char := []
  pending : Option Pending := none

namespace Decoder

/-- Adds a finished character. -/
def emit (d : Decoder) (c : Char) : Decoder := ⟨c :: d.chars, none⟩

/-- Reads the first byte of a character. The bytes C0, C1 and F5 to FF start none, and neither does
a continuation byte. After E0, ED, F0 and F4 the second byte is restricted, so that no character has
two forms and no surrogate or value above 10FFFF has any. -/
def lead (d : Decoder) (b : Nat) : Decoder :=
  if b < 0x80 then d.emit (Char.ofNat b)
  else if b < 0xC2 then d.emit replacement
  else if b < 0xE0 then ⟨d.chars, some ⟨b - 0xC0, 1, 0x80, 0xBF⟩⟩
  else if b < 0xF0 then
    ⟨d.chars, some ⟨b - 0xE0, 2, if b = 0xE0 then 0xA0 else 0x80, if b = 0xED then 0x9F else 0xBF⟩⟩
  else if b < 0xF5 then
    ⟨d.chars, some ⟨b - 0xF0, 3, if b = 0xF0 then 0x90 else 0x80, if b = 0xF4 then 0x8F else 0xBF⟩⟩
  else d.emit replacement

/-- Reads one byte. A byte that cannot continue the pending character ends it as a replacement and
starts a character of its own. -/
def step (d : Decoder) (byte : UInt8) : Decoder :=
  let b := byte.toNat
  match d.pending with
  | none => d.lead b
  | some p =>
    if p.low ≤ b ∧ b ≤ p.high then
      let bits := p.bits * 64 + (b - 0x80)
      if p.missing ≤ 1 then d.emit (Char.ofNat bits)
      else ⟨d.chars, some ⟨bits, p.missing - 1, 0x80, 0xBF⟩⟩
    else (d.emit replacement).lead b

/-- Reads bytes in order. -/
def feed (d : Decoder) (bytes : List UInt8) : Decoder := bytes.foldl step d

/-- Ends the input: a character that is still pending becomes a replacement. -/
def finish (d : Decoder) : List Char :=
  (if d.pending.isSome then replacement :: d.chars else d.chars).reverse

end Decoder

/-- The text of the bytes. -/
def decode (bytes : List UInt8) : List Char := (Decoder.feed {} bytes).finish

theorem decode_append (a b : List UInt8) :
    decode (a ++ b) = ((Decoder.feed {} a).feed b).finish := by
  simp [decode, Decoder.feed, List.foldl_append]

example : decode [0x63, 0xC3, 0xA9, 0xF0, 0x9F, 0x98, 0x80] = ['c', 'é', '😀'] := by
  decide +kernel

example : decode [0xE2, 0x82, 0x41, 0xED, 0xA0, 0x80, 0xC3] =
    [replacement, 'A', replacement, replacement, replacement, replacement] := by decide +kernel

end Phrasebook.Text.Utf8
