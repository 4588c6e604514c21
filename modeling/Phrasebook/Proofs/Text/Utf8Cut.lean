import Mathlib.Tactic
import Phrasebook.Proofs.Text.Utf8

/-!
# Texts whose bytes are cut

The bytes of a text may end too early. If they end between two characters, the characters in front
are read. If they end inside a character, one replacement stands for what there is of it, however
many of its bytes there are: the decoder goes on waiting for the rest of a character as long as its
bytes come in order, so it cannot give up on a part of one.

Results:
* `Decoder.feed_grows`, `Decoder.count_lt_feed`: bytes take nothing back, and between two characters
  they add one.
* `Decoder.feed_front_of_char`: what the first bytes of a character do.
* `decode_take_encode`: the text of the first bytes of a text.
-/

namespace Phrasebook.Text.Utf8

namespace Decoder

/-! ## What bytes add -/

/-- The number of characters that there would be if the input ended here. -/
def count (d : Decoder) : Nat := d.chars.length + if d.pending.isSome then 1 else 0

theorem count_of_none {d : Decoder} (h : d.pending = none) : d.count = d.chars.length := by
  rw [count, h]
  rfl

theorem count_of_some {d : Decoder} {p : Pending} (h : d.pending = some p) :
    d.count = d.chars.length + 1 := by
  rw [count, h]
  rfl

/-- A first byte adds a character, which it ends or begins. -/
theorem lead_grows (d : Decoder) (b : Nat) :
    d.chars <:+ (d.lead b).chars ∧ d.chars.length < (d.lead b).count := by
  unfold lead
  split_ifs <;> simp [count, emit]

/-- The characters that were read stay, and there are at least as many as before. -/
structure Grows (d e : Decoder) : Prop where
  chars : d.chars <:+ e.chars
  count : d.count ≤ e.count

theorem step_grows (d : Decoder) (byte : UInt8) : Grows d (d.step byte) := by
  unfold step
  cases hp : d.pending with
  | none =>
    obtain ⟨hchars, hcount⟩ := lead_grows d byte.toNat
    exact ⟨hchars, by rw [count_of_none hp]; exact hcount.le⟩
  | some p =>
    have hcount := count_of_some hp
    dsimp only
    split
    · split
      · exact ⟨List.suffix_cons _ _, hcount.le⟩
      · exact ⟨List.suffix_rfl, hcount.le⟩
    · obtain ⟨hchars, hlonger⟩ := lead_grows (d.emit replacement) byte.toNat
      exact ⟨(List.suffix_cons _ _).trans hchars, by rw [hcount]; exact hlonger.le⟩

theorem feed_grows (d : Decoder) (bytes : List UInt8) : Grows d (d.feed bytes) := by
  induction bytes generalizing d with
  | nil => exact ⟨List.suffix_rfl, le_rfl⟩
  | cons byte bytes ih =>
    obtain ⟨hchars, hcount⟩ := step_grows d byte
    obtain ⟨hchars', hcount'⟩ := ih (d.step byte)
    exact ⟨hchars.trans hchars', hcount.trans hcount'⟩

/-- Between two characters, more bytes add a character. -/
theorem count_lt_feed {d : Decoder} (h : d.pending = none) {bytes : List UInt8}
    (hne : bytes ≠ []) : d.count < (d.feed bytes).count := by
  obtain ⟨byte, bytes, rfl⟩ := List.exists_cons_of_ne_nil hne
  have hstep : d.count < (d.step byte).count := by
    rw [count_of_none h, step, h]
    exact (lead_grows d byte.toNat).2
  exact hstep.trans_le (feed_grows _ bytes).count

theorem feed_append (d : Decoder) (a b : List UInt8) : d.feed (a ++ b) = (d.feed a).feed b :=
  List.foldl_append

/-- Where the bytes of a character are cut, nothing of it is read yet and more is waited for. If the
decoder stood between two characters there, each of the two parts would have added one. -/
theorem feed_front_of_char (cs : List Char) {c : Char} {front back : List UInt8}
    (h : front ++ back = String.utf8EncodeChar c) (hfront : front ≠ []) (hback : back ≠ []) :
    ∃ p, feed ⟨cs, none⟩ front = ⟨cs, some p⟩ := by
  have hall : (feed ⟨cs, none⟩ front).feed back = ⟨c :: cs, none⟩ := by
    rw [← feed_append, h, feed_encodeChar]
  have hone : cs.length < (feed ⟨cs, none⟩ front).count :=
    count_lt_feed (d := ⟨cs, none⟩) rfl hfront
  have htotal : count ⟨c :: cs, none⟩ = cs.length + 1 := rfl
  cases hp : (feed ⟨cs, none⟩ front).pending with
  | none =>
    have htwo := count_lt_feed hp hback
    rw [hall, htotal] at htwo
    omega
  | some p =>
    have hcount := (feed_grows (feed ⟨cs, none⟩ front) back).count
    rw [hall, htotal, count_of_some hp] at hcount
    have hle : (feed ⟨cs, none⟩ front).chars.length ≤ cs.length := by omega
    have hchars := (feed_grows ⟨cs, none⟩ front).chars.eq_of_length_le hle
    exact ⟨p, by rw [Decoder.mk.injEq]; exact ⟨hchars.symm, hp⟩⟩

end Decoder

/-! ## Texts -/

theorem encode_cons (c : Char) (s : List Char) :
    encode (c :: s) = String.utf8EncodeChar c ++ encode s :=
  List.flatMap_cons

theorem encode_singleton (c : Char) : encode [c] = String.utf8EncodeChar c :=
  List.flatMap_singleton _ c

theorem encode_append (s t : List Char) : encode (s ++ t) = encode s ++ encode t :=
  List.flatMap_append

/-- `p` is the longest part at the start of the text that has at most `n` bytes. -/
structure LongestWithin (n : Nat) (s p : List Char) : Prop where
  start : p <+: s
  length_le : (encode p).length ≤ n
  longest : ∀ q, q <+: s → (encode q).length ≤ n → q <+: p

/-- The first `n` bytes of the text end between two characters. -/
def EndsBetween (n : Nat) (s : List Char) : Prop := ∃ q, q <+: s ∧ (encode q).length = n

/-- The byte after the first `n` bytes belongs to a character, and the characters in front of it are
the longest part that has at most `n` bytes. -/
theorem exists_longestWithin {n : Nat} {s : List Char} (h : n < (encode s).length) :
    ∃ p c rest, s = p ++ c :: rest ∧ LongestWithin n s p ∧ n < (encode (p ++ [c])).length := by
  induction s generalizing n with
  | nil => exact absurd h (Nat.not_lt_zero n)
  | cons c s ih =>
    rw [encode_cons, List.length_append] at h
    by_cases hlt : n < (String.utf8EncodeChar c).length
    · refine ⟨[], c, s, rfl, ⟨List.nil_prefix, Nat.zero_le n, fun q hq hle => ?_⟩, ?_⟩
      · rcases List.prefix_cons_iff.1 hq with rfl | ⟨q, rfl, -⟩
        · exact List.nil_prefix
        · rw [encode_cons, List.length_append] at hle
          omega
      · rwa [List.nil_append, encode_singleton]
    · obtain ⟨p, d, rest, rfl, ⟨hstart, hle, hlongest⟩, hnext⟩ :=
        ih (n := n - (String.utf8EncodeChar c).length) (by omega)
      refine ⟨c :: p, d, rest, rfl,
        ⟨List.cons_prefix_cons.2 ⟨rfl, hstart⟩, ?_, fun q hq hfits => ?_⟩, ?_⟩
      · rw [encode_cons, List.length_append]
        omega
      · rcases List.prefix_cons_iff.1 hq with rfl | ⟨q, rfl, hq'⟩
        · exact List.nil_prefix
        · rw [encode_cons, List.length_append] at hfits
          exact List.cons_prefix_cons.2 ⟨rfl, hlongest q hq' (by omega)⟩
      · rw [List.cons_append, encode_cons, List.length_append]
        omega

/-- The first bytes of a text hold the bytes of whole characters and then a part of those of one. -/
theorem take_encode {n : Nat} {p : List Char} {c : Char} (hle : (encode p).length ≤ n)
    (hnext : n < (encode (p ++ [c])).length) (rest : List Char) :
    ∃ front back, front ++ back = String.utf8EncodeChar c ∧ back ≠ [] ∧
      (encode p).length + front.length = n ∧
      (encode (p ++ c :: rest)).take n = encode p ++ front := by
  let k := n - (encode p).length
  have hk : k < (String.utf8EncodeChar c).length := by
    rw [encode_append, List.length_append, encode_singleton] at hnext
    omega
  refine ⟨(String.utf8EncodeChar c).take k, (String.utf8EncodeChar c).drop k,
    List.take_append_drop k _, ?_, ?_, ?_⟩
  · rw [ne_eq, List.drop_eq_nil_iff, not_le]
    exact hk
  · rw [List.length_take_of_le hk.le]
    omega
  · rw [encode_append, encode_cons, List.take_append, List.take_of_length_le hle,
      List.take_append_of_le_length hk.le]

/-- Behind whole characters, a part of the bytes of one is read as one replacement. -/
theorem decode_encode_append {p : List Char} {c : Char} {front back : List UInt8}
    (h : front ++ back = String.utf8EncodeChar c) (hfront : front ≠ []) (hback : back ≠ []) :
    decode (encode p ++ front) = p ++ [replacement] := by
  obtain ⟨pending, hwaits⟩ := Decoder.feed_front_of_char (p.reverse ++ []) h hfront hback
  rw [decode_append, Decoder.feed_encode, hwaits, Decoder.finish]
  simp

/-- The text of the first bytes of a text that has more: the longest part that they hold, and one
replacement behind it if they end inside a character. -/
theorem decode_take_encode {n : Nat} {s : List Char} (h : n < (encode s).length) :
    ∃ p, LongestWithin n s p ∧
      (EndsBetween n s → decode ((encode s).take n) = p) ∧
      (¬ EndsBetween n s → decode ((encode s).take n) = p ++ [replacement]) := by
  obtain ⟨p, c, rest, rfl, hp, hnext⟩ := exists_longestWithin h
  obtain ⟨front, back, hchar, hback, hlength, htake⟩ := take_encode hp.length_le hnext rest
  refine ⟨p, hp, fun hends => ?_, fun hinside => ?_⟩
  · obtain ⟨q, hq, hn⟩ := hends
    obtain ⟨t, rfl⟩ := hp.longest q hq hn.le
    rw [encode_append, List.length_append] at hlength
    have hnil : front = [] := List.eq_nil_of_length_eq_zero (by omega)
    rw [htake, hnil, List.append_nil, decode_encode]
  · have hne : front ≠ [] := by
      rintro rfl
      exact hinside ⟨p, hp.start, hlength⟩
    rw [htake, decode_encode_append hchar hne hback]

end Phrasebook.Text.Utf8
