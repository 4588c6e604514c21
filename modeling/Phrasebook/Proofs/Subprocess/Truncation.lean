import Phrasebook.Proofs.Subprocess.BoundedOutput
import Phrasebook.Proofs.Text.Utf8Cut

/-!
# What truncation does to a text

A stream that carries a text may be longer than its limit. Then the text that is kept is the start
of the text that was sent. At most its last character is damaged, and that one shows as a single
replacement.

Results:
* `text_pushAll`: what is kept is the text of the first bytes.
* `text_of_sent`: the text that is kept of a text that was sent in chunks.
-/

namespace Phrasebook.Subprocess.BoundedOutput

open Phrasebook.Text.Utf8

theorem text_pushAll (limit : Nat) (chunks : List (List UInt8)) :
    (pushAll { limit := limit } chunks).text = String.ofList (decode (chunks.flatten.take limit)) :=
  (keeps_pushAll limit chunks).text

/-- However the bytes of a text are cut into chunks, the text is kept if the limit is not below
their number. Otherwise the longest part of it that the limit has room for is kept, with one
replacement behind it if the limit lies inside a character and nothing if it lies between two. -/
theorem text_of_sent (limit : Nat) (t : String) {chunks : List (List UInt8)}
    (hsent : chunks.flatten = encode t.toList) :
    let o : BoundedOutput := pushAll { limit := limit } chunks
    ((encode t.toList).length ≤ limit → o.text = t) ∧
    (limit < (encode t.toList).length → ∃ p, LongestWithin limit t.toList p ∧
      (EndsBetween limit t.toList → o.text = String.ofList p) ∧
      (¬ EndsBetween limit t.toList → o.text = String.ofList (p ++ [replacement]))) := by
  intro o
  have htext : o.text = String.ofList (decode ((encode t.toList).take limit)) := by
    rw [← hsent]
    exact text_pushAll limit chunks
  refine ⟨fun hfits => ?_, fun hlong => ?_⟩
  · rw [htext, List.take_of_length_le hfits, decode_encode, String.ofList_toList]
  · obtain ⟨p, hp, hbetween, hinside⟩ := decode_take_encode hlong
    exact ⟨p, hp, fun h => by rw [htext, hbetween h], fun h => by rw [htext, hinside h]⟩

/-- A byte-order mark and a character of four bytes, both sent in two chunks. The second of the four
bytes is the last one that is kept, then the last of them, then all bytes are. -/
theorem text_of_sent_mark :
    let t := "\uFEFFa😀b"
    let chunks : List (List UInt8) :=
      [[0xEF], [0xBB, 0xBF, 0x61, 0xF0, 0x9F, 0x98], [], [0x80, 0x62]]
    chunks.flatten = encode t.toList ∧
    (∃ p, LongestWithin 6 t.toList p ∧
      (pushAll { limit := (6 : Nat) } chunks).text = String.ofList (p ++ [replacement])) ∧
    (∃ p, LongestWithin 8 t.toList p ∧
      (pushAll { limit := (8 : Nat) } chunks).text = String.ofList p) ∧
    (pushAll { limit := (9 : Nat) } chunks).text = t := by
  intro t chunks
  have hsent : chunks.flatten = encode t.toList := by decide +kernel
  have hparts : ∀ q ∈ t.toList.inits, (encode q).length ≠ 6 := by decide +kernel
  have hinside : ¬ EndsBetween 6 t.toList := by
    rintro ⟨q, hq, hlength⟩
    exact hparts q ((List.mem_inits q _).2 hq) hlength
  have hbetween : EndsBetween 8 t.toList := ⟨"\uFEFFa😀".toList, by decide, by decide +kernel⟩
  obtain ⟨p, hp, -, hdamaged⟩ := (text_of_sent 6 t hsent).2 (by decide +kernel)
  obtain ⟨q, hq, hwhole, -⟩ := (text_of_sent 8 t hsent).2 (by decide +kernel)
  exact ⟨hsent, ⟨p, hp, hdamaged hinside⟩, ⟨q, hq, hwhole hbetween⟩,
    (text_of_sent 9 t hsent).1 (by decide +kernel)⟩

end Phrasebook.Subprocess.BoundedOutput
