import Mathlib.Tactic
import Phrasebook.Subprocess.BoundedOutput

/-!
# What is kept of a stream

What is kept depends on the bytes of the stream and on the limit, not on how the bytes were cut into
chunks. `Keeps` says so of a state, in terms of the bytes alone; each chunk takes the state of the
bytes before it to the state of the bytes with it.

Results:
* `Keeps.push`, `Keeps.pushAll`: what one chunk does, and what a run of chunks does.
* `Keeps.text_pushAll`: after the first loss the text stays as it is.
* `first_bytes_of_pushAll`: the length, the bytes, the mark of a loss and the text of what is kept,
  after any number of chunks.
-/

namespace Phrasebook.Subprocess.BoundedOutput

/-- As many of the bytes `seen` of a stream as the limit allows are kept, and a loss is marked. -/
structure Keeps (limit : Nat) (seen : List UInt8) (o : BoundedOutput) : Prop where
  limit_eq : o.limit = limit
  bytes_eq : o.bytes = seen.take limit
  truncated_iff : o.truncated = true ↔ limit < seen.length

@[simp]
theorem bytes_keep (o : BoundedOutput) (chunk : List UInt8) :
    (o.keep chunk).bytes = o.bytes ++ chunk := by
  simp [keep, bytes]

theorem keeps_nil (limit : Nat) : Keeps limit [] { limit := limit } :=
  ⟨rfl, by simp [bytes], by simp⟩

section

variable {limit : Nat} {seen : List UInt8} {o : BoundedOutput}

theorem Keeps.byteLength (h : Keeps limit seen o) : o.byteLength = min limit seen.length := by
  have hlength : o.byteLength = o.bytes.length := o.byteLength_eq
  rw [hlength, h.bytes_eq, List.length_take]

theorem Keeps.text (h : Keeps limit seen o) :
    o.text = String.ofList (Text.Utf8.decode (seen.take limit)) := by
  rw [BoundedOutput.text, h.bytes_eq]

/-- A chunk adds its bytes to those seen. It finds no room, or too little, or it fits. -/
theorem Keeps.push (h : Keeps limit seen o) (chunk : List UInt8) :
    Keeps limit (seen ++ chunk) (o.push chunk) := by
  have hlimit := h.limit_eq
  have hlength := h.byteLength
  have htake : (seen ++ chunk).take limit = seen.take limit ++ chunk.take (limit - seen.length) :=
    List.take_append
  simp only [BoundedOutput.push]
  split_ifs with hlong hroom
  · refine ⟨hlimit, ?_, ?_⟩
    · have hfull : limit ≤ seen.length := by omega
      rw [List.take_append_of_le_length hfull]
      exact h.bytes_eq
    · simp only [List.length_append, true_iff]
      omega
  · refine ⟨hlimit, ?_, ?_⟩
    · have hleft : (o.limit - o.byteLength).toNat = limit - seen.length := by omega
      rw [bytes_keep, htake, hleft]
      exact congrArg (· ++ _) h.bytes_eq
    · simp only [keep, List.length_append, true_iff]
      omega
  · refine ⟨hlimit, ?_, ?_⟩
    · have hfits : chunk.length ≤ limit - seen.length := by omega
      rw [bytes_keep, htake, List.take_of_length_le hfits, h.bytes_eq]
    · simp only [keep, List.length_append]
      rw [h.truncated_iff]
      omega

theorem Keeps.pushAll (h : Keeps limit seen o) (chunks : List (List UInt8)) :
    Keeps limit (seen ++ chunks.flatten) (o.pushAll chunks) := by
  induction chunks generalizing seen o with
  | nil =>
    rw [List.flatten_nil, List.append_nil]
    exact h
  | cons chunk chunks ih =>
    have hrest := ih (h.push chunk)
    rwa [List.append_assoc, ← List.flatten_cons] at hrest

/-- After the first loss the text stays as it is. -/
theorem Keeps.text_pushAll (h : Keeps limit seen o) (hlost : o.truncated = true)
    (chunks : List (List UInt8)) : (o.pushAll chunks).text = o.text := by
  have hfull : limit ≤ seen.length := (h.truncated_iff.1 hlost).le
  rw [(h.pushAll chunks).text, h.text, List.take_append_of_le_length hfull]

end

theorem keeps_pushAll (limit : Nat) (chunks : List (List UInt8)) :
    Keeps limit chunks.flatten (pushAll { limit := limit } chunks) :=
  (keeps_nil limit).pushAll chunks

/-- After any number of chunks, with any chunks still to come: as many bytes are kept as the limit
allows, they are the first ones of the stream, and a loss is marked iff there were more. Another way
to cut the same bytes gives the same, and after a loss the text stays as it is. -/
theorem first_bytes_of_pushAll (limit : Nat) (seen later : List (List UInt8)) :
    let o : BoundedOutput := pushAll { limit := limit } seen
    o.byteLength = min limit seen.flatten.length ∧
    o.bytes = (seen ++ later).flatten.take o.byteLength ∧
    (o.truncated = true ↔ limit < seen.flatten.length) ∧
    (∀ others : List (List UInt8), others.flatten = seen.flatten →
      let p : BoundedOutput := pushAll { limit := limit } others
      p.byteLength = o.byteLength ∧ p.truncated = o.truncated ∧ p.text = o.text) ∧
    (o.truncated = true → (o.pushAll later).text = o.text) := by
  intro o
  have ho : Keeps limit seen.flatten o := keeps_pushAll limit seen
  refine ⟨ho.byteLength, ?_, ho.truncated_iff, ?_, fun hlost => ho.text_pushAll hlost later⟩
  · have hle : min limit seen.flatten.length ≤ seen.flatten.length := Nat.min_le_right _ _
    rw [ho.bytes_eq, ho.byteLength, List.flatten_append, List.take_append_of_le_length hle,
      ← List.take_eq_take_min]
  · intro others hothers p
    have hp : Keeps limit seen.flatten p := hothers ▸ keeps_pushAll limit others
    refine ⟨by rw [hp.byteLength, ho.byteLength], ?_, by rw [hp.text, ho.text]⟩
    rw [Bool.eq_iff_iff, hp.truncated_iff, ho.truncated_iff]

/-- The limit lies inside a chunk of one way to cut the bytes, and between two chunks of another. -/
theorem pushAll_three_of_four :
    let o : BoundedOutput := pushAll { limit := (3 : Nat) } [[97, 98], [], [99, 100]]
    let p : BoundedOutput := pushAll { limit := (3 : Nat) } [[97], [98, 99], [100]]
    [[97], [98, 99], [100]].flatten = [[97, 98], [], [99, 100]].flatten ∧ p.text = o.text ∧
    o.truncated = true ∧ (o.pushAll [[101]]).text = o.text := by
  intro o p
  obtain ⟨-, -, hlost, hcut, hlater⟩ :=
    first_bytes_of_pushAll 3 [[97, 98], [], [99, 100]] [[101]]
  have htruncated : o.truncated = true := hlost.2 (by decide)
  exact ⟨rfl, (hcut [[97], [98, 99], [100]] rfl).2.2, htruncated, hlater htruncated⟩

end Phrasebook.Subprocess.BoundedOutput
