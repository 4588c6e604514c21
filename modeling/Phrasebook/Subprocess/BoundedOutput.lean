import Phrasebook.Text.Utf8

/-!
# Bounded output

An output stream is kept up to a limit of bytes; what comes after that is dropped, and the loss is
recorded. The bytes are decoded as a whole, so a character that was cut between two chunks is not
damaged. Only a character that lies across the limit is.

Models `BoundedOutput`.
-/

namespace Phrasebook.Subprocess

/-- What is kept of a stream. -/
structure BoundedOutput where
  /-- The number of bytes that are kept at most. -/
  limit : Int
  /-- The chunks that are kept, in the order in which they came. -/
  chunks : Array (List UInt8) := #[]
  /-- The number of bytes that are kept. -/
  byteLength : Nat := 0
  /-- Some chunk did not fit as a whole. -/
  truncated : Bool := false
  byteLength_eq : byteLength = chunks.toList.flatten.length := by rfl

namespace BoundedOutput

/-- The number of bytes that are kept of a stream by default: one mebibyte. -/
def defaultLimit : Nat := 1024 * 1024

/-- Keeps a chunk as a whole. -/
def keep (o : BoundedOutput) (chunk : List UInt8) : BoundedOutput where
  limit := o.limit
  chunks := o.chunks.push chunk
  byteLength := o.byteLength + chunk.length
  truncated := o.truncated
  byteLength_eq := by simp [o.byteLength_eq]

/-- Takes a chunk. Of a chunk that is longer than the room that is left, the part that there is room
for is kept. -/
def push (o : BoundedOutput) (chunk : List UInt8) : BoundedOutput :=
  let room : Int := o.limit - o.byteLength
  if room < chunk.length then
    let o := { o with truncated := true }
    if room ≤ 0 then o else o.keep (chunk.take room.toNat)
  else o.keep chunk

/-- Takes chunks in order. -/
def pushAll (o : BoundedOutput) (chunks : List (List UInt8)) : BoundedOutput := chunks.foldl push o

/-- The bytes that are kept. -/
def bytes (o : BoundedOutput) : List UInt8 := o.chunks.toList.flatten

/-- The text of the bytes that are kept. -/
def text (o : BoundedOutput) : String := String.ofList (Text.Utf8.decode o.bytes)

end BoundedOutput

end Phrasebook.Subprocess
