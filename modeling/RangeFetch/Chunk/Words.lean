import RangeFetch.Chunk.Basic
import RangeFetch.Limits

/-!
A chunk in words of 64 bits. The cursor is a word of its own beside the buffer, and every operation
moves both. One whose arithmetic would leave the range of a word has no result.
-/

namespace RangeFetch

namespace Chunk

inductive Operation where
  | clamp (fileSize : UInt64)
  | write (bytes : Bytes)

def Operation.length : Operation → Nat
  | clamp _ => 0
  | write bytes => bytes.length

def apply (c : Chunk) : Operation → Chunk
  | .clamp fileSize => c.clampTo fileSize.toNat
  | .write bytes => c.write bytes

def takes (c : Chunk) : Operation → Bytes
  | .clamp _ => []
  | .write bytes => bytes.take (c.accepts bytes)

def run : Chunk → List Operation → Chunk
  | c, [] => c
  | c, op :: rest => (c.apply op).run rest

def parts : Chunk → List Operation → List Bytes
  | _, [] => []
  | c, op :: rest => c.takes op :: (c.apply op).parts rest

end Chunk

structure ChunkWords where
  offset : UInt64
  cursor : UInt64
  /-- The first offset that is not wanted. -/
  limit : UInt64
  buffer : Bytes
  deriving DecidableEq

namespace ChunkWords

def sum? (a b : UInt64) : Option UInt64 :=
  if a.toNat + b.toNat < Limits.offsetBound then some (a + b) else none

def difference? (a b : UInt64) : Option UInt64 := if b ≤ a then some (a - b) else none

/-- A chunk that has no bytes yet, in a buffer that may have been used before. -/
def request? (start limit : UInt64) (used : Bytes) : Option ChunkWords :=
  if limit < start then none else some ⟨start, start, limit, used.take 0⟩

def remaining? (w : ChunkWords) : Option UInt64 := difference? w.limit w.cursor

/-- Lowers the limit to the size of the file, though not below the cursor. Room is made for what the
chunk then still wants. -/
def clampTo? (w : ChunkWords) (fileSize : UInt64) : Option ChunkWords :=
  let clamped := if fileSize < w.limit then { w with limit := max fileSize w.cursor } else w
  clamped.remaining?.map fun _ => clamped

/-- Takes the first bytes, as many as the chunk still wants, and tells how many these are. Nothing
in memory has more than `sizeMax` bytes. -/
def write? (sizeMax : Nat) (w : ChunkWords) (bytes : Bytes) : Option (Nat × ChunkWords) :=
  w.remaining?.bind fun wanted =>
    let count := min (min wanted.toNat sizeMax) bytes.length
    (sum? w.cursor (.ofNat count)).map fun cursor =>
      (count, { w with cursor := cursor, buffer := w.buffer ++ bytes.take count })

def perform? (sizeMax : Nat) (w : ChunkWords) : Chunk.Operation → Option ChunkWords
  | .clamp fileSize => w.clampTo? fileSize
  | .write bytes => (w.write? sizeMax bytes).map (·.2)

def run? (sizeMax : Nat) : ChunkWords → List Chunk.Operation → Option ChunkWords
  | w, [] => some w
  | w, op :: rest => (w.perform? sizeMax op).bind (·.run? sizeMax rest)

end ChunkWords

end RangeFetch
