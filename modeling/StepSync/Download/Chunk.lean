import StepSync.Octets.Reader

namespace StepSync

/-!
# Chunks of a snapshot

A snapshot travels in chunks of 1024 octets, the last of which may be shorter.
A chunk is written as its index, its length and its octets.
-/

/-- A numbered piece of a snapshot. -/
structure Chunk where
  index : UInt32
  octets : Octets
  deriving Repr, DecidableEq

namespace Chunk

/-- The octets of every chunk but possibly the last. -/
def size : Nat :=
  1024

/-- The written form; of a length beyond 16 bits the low ones are written. -/
def fields (chunk : Chunk) : List Octets :=
  [Octets.ofWord32 chunk.index,
    Octets.ofWord16 (UInt16.ofNat chunk.octets.length), chunk.octets]

/-- Take a chunk. -/
def decode : Decoder Chunk := do
  let index ← Decoder.word32
  let length ← Decoder.word16
  let octets ← Decoder.octets length.toNat
  return ⟨index, octets⟩

end Chunk

/-- Why a chunk is refused. -/
inductive ChunkError where
  | outOfRange (index : UInt32) (chunkCount : Nat)
  | wrongSize (index : UInt32) (found expected : Nat)
  | malformed (failure : CursorError)
  deriving Repr, DecidableEq

namespace ChunkError

/-- The error in words. -/
def message : ChunkError → String
  | outOfRange index chunkCount =>
      s!"chunk {index.toNat} is outside blob of {chunkCount} chunks"
  | wrongSize index found expected =>
      s!"chunk {index.toNat} carries {found} octets, expected {expected}"
  | malformed failure => failure.message

end ChunkError

end StepSync
