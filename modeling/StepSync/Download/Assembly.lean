import StepSync.Download.Chunk
import StepSync.Datagram.AckMask

namespace StepSync

/-!
# Assembling a snapshot from chunks

Chunks may come in any order and more than once. An `Assembly` has one slot for
each chunk; the first chunk of the right size fills its slot and later ones
change nothing. The acknowledgement names the first empty slot and says of the
64 slots after it which are filled.
-/

/-- The chunks of a snapshot that have arrived, and how many these are. -/
structure Assembly where
  octetCount : Nat
  slots : List (Option Octets)
  filled : Nat
  deriving Repr, DecidableEq

namespace Assembly

/-- The number of chunks that hold the given number of octets. -/
def chunksFor (octetCount : Nat) : Nat :=
  (octetCount + (Chunk.size - 1)) / Chunk.size

/-- No chunk of a snapshot has arrived yet. -/
def empty (octetCount : Nat) : Assembly where
  octetCount := octetCount
  slots := List.replicate (chunksFor octetCount) none
  filled := 0

/-- The number of chunks of the snapshot. -/
def chunkCount (assembly : Assembly) : Nat :=
  assembly.slots.length

/-- Every chunk has arrived. -/
def isComplete (assembly : Assembly) : Bool :=
  assembly.filled == assembly.slots.length

/-- The octets that the chunk of an index has to carry. -/
def chunkLength (assembly : Assembly) (index : Nat) : Nat :=
  min Chunk.size (assembly.octetCount - index * Chunk.size)

/-- What became of a chunk that was not refused. -/
inductive Receipt where
  | stored
  | repeated
  deriving Repr, DecidableEq

/--
Take a chunk: it fills its slot, repeats a filled one, or is refused and
changes nothing.
-/
def insert (assembly : Assembly) (chunk : Chunk) :
    Except ChunkError (Receipt × Assembly) :=
  let index := chunk.index.toNat
  match assembly.slots[index]? with
  | none => .error (.outOfRange chunk.index assembly.chunkCount)
  | some slot =>
      let expected := assembly.chunkLength index
      if chunk.octets.length = expected then
        match slot with
        | some _ => .ok (.repeated, assembly)
        | none =>
            .ok (.stored,
              { assembly with
                slots := assembly.slots.set index (some chunk.octets)
                filled := assembly.filled + 1 })
      else
        .error (.wrongSize chunk.index chunk.octets.length expected)

/--
The index of the first chunk that is missing; the number of chunks when none is.
-/
def waitingFor (assembly : Assembly) : Nat :=
  assembly.slots.findIdx Option.isNone

/-- Which of the 64 chunks after the awaited one have arrived. -/
def laterMask (assembly : Assembly) : UInt64 :=
  ackMask
    (((assembly.slots.drop (assembly.waitingFor + 1)).take 64).map
      Option.isSome)

/--
The written form of the acknowledgement: the awaited chunk and the mask
of later ones.
-/
def ackFields (assembly : Assembly) : List Octets :=
  [Octets.ofWord32 (UInt32.ofNat assembly.waitingFor),
    Octets.ofWord64 assembly.laterMask]

/-- The octets of the chunks in order, an empty slot counting as none. -/
def joined (assembly : Assembly) : Octets :=
  assembly.slots.flatMap fun slot => slot.getD []

/-- The whole snapshot, once every chunk has arrived. -/
def octets? (assembly : Assembly) : Option Octets :=
  if assembly.isComplete then some assembly.joined else none

end Assembly

end StepSync
