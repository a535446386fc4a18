import StepSync.Octets.Basic
import StepSync.Octets.CursorError

namespace StepSync

/-!
# Writing octets within a capacity

A `Writer` collects octets up to a capacity. A piece is written whole or not at
all; a list of pieces is written up to the first that does not fit. A message is
such a list of pieces, one for each field.
-/

/-- Octets written so far, and how many may be written in all. -/
structure Writer where
  octets : Octets
  capacity : Nat
  deriving Repr, DecidableEq

namespace Writer

/-- Nothing written yet. -/
def ofCapacity (capacity : Nat) : Writer :=
  ⟨[], capacity⟩

/-- The number of octets written. -/
def position (writer : Writer) : Nat :=
  writer.octets.length

/-- The number of octets that still fit. -/
def remaining (writer : Writer) : Nat :=
  writer.capacity - writer.octets.length

/-- Write one piece, if it fits. -/
def put (writer : Writer) (piece : Octets) : Except CursorError Writer :=
  if piece.length ≤ writer.remaining then
    .ok { writer with octets := writer.octets ++ piece }
  else
    .error (.overflow writer.position piece.length writer.capacity)

/-- Write pieces in order, up to the first that does not fit. -/
def putAll : Writer → List Octets → Except CursorError Unit × Writer
  | writer, [] => (.ok (), writer)
  | writer, piece :: pieces =>
      match writer.put piece with
      | .ok longer => longer.putAll pieces
      | .error failure => (.error failure, writer)

/--
Leave room for a 32-bit word to be filled in later; the position of the room
is known before.
-/
def reserve (writer : Writer) : Except CursorError Writer :=
  writer.put (Octets.ofWord32 0)

/-- Fill in a 32-bit word over four octets that are already written. -/
def patch (writer : Writer) (start : Nat) (word : UInt32) :
    Except CursorError Writer :=
  if start + 4 ≤ writer.octets.length then
    .ok { writer with
      octets :=
        writer.octets.take start ++ Octets.ofWord32 word ++
          writer.octets.drop (start + 4) }
  else
    .error (.overflow start 4 writer.octets.length)

end Writer

end StepSync
