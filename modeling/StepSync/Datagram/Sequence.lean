import StepSync.Octets.Basic

namespace StepSync

/-!
# Sequence numbers

Each side numbers its datagrams with 16 bits, wrapping around. The receiver
compares numbers by their signed distance: a datagram is in order when it lies
ahead of the last accepted one by less than half the circle.
-/

/-- The number of the next datagram to be sent. -/
structure SendSequence where
  next : UInt16
  deriving Repr, DecidableEq

namespace SendSequence

/-- Numbering starts at zero. -/
def start : SendSequence :=
  ⟨0⟩

/-- The written form: one word. -/
def fields (sequence : SendSequence) : List Octets :=
  [Octets.ofWord16 sequence.next]

/-- The sequence once the datagram that bears its number has been handed over. -/
def advance (sequence : SendSequence) : SendSequence :=
  ⟨sequence.next + 1⟩

end SendSequence

/-- The number of the last datagram that was accepted, if any was. -/
structure ReceiveSequence where
  last : Option UInt16
  deriving Repr, DecidableEq

namespace ReceiveSequence

/-- Nothing accepted yet. -/
def start : ReceiveSequence :=
  ⟨none⟩

/--
How far a number lies ahead of the last accepted one, negative behind it. The
first number of all counts as the next one.
-/
def distance (sequence : ReceiveSequence) (number : UInt16) : Int :=
  match sequence.last with
  | none => 1
  | some last => (number - last).toInt16.toInt

/-- Accept a number that lies ahead; a repeated or overtaken one changes nothing. -/
def accept (sequence : ReceiveSequence) (number : UInt16) : ReceiveSequence :=
  if 0 < sequence.distance number then ⟨some number⟩ else sequence

end ReceiveSequence

end StepSync
