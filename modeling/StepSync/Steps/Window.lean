import StepSync.Steps.Queue
import StepSync.Datagram.AckMask

namespace StepSync

/-!
# Receive windows

Authoritative steps may arrive out of order. A window has a slot for the id that
is expected next and for each of the 64 ids after it; a step that arrives fills
its slot if it is empty. Filled slots at the front are released in order into a
queue, as far as that has room, and the window moves on behind them.

Ids are compared as plain numbers here: one below the expected id counts as
seen before, also when it lies ahead around the circle.
-/

/-- The id expected next, and what has arrived for it and the ids after it. -/
structure ReceiveWindow where
  expected : StepId
  slots : List (Option Octets)
  deriving Repr, DecidableEq

namespace ReceiveWindow

/-- The number of slots: the expected id and one for each bit of a mask. -/
def size : Nat :=
  65

/-- An empty window that expects the given id. -/
def expecting (id : StepId) : ReceiveWindow :=
  ⟨id, List.replicate size none⟩

/-- What became of a step that arrived. -/
inductive Receipt where
  | stored
  | repeated
  | outside
  deriving Repr, DecidableEq

/-- The number of slots that are filled. -/
def storedCount (window : ReceiveWindow) : Nat :=
  window.slots.countP Option.isSome

/-- Take a step that arrived; only an empty slot is filled. -/
def receive (window : ReceiveWindow) (step : Step) :
    Receipt × ReceiveWindow :=
  if step.id < window.expected then (.repeated, window)
  else
    let offset := (step.id - window.expected).toNat
    match window.slots[offset]? with
    | none => (.outside, window)
    | some (some _) => (.repeated, window)
    | some none =>
        (.stored,
          { window with
            slots := window.slots.set offset (some step.payload) })

/-- Take steps in order of arrival. -/
def receiveAll : ReceiveWindow → List Step → List Receipt × ReceiveWindow
  | window, [] => ([], window)
  | window, step :: steps =>
      let (receipt, after) := window.receive step
      let (receipts, final) := after.receiveAll steps
      (receipt :: receipts, final)

/-- Which of the 64 ids after the expected one have arrived. -/
def laterMask (window : ReceiveWindow) : UInt64 :=
  ackMask ((window.slots.drop 1).map Option.isSome)

/--
The written form of the acknowledgement: the expected id and the mask
of later ones.
-/
def ackFields (window : ReceiveWindow) : List Octets :=
  [Octets.ofWord32 window.expected, Octets.ofWord64 window.laterMask]

/--
Hand the filled slots at the front to a queue, one by one, until a slot is empty
or the queue takes no more. The slots that remain are returned with the queue.
-/
def handOver :
    List (Option Octets) → StepId → StepQueue →
      List (Option Octets) × StepQueue
  | some payload :: slots, id, queue =>
      match queue.write id payload with
      | .ok longer => handOver slots (id + 1) longer
      | .error _ => (some payload :: slots, queue)
  | slots, _, queue => (slots, queue)

/-- What a release leaves behind: how many steps moved, the window and the queue. -/
structure Release where
  moved : Nat
  window : ReceiveWindow
  queue : StepQueue
  deriving Repr, DecidableEq

/--
Move the completed steps at the front into a queue that goes on where the window
stands; another queue is refused. Empty slots come in behind, so the window
keeps its size.
-/
def releaseInto (window : ReceiveWindow) (queue : StepQueue) :
    Except StepError Release :=
  if queue.nextId ≠ window.expected then
    .error (.outOfOrder queue.nextId window.expected)
  else
    let (kept, longer) := handOver window.slots window.expected queue
    let moved := window.slots.length - kept.length
    .ok {
      moved := moved
      window := {
        expected := window.expected + UInt32.ofNat moved
        slots := kept ++ List.replicate moved none }
      queue := longer }

end ReceiveWindow

end StepSync
