import StepSync.Steps.Queue

namespace StepSync

/-!
# Redundant sending

Datagrams get lost, so every predicted step is sent in up to three datagrams.
The cursor stands at the first step that has not been sent that often; a datagram
carries a run of steps from the cursor on, and a run counts as sent only once its
datagram was handed over.
-/

/--
Where the next run starts, how often the steps from there on were sent, and the
length of the last run composed.
-/
structure Redundancy where
  cursor : StepId
  sendCounts : List Nat
  lastRun : Nat
  deriving Repr, DecidableEq

namespace Redundancy

/-- How often a step is sent. -/
def copies : Nat :=
  3

/-- The most steps in one datagram. -/
def longestRun : Nat :=
  16

/-- The octets of a run in front of its payloads: the length and the first id. -/
def runOverhead : Nat :=
  1 + 4

/-- The octets in front of one payload: its length. -/
def payloadOverhead : Nat :=
  2

/-- Nothing sent yet, from the given id on. -/
def startingAt (first : StepId) : Redundancy :=
  ⟨first, [], 0⟩

/-- Move the cursor past steps that are gone, ids compared as plain numbers. -/
def skipTo (redundancy : Redundancy) (available : StepId) : Redundancy :=
  if redundancy.cursor < available then
    { redundancy with
      cursor := available
      sendCounts :=
        redundancy.sendCounts.drop (available - redundancy.cursor).toNat }
  else redundancy

/-- The payloads in front, as many as fit a budget of octets. -/
def fitting : (budget : Nat) → List Step → List Octets
  | _, [] => []
  | budget, step :: steps =>
      let needed := payloadOverhead + step.payload.length
      if needed ≤ budget then
        step.payload :: fitting (budget - needed) steps
      else []

/-- The payloads of the next run, for a datagram with the given room. -/
def run (redundancy : Redundancy) (predicted : StepQueue) (room : Nat) :
    List Octets :=
  fitting (room - runOverhead)
    ((predicted.stepsFrom redundancy.cursor).take longestRun)

/-- Count one more sending of the first steps. -/
def countSent : Nat → List Nat → List Nat
  | 0, counts => counts
  | length + 1, [] => 1 :: countSent length []
  | length + 1, count :: counts => (count + 1) :: countSent length counts

/--
The last run was handed over: count it, and move the cursor past the steps
sent often enough.
-/
def commit (redundancy : Redundancy) : Redundancy :=
  let counts := countSent redundancy.lastRun redundancy.sendCounts
  let finished := (counts.takeWhile fun count => copies ≤ count).length
  { cursor := redundancy.cursor + UInt32.ofNat finished
    sendCounts := counts.drop finished
    lastRun := 0 }

/-- The number of predicted steps beyond those that are being repeated. -/
def queueDepth (predicted : StepQueue) : Nat :=
  predicted.length - copies

end Redundancy

end StepSync
