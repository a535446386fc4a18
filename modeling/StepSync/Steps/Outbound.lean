import StepSync.Message.StepExchange
import StepSync.Octets.Writer
import StepSync.Steps.Redundancy

namespace StepSync

/-!
# Predicted steps on their way out

Predicted steps wait in a queue until the server has them; meanwhile runs of them
are sent redundantly.
-/

/-- The predicted steps held, and how often they were sent. -/
structure Outbound where
  predicted : StepQueue
  redundancy : Redundancy
  deriving Repr, DecidableEq

namespace Outbound

/-- No predicted steps, the first to come at the given id. -/
def startingAt (first : StepId) (capacity : Nat) : Outbound where
  predicted := StepQueue.startingAt first capacity
  redundancy := Redundancy.startingAt first

/-- Drop every predicted step and go on from another id. -/
def restart (outbound : Outbound) (first : StepId) : Outbound where
  predicted := outbound.predicted.restart first
  redundancy := Redundancy.startingAt first

/--
The server has every predicted step up to an id: drop them. The largest id
stands for none.
-/
def acknowledge (outbound : Outbound) (id : StepId) : Outbound :=
  { outbound with predicted := outbound.predicted.discardBelow (id + 1) }

/-- How many steps an acknowledgement drops. -/
def acknowledgedCount (outbound : Outbound) (id : StepId) : Nat :=
  outbound.predicted.countBelow (id + 1)

/--
Write the next run behind what a datagram holds already. The length of the run is
remembered whether or not it could be written.
-/
def writeRun (outbound : Outbound) (writer : Writer) :
    Except CursorError Nat × Writer × Outbound :=
  let current := outbound.redundancy.skipTo outbound.predicted.readId
  let payloads := current.run outbound.predicted writer.remaining
  let (result, written) :=
    writer.putAll (StepRun.fields current.cursor payloads)
  (result.map fun _ => payloads.length,
    written,
    { outbound with
      redundancy := { current with lastRun := payloads.length } })

/-- The datagram with the last run was handed over. -/
def commit (outbound : Outbound) : Outbound :=
  { outbound with redundancy := outbound.redundancy.commit }

end Outbound

end StepSync
