import StepSync.Session.Action
import StepSync.Steps.Lead

namespace StepSync.Session

/-!
# Writing predictions and reading authoritative steps
-/

/-- A further predicted step fits. -/
def canPredict (session : Session) : Bool :=
  !session.outbound.predicted.isFull

/-- How many ticks prediction should run ahead of the authoritative steps. -/
def predictionLead (session : Session) : Option Nat :=
  StepSync.predictionLead session.metrics.latency.mean
    session.metrics.bufferDelta.mean session.settings.tickDuration.toNat

/-- The step that prediction should be at. -/
def wantedPrediction (session : Session) : Option StepId :=
  session.predictionLead.map fun lead =>
    session.inbound.ready.nextId + UInt32.ofNat lead

namespace Action

/-- Append a predicted step, whose id is the result. -/
def predict (payload : Octets) : Action StepId := do
  let session ← current
  let limit := session.settings.stepOctets
  if limit < payload.length then refuse (.stepTooLarge payload.length limit)
  else if session.canPredict then
    let id := session.outbound.predicted.nextId
    match session.outbound.predicted.write id payload with
    | .error failure => refuse (.step failure)
    | .ok longer =>
        modify fun session =>
          { session with
            outbound := { session.outbound with predicted := longer } }
        note (.stepPredicted id)
        return id
  else refuse .predictedFull

/-- Take the next authoritative step, if one is ready. -/
def readStep : Action (Option Step) := do
  let session ← current
  match session.inbound.read with
  | none => return none
  | some reading =>
      modify fun session => { session with inbound := reading.inbound }
      match reading.refused with
      | none => return some reading.step
      | some failure =>
          note (.refillRefused failure)
          return some reading.step

end Action

end StepSync.Session
