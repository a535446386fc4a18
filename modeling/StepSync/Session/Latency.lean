import StepSync.Session.Action

namespace StepSync.Session

/-!
# Latency from echoed times

Datagrams carry the low 16 bits of the time at which they were sent, and the
server echoes them. The full time is the latest one, not after now, with these
low bits.
-/

/-- How many values 16 bits have. -/
def timeCircle : Nat :=
  65536

/-- The low bits of a time, as a datagram carries them. -/
def lowerBits (time : Nat) : UInt16 :=
  UInt16.ofNat time

/--
How long ago a time with the given low bits was; none if there was no such time.
-/
def elapsedSince? (now : Nat) (bits : UInt16) : Option Nat :=
  let candidate := now / timeCircle * timeCircle + bits.toNat
  if candidate ≤ now then some (now - candidate)
  else if timeCircle ≤ candidate then
    some (now - (candidate - timeCircle))
  else none

namespace Action

/--
The server has echoed a time: measure the latency, unless the time lies ahead.
-/
def measureLatency (bits : UInt16) : Action Unit := do
  let session ← current
  match elapsedSince? session.now bits with
  | none => note (.echoAhead bits)
  | some latency =>
      modify fun session =>
        { session with
          latency := some latency
          health := session.health.measuredLatency latency
          metrics := { session.metrics with
            latency :=
              session.metrics.latency.add (Metrics.timeSample latency) } }

end Action

end StepSync.Session
