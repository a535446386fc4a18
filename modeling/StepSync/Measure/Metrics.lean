import StepSync.Measure.Rate
import StepSync.Measure.WindowAverage

namespace StepSync

/-!
# What a session measures

Averages of the buffers, of the latency and of the tick length, and rates of the
datagrams and of the steps.
-/

/-- The averages and rates of one session. -/
structure Metrics where
  readySteps : WindowAverage
  serverBuffer : WindowAverage
  bufferDelta : WindowAverage
  latency : WindowAverage
  outgoingQueue : WindowAverage
  tickDuration : WindowAverage
  datagramsIn : Rate
  datagramsOut : Rate
  stepsIn : Rate
  deriving Repr, DecidableEq

namespace Metrics

/-- The least length of a period over which rates are taken, in milliseconds. -/
def ratePeriod : Nat :=
  1000

/-- The greatest sample, a longer time counts as this long. -/
def greatestSample : Nat :=
  2147483647

/-- A time in milliseconds as a sample. -/
def timeSample (time : Nat) : Int :=
  (min time greatestSample : Nat)

/-- Nothing measured yet. -/
def startingAt (now : Nat) : Metrics where
  readySteps := WindowAverage.ofWindow 60
  serverBuffer := WindowAverage.ofWindow 10
  bufferDelta := WindowAverage.ofWindow 10
  latency := WindowAverage.ofWindow 10
  outgoingQueue := WindowAverage.ofWindow 60
  tickDuration := WindowAverage.ofWindow 30
  datagramsIn := Rate.startingAt now ratePeriod
  datagramsOut := Rate.startingAt now ratePeriod
  stepsIn := Rate.startingAt now ratePeriod

/-- End the periods that have lasted long enough. -/
def updateRates (metrics : Metrics) (now : Nat) : Metrics :=
  { metrics with
    datagramsIn := metrics.datagramsIn.update now
    datagramsOut := metrics.datagramsOut.update now
    stepsIn := metrics.stepsIn.update now }

/-- The measurements in words, one line each. -/
def lines (metrics : Metrics) : List String :=
  ["waiting authoritative steps: " ++ metrics.readySteps.text,
    "server incoming buffer: " ++ metrics.serverBuffer.text,
    "authoritative buffer delta: " ++ metrics.bufferDelta.text,
    "outgoing steps in queue: " ++ metrics.outgoingQueue.text,
    "latency ms: " ++ metrics.latency.text,
    "tick duration ms: " ++ metrics.tickDuration.text,
    "datagrams in " ++ metrics.datagramsIn.text ++ ", out " ++
      metrics.datagramsOut.text ++ ", authoritative steps in " ++
      metrics.stepsIn.text]

end Metrics

end StepSync
