import StepSync.Journal.Basic
import StepSync.Measure.Metrics

namespace StepSync

/-!
# Health of the link

While a session is synced, every tick asks how long ago the last usable datagram
and the last new authoritative step came. A tick on which either is too long ago
is bad. Bad ticks count up and good ones down; when more than sixty are counted,
the link is given up, and that verdict stays. A rating from zero to five weighs
in losses and latency too, and has no part in the verdict.
-/

/-- What a tick says about the link. -/
inductive Verdict where
  | keep
  | noSteps
  | noDatagrams
  deriving Repr, DecidableEq

namespace Verdict

/-- The verdict in words. -/
def text : Verdict → String
  | keep => "keep connection"
  | noSteps => "not receiving steps from server"
  | noDatagrams => "not receiving datagrams from server"

end Verdict

/-- What is known of the link. -/
structure Health where
  latency : WindowAverage
  ratings : WindowAverage
  lastLatency : Int
  ticksWithoutDatagrams : Nat
  ticksWithoutSteps : Nat
  droppedDatagrams : Nat
  badTicks : Nat
  rating : Nat
  lastVerdict : Verdict
  verdict : Verdict
  deriving Repr, DecidableEq

namespace Health

/-- So many ticks without datagrams are bad. -/
def mostTicksWithoutDatagrams : Nat :=
  40

/-- More ticks without steps are bad. -/
def mostTicksWithoutSteps : Nat :=
  15

/-- From so many ticks on the rating suffers. -/
def tolerableTicks : Nat :=
  10

/-- At so many recent losses the rating is zero. -/
def mostDroppedDatagrams : Nat :=
  10

/-- From so many recent losses on the rating suffers. -/
def tolerableDroppedDatagrams : Nat :=
  1

/-- At so many milliseconds of latency the rating is zero. -/
def mostLatency : Nat :=
  250

/-- From so many milliseconds of latency on the rating suffers. -/
def tolerableLatency : Nat :=
  60

/-- A greater change of the latency is jitter. -/
def tolerableJitter : Int :=
  3

/-- What jitter takes off the rating: the binary32 number nearest to nine tenths. -/
def jitterFactor : Rat :=
  Binary32.div 9 10

/-- The rating of a perfect link. -/
def bestRating : Rat :=
  5

/-- With more bad ticks the link is given up. -/
def toleratedBadTicks : Nat :=
  60

/-- After so many further bad ticks the journal is reminded. -/
def reminderInterval : Nat :=
  20

/-- Nothing known yet. -/
def unknown : Health where
  latency := WindowAverage.ofWindow 3
  ratings := WindowAverage.ofWindow 10
  lastLatency := 0
  ticksWithoutDatagrams := 0
  ticksWithoutSteps := 0
  droppedDatagrams := 0
  badTicks := 0
  rating := 0
  lastVerdict := .keep
  verdict := .keep

/--
One below the tolerable value, zero above the most, in between on a
straight line.
-/
def factor (value most tolerable : Nat) : Rat :=
  if value < tolerable then 1
  else if most < value then 0
  else
    Binary32.sub 1
      (Binary32.div ((value - tolerable : Nat) : Rat)
        ((most - tolerable : Nat) : Rat))

/-- The factors that the latency and its jitter put on the rating. -/
def latencyFactors (health : Health) : Rat × Rat :=
  match health.latency.mean with
  | none => (1, 1)
  | some mean =>
      (factor mean.toNat mostLatency tolerableLatency,
        if tolerableJitter < (mean - health.lastLatency).natAbs then
          jitterFactor
        else 1)

/-- The rating of the link as it is. -/
def currentRating (health : Health) : Nat :=
  let datagrams :=
    factor health.ticksWithoutDatagrams mostTicksWithoutDatagrams
      tolerableTicks
  let steps :=
    factor health.ticksWithoutSteps mostTicksWithoutSteps tolerableTicks
  let dropped :=
    factor health.droppedDatagrams mostDroppedDatagrams
      tolerableDroppedDatagrams
  let (latency, jitter) := health.latencyFactors
  let total :=
    Binary32.mul
      (Binary32.mul (Binary32.mul (Binary32.mul datagrams steps) dropped)
        latency)
      jitter
  Binary32.toNearest (Binary32.mul total bestRating)

/--
What the ticks without datagrams and without steps say; missing
datagrams weigh more.
-/
def currentVerdict (health : Health) : Verdict :=
  if mostTicksWithoutDatagrams ≤ health.ticksWithoutDatagrams then
    .noDatagrams
  else if mostTicksWithoutSteps < health.ticksWithoutSteps then .noSteps
  else .keep

/-- Let a tick pass for the counters of what is missing. -/
def age (health : Health) : Health :=
  { health with
    ticksWithoutDatagrams := health.ticksWithoutDatagrams + 1
    ticksWithoutSteps := health.ticksWithoutSteps + 1
    droppedDatagrams := health.droppedDatagrams - 1 }

/-- Rate the link anew, and take down the verdict of this tick. -/
def assess (health : Health) : Health :=
  let rating := health.currentRating
  { health with
    lastLatency := health.latency.mean.getD health.lastLatency
    rating := rating
    ratings := health.ratings.add rating
    lastVerdict := health.currentVerdict }

/-- The state of the link in words. -/
def describe (health : Health) : String :=
  match health.lastVerdict with
  | .keep => s!"all good, rating {health.rating}"
  | .noSteps =>
      s!"{health.ticksWithoutSteps} ticks since last authoritative step, " ++
        s!"rating {health.rating}"
  | .noDatagrams =>
      s!"{health.ticksWithoutDatagrams} ticks since last valid datagram, " ++
        s!"rating {health.rating}"

/-- What the journal hears of the link. -/
inductive Notice where
  | dropped (count : Nat)
  | forgiven
  | degraded (health : Health)
  | stillDegraded (health : Health)
  | givenUp (health : Health)
  deriving Repr, DecidableEq

namespace Notice

/-- How important a notice is. -/
def level : Notice → Level
  | dropped _ => .debug
  | forgiven => .info
  | degraded _ => .warn
  | stillDegraded _ => .warn
  | givenUp _ => .warn

/-- The notice in words. -/
def text : Notice → String
  | dropped count => s!"dropped {count} datagram(s)"
  | forgiven => "quality problems are forgiven"
  | degraded health => "noticed quality degradation: " ++ health.describe
  | stillDegraded health => "still considering disconnect: " ++ health.describe
  | givenUp health => "giving up on connection: " ++ health.describe

/-- The notice as an entry of the journal. -/
def entry (topic : Topic) (notice : Notice) : Entry :=
  ⟨notice.level, topic, notice.text⟩

end Notice

/-- A good tick takes one bad tick off. -/
def forgive (health : Health) : Health × List Notice :=
  ({ health with badTicks := health.badTicks - 1 },
    if health.badTicks = 1 then [.forgiven] else [])

/-- A bad tick is counted; beyond the tolerated number the verdict becomes final. -/
def blame (health : Health) : Health × List Notice :=
  let counted := { health with badTicks := health.badTicks + 1 }
  let warnings : List Notice :=
    if counted.badTicks = 1 then [.degraded counted]
    else if counted.badTicks % reminderInterval = 0 then
      [.stillDegraded counted]
    else []
  if toleratedBadTicks < counted.badTicks ∧ counted.verdict = .keep then
    let final := { counted with verdict := counted.lastVerdict }
    (final, warnings ++ [.givenUp final])
  else (counted, warnings)

/-- Let one tick of a synced session pass. -/
def tick (health : Health) : Health × List Notice :=
  let assessed := health.age.assess
  match assessed.lastVerdict with
  | .keep => assessed.forgive
  | _ => assessed.blame

/-- Datagrams were found missing. -/
def dropped (health : Health) (count : Nat) : Health × List Notice :=
  if count = 0 then (health, [])
  else
    ({ health with droppedDatagrams := health.droppedDatagrams + count },
      [.dropped count])

/-- A usable datagram came. -/
def receivedDatagram (health : Health) : Health :=
  { health with ticksWithoutDatagrams := 0 }

/-- New authoritative steps came. -/
def receivedSteps (health : Health) (count : Nat) : Health :=
  if 0 < count then { health with ticksWithoutSteps := 0 } else health

/-- The latency was measured. -/
def measuredLatency (health : Health) (latency : Nat) : Health :=
  { health with latency := health.latency.add (Metrics.timeSample latency) }

/-- The link is to be given up. -/
def isGivenUp (health : Health) : Bool :=
  health.verdict != .keep

end Health

end StepSync
