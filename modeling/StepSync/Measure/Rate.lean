import StepSync.Numeric.Binary32

namespace StepSync

/-!
# Rates per second

Events are counted over periods. The first update that comes a whole period
after the last one turns the count into a rate and starts to count anew.
-/

/--
The least length of a period, its start and count, and the rate of the
period before.
-/
structure Rate where
  period : Nat
  start : Nat
  count : Nat
  perSecond : Option Rat
  deriving Repr, DecidableEq

namespace Rate

/-- Start to count; a period lasts at least one millisecond. -/
def startingAt (now period : Nat) : Rate where
  period := max period 1
  start := now
  count := 0
  perSecond := none

/-- Count events. -/
def add (rate : Rate) (events : Nat) : Rate :=
  { rate with count := rate.count + events }

/-- Events per second, from their number and the milliseconds they took. -/
def quotient (events elapsed : Nat) : Rat :=
  Binary32.div
    (Binary32.mul (Binary32.round events) 1000)
    (Binary32.round elapsed)

/-- End the period if it has lasted long enough. -/
def update (rate : Rate) (now : Nat) : Rate :=
  let elapsed := now - rate.start
  if elapsed < rate.period then rate
  else
    { rate with
      perSecond := some (quotient rate.count elapsed)
      count := 0
      start := now }

/-- The rate in words. -/
def text (rate : Rate) : String :=
  match rate.perSecond with
  | some perSecond => Binary32.onePlace perSecond ++ "/s"
  | none => "n/a"

end Rate

end StepSync
