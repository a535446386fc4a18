namespace StepSync

/-!
# How far to predict ahead

A prediction has to reach the server before its turn comes. The lead is the
latency in ticks, rounded up, and one more; when the server reports that it runs
short of steps, up to five ticks are added.
-/

/-- The steps that the server should have in reserve. -/
def wantedReserve : Int :=
  2

/-- The most ticks added for a missing reserve. -/
def mostExtraTicks : Int :=
  5

/-- Ticks added when the server's mean reserve is below the wanted one. -/
def extraTicks (reserve : Option Int) : Nat :=
  match reserve with
  | none => 0
  | some reserve =>
      if reserve < wantedReserve then
        (min (wantedReserve - reserve) mostExtraTicks).toNat
      else 0

/--
Ticks that a latency lasts, rounded up; a tick lasts at least one millisecond.
-/
def latencyTicks (latency : Int) (tickDuration : Nat) : Nat :=
  let tick := max tickDuration 1
  (latency.toNat + (tick - 1)) / tick

/-- How many ticks prediction should run ahead, once a mean latency is known. -/
def predictionLead
    (latency reserve : Option Int) (tickDuration : Nat) : Option Nat :=
  latency.map fun latency =>
    latencyTicks latency tickDuration + 1 + extraTicks reserve

end StepSync
