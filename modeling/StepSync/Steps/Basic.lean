import StepSync.Octets.Basic

namespace StepSync

/-!
# Steps

The players' input for one turn of the simulation is a step. Steps are numbered
by 32-bit ids that wrap around.
-/

/-- The number of a step. -/
abbrev StepId := UInt32

/-- One step: its number and what the players put in. -/
structure Step where
  id : StepId
  payload : Octets
  deriving Repr, DecidableEq

/-- Why a queue refuses a step. -/
inductive StepError where
  | outOfOrder (expected found : StepId)
  | full (capacity : Nat)
  deriving Repr, DecidableEq

namespace StepError

/-- The error in words. -/
def message : StepError → String
  | outOfOrder expected found =>
      s!"step {found.toNat} written out of order, expected {expected.toNat}"
  | full capacity =>
      s!"step buffer is full ({capacity} steps)"

end StepError

end StepSync
