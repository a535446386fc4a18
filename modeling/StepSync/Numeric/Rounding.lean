namespace StepSync.Numeric

/-!
# Rounding quotients to integers

A quotient is rounded to the nearest integer. A quotient halfway between two
integers goes to the even one or away from zero, as the use demands.
-/

/--
The integer nearest to a quotient of natural numbers, a half going
to the even one.
-/
def nearestEven (numerator denominator : Nat) : Nat :=
  let quotient := numerator / denominator
  let twiceRest := 2 * (numerator % denominator)
  if twiceRest < denominator then quotient
  else if denominator < twiceRest then quotient + 1
  else quotient + quotient % 2

/-- The natural number nearest to a quotient, a half going up. -/
def nearestUp (numerator denominator : Nat) : Nat :=
  (2 * numerator + denominator) / (2 * denominator)

/-- The integer nearest to a quotient, a half going away from zero. -/
def nearestAway (numerator : Int) (denominator : Nat) : Int :=
  if numerator < 0 then -(nearestUp numerator.natAbs denominator : Nat)
  else (nearestUp numerator.natAbs denominator : Nat)

example : nearestEven 5 2 = 2 ∧ nearestEven 7 2 = 4 := by decide
example : nearestAway 5 2 = 3 ∧ nearestAway (-5) 2 = -3 := by decide

end StepSync.Numeric
