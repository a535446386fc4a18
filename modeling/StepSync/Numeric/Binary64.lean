import StepSync.Numeric.Significant

namespace StepSync

/-!
# Numbers of binary64 precision

Means are computed with 53 significant bits, and become words of 32 bits afterwards.
-/

namespace Binary64

/-- The number of significant bits. -/
def precision : Nat :=
  53

/-- The nearest number of binary64 precision. -/
def round (exact : Rat) : Rat :=
  Numeric.roundTo precision exact

/-- The quotient, rounded. -/
def div (left right : Rat) : Rat :=
  round (left / right)

/-- The integer nearest to a number, a half going away from zero. -/
def toNearest (number : Rat) : Int :=
  Numeric.nearestAway number.num number.den

/--
An integer as a signed word of 32 bits; one beyond the ends counts as the end.
-/
def toWord (number : Int) : Int :=
  max (-2147483648) (min number 2147483647)

example : div 1 3 = 6004799503160661 / 18014398509481984 := by
  decide +kernel

end Binary64

end StepSync
