import StepSync.Numeric.Rounding

namespace StepSync.Numeric

/-!
# Numbers of limited precision

A processor's numbers have so many significant bits: after every operation the
exact result is rounded to the nearest number with at most that many, a tie going
to the one whose last bit is zero. Numbers are exact rationals here, and never
near the ends of the exponent's range.
-/

/-- The exponent of the highest power of two that a positive quotient reaches. -/
def magnitude (numerator denominator : Nat) : Int :=
  let guess : Int := (numerator.log2 : Int) - (denominator.log2 : Int)
  if denominator <<< guess.toNat ≤ numerator <<< (-guess).toNat then guess
  else guess - 1

/-- The nearest number with so many significant bits; the sign is kept apart. -/
def roundTo (precision : Nat) (exact : Rat) : Rat :=
  let numerator := exact.num.natAbs
  if numerator = 0 then 0
  else
    let shift : Int :=
      (precision : Int) - 1 - magnitude numerator exact.den
    let significand :=
      nearestEven
        (numerator <<< shift.toNat) (exact.den <<< (-shift).toNat)
    mkRat (exact.num.sign * (significand <<< (-shift).toNat : Nat))
      (1 <<< shift.toNat)

end StepSync.Numeric
