import StepSync.Numeric.Significant

namespace StepSync

/-!
# Numbers of binary32 precision

Ratings and rates are computed with 24 significant bits. They are never negative.
-/

namespace Binary32

/-- The number of significant bits. -/
def precision : Nat :=
  24

/-- The nearest number of binary32 precision. -/
def round (exact : Rat) : Rat :=
  Numeric.roundTo precision exact

/-- The product, rounded. -/
def mul (left right : Rat) : Rat :=
  round (left * right)

/-- The quotient, rounded. -/
def div (left right : Rat) : Rat :=
  round (left / right)

/-- The difference, rounded. -/
def sub (left right : Rat) : Rat :=
  round (left - right)

/--
The 32 bits of a number of this precision: the biased exponent, then the
significand without its first bit.
-/
def bits (number : Rat) : UInt32 :=
  let numerator := number.num.toNat
  if numerator = 0 then 0
  else
    let exponent := Numeric.magnitude numerator number.den
    let shift : Int := (precision : Int) - 1 - exponent
    let significand :=
      (numerator <<< shift.toNat) / (number.den <<< (-shift).toNat)
    UInt32.ofNat
      ((exponent + 127).toNat <<< 23 + (significand - 1 <<< 23))

/-- The number with one decimal place, a half going to the even digit. -/
def onePlace (number : Rat) : String :=
  let tenths := Numeric.nearestEven (number.num.toNat * 10) number.den
  s!"{tenths / 10}.{tenths % 10}"

/-- The natural number nearest to a number, a half going up. -/
def toNearest (number : Rat) : Nat :=
  Numeric.nearestUp number.num.toNat number.den

example : bits 60 = 1114636288 := by decide +kernel
example : bits (div 1000 1001) = 0x3F7FBE88 := by decide +kernel

end Binary32

end StepSync
