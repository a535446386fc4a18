import StepSync.Numeric.Binary64
import StepSync.Proofs.Numeric.Rounding
import StepSync.Proofs.Numeric.Significant

namespace StepSync.Binary64

/-!
# Quotients that are rounded twice

A quotient of integers is first rounded to a number of binary64 precision, and
then to an integer.  A tie between two integers is hit exactly or missed by far,
as long as the dividend is shorter than 52 bits.  So the integer is the one that
is nearest to the quotient itself (`toNearest_div`).
-/

/-- Integers of up to 53 bits are numbers of binary64 precision. -/
theorem round_intCast {number : Int} (few : number.natAbs < 2 ^ precision) :
    round number = number := by
  have scaled : (number : ℚ) * 2 ^ 0 = number := by
    rw [pow_zero, mul_one]
  exact Numeric.roundTo_of_scaled scaled few

/-- The integer that a number is rounded to is the nearest one. -/
theorem isNearest_toNearest (number : ℚ) :
    Numeric.IsNearest number (toNearest number) := by
  have nearest :=
    (Numeric.isNearestAway_nearestAway number.num number.den_pos).isNearest
      number.den_pos
  rw [Rat.num_div_den] at nearest
  exact nearest

/-- A short dividend is divided and rounded as if the quotient were exact. -/
theorem toNearest_div
    {dividend : Int}
    {divisor : Nat}
    (short : dividend.natAbs < 2 ^ 52)
    (positive : 0 < divisor)
    (few : divisor < 2 ^ precision) :
    toNearest (div (round dividend) (round divisor)) =
      Numeric.nearestAway dividend divisor := by
  have notZero : (0 : ℚ) < divisor := Nat.cast_pos.mpr positive
  have atLeastOne : (1 : ℚ) ≤ divisor := by exact_mod_cast positive
  have shortCast : |(dividend : ℚ)| < 2 ^ 52 := by
    rw [← Int.cast_abs, ← Nat.cast_natAbs]
    exact_mod_cast short
  have size :
      |(dividend : ℚ) / divisor| * divisor = |(dividend : ℚ)| := by
    rw [abs_div, abs_of_pos notZero, div_mul_cancel₀ _ notZero.ne']
  have exactDividend : round dividend = dividend :=
    round_intCast (Nat.lt_trans short (by decide))
  have exactDivisor : round ((divisor : Int) : ℚ) = (divisor : Int) :=
    round_intCast few
  rw [Int.cast_natCast] at exactDivisor
  have nearest :=
    (Numeric.isNearestAway_nearestAway dividend positive).isNearest positive
  rw [exactDividend, exactDivisor]
  refine (isNearest_toNearest _).unique (nearest.of_close positive ?_ ?_)
  · have close :=
      Numeric.abs_roundTo_sub_le precision ((dividend : ℚ) / divisor)
    have power : (0 : ℚ) < 2 ^ precision := by positivity
    rw [← mul_lt_mul_iff_of_pos_right power]
    calc |div dividend divisor - dividend / divisor| * divisor *
          2 ^ precision
        = |div dividend divisor - dividend / divisor| * 2 ^ precision *
            divisor := by ring
      _ ≤ |(dividend : ℚ) / divisor| * divisor := by
          gcongr
          exact close
      _ = |(dividend : ℚ)| := size
      _ < 1 / 2 * 2 ^ precision := by
          rw [precision]
          linarith
  · intro twice isTwice
    have scaled : (dividend : ℚ) / divisor * 2 ^ 1 = twice := by
      rw [pow_one]
      exact isTwice
    refine Numeric.roundTo_of_scaled scaled ?_
    have sizeTwice : |(twice : ℚ)| < 2 ^ precision := by
      calc |(twice : ℚ)|
          = |(dividend : ℚ) / divisor| * 2 := by
            rw [← isTwice, abs_mul, abs_two]
        _ ≤ |(dividend : ℚ) / divisor| * divisor * 2 := by
            gcongr
            exact le_mul_of_one_le_right (abs_nonneg _) atLeastOne
        _ < 2 ^ precision := by
            rw [size, precision]
            linarith
    rw [← Int.cast_abs, ← Nat.cast_natAbs] at sizeTwice
    exact_mod_cast sizeTwice

/-- An integer that fits a signed word of 32 bits. -/
def FitsWord (number : Int) : Prop :=
  -2147483648 ≤ number ∧ number ≤ 2147483647

/-- An integer that fits a word is that word. -/
theorem toWord_of_fits {number : Int} (fits : FitsWord number) :
    toWord number = number := by
  obtain ⟨above, below⟩ := fits
  unfold toWord
  omega

end StepSync.Binary64
