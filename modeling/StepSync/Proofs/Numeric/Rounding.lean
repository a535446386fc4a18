import Mathlib.Algebra.Order.Field.Basic
import Mathlib.Algebra.Order.Field.Rat
import Mathlib.Algebra.Order.Ring.Abs
import Mathlib.Data.Rat.Cast.Order
import Mathlib.Tactic.Linarith
import Mathlib.Tactic.Ring
import StepSync.Numeric.Rounding

namespace StepSync

/-!
# The nearest integer

An integer is nearest to a quotient if it is no further than a half away, and on a
tie not the one closer to zero.  There is one such integer
(`Numeric.IsNearestAway.unique`), and rounding finds it.  A number so close to the
quotient that no tie lies between them has the same nearest integer
(`Numeric.IsNearest.of_close`).
-/

namespace Numeric

/--
An integer is nearest to a quotient, and on a tie it is the one that is
further from zero.
-/
structure IsNearestAway
    (numerator : Int)
    (denominator : Nat)
    (nearest : Int) :
    Prop where
  near : 2 * (denominator * nearest - numerator).natAbs ≤ denominator
  tie :
    2 * (denominator * nearest - numerator).natAbs = denominator →
      numerator.natAbs ≤ denominator * nearest.natAbs

/-- Rounding up a half keeps the product within half a denominator. -/
theorem nearestUp_spec (numerator : Nat) {denominator : Nat}
    (positive : 0 < denominator) :
    2 * (denominator * nearestUp numerator denominator) ≤
        2 * numerator + denominator ∧
      2 * numerator <
        2 * (denominator * nearestUp numerator denominator) +
          denominator := by
  unfold nearestUp
  have below :=
    Nat.mul_div_le (2 * numerator + denominator) (2 * denominator)
  have above :=
    Nat.lt_mul_div_succ (2 * numerator + denominator)
      (Nat.mul_pos (by decide : 0 < 2) positive)
  rw [Nat.mul_assoc] at below
  rw [Nat.mul_succ, Nat.mul_assoc] at above
  omega

theorem isNearestAway_nearestAway
    (numerator : Int)
    {denominator : Nat}
    (positive : 0 < denominator) :
    IsNearestAway numerator denominator
      (nearestAway numerator denominator) := by
  obtain ⟨below, above⟩ := nearestUp_spec numerator.natAbs positive
  have product (nearest : Nat) :
      ((denominator : Int) * (nearest : Int)) =
        ((denominator * nearest : Nat) : Int) :=
    (Int.natCast_mul denominator nearest).symm
  unfold nearestAway
  split
  case isTrue negative =>
    constructor
    · rw [Int.mul_neg, product]
      omega
    · rw [Int.mul_neg, product, Int.natAbs_neg, Int.natAbs_natCast]
      omega
  case isFalse =>
    constructor
    · rw [product]
      omega
    · rw [product, Int.natAbs_natCast]
      omega

/-- The same of a rational number. -/
structure IsNearest (number : ℚ) (nearest : Int) : Prop where
  near : |nearest - number| ≤ 1 / 2
  tie : |nearest - number| = 1 / 2 → |number| ≤ |(nearest : ℚ)|

/-- A distance from a quotient is that of integers, over the denominator. -/
theorem abs_sub_quotient
    (numerator nearest : Int)
    {denominator : Nat}
    (positive : 0 < denominator) :
    |(nearest : ℚ) - numerator / denominator| * denominator =
      (denominator * nearest - numerator).natAbs := by
  have notZero : (0 : ℚ) < denominator := Nat.cast_pos.mpr positive
  rw [Nat.cast_natAbs, Int.cast_abs, ← abs_of_pos notZero, ← abs_mul,
    abs_of_pos notZero, sub_mul, div_mul_cancel₀ _ notZero.ne']
  push_cast
  rw [mul_comm]

/--
An integer that is nearest to a quotient is nearest to it as a rational number.
-/
theorem IsNearestAway.isNearest
    {numerator nearest : Int}
    {denominator : Nat}
    (found : IsNearestAway numerator denominator nearest)
    (positive : 0 < denominator) :
    IsNearest (numerator / denominator) nearest := by
  have notZero : (0 : ℚ) < denominator := Nat.cast_pos.mpr positive
  have scaled := abs_sub_quotient numerator nearest positive
  constructor
  case near =>
    have near :
        (2 : ℚ) * (denominator * nearest - numerator).natAbs ≤
          denominator := by
      exact_mod_cast found.near
    rw [← scaled] at near
    rw [← mul_le_mul_iff_of_pos_right notZero]
    linarith
  case tie =>
    intro tie
    have twice :
        (2 : ℚ) * (denominator * nearest - numerator).natAbs =
          denominator := by
      rw [← scaled, tie]
      ring
    have further := found.tie (by exact_mod_cast twice)
    have furtherCast :
        (numerator.natAbs : ℚ) ≤ denominator * nearest.natAbs := by
      exact_mod_cast further
    rw [Nat.cast_natAbs, Nat.cast_natAbs, Int.cast_abs,
      Int.cast_abs] at furtherCast
    rw [abs_div, abs_of_pos notZero, div_le_iff₀ notZero, mul_comm]
    exact furtherCast

/-- Of two neighbours that are equally near, the one further from zero is taken. -/
theorem IsNearest.le
    {number : ℚ}
    {first second : Int}
    (nearFirst : IsNearest number first)
    (nearSecond : IsNearest number second) :
    second ≤ first := by
  refine not_lt.mp fun less => ?_
  have next : first + 1 ≤ second := less
  have nextCast : (first : ℚ) + 1 ≤ second := by exact_mod_cast next
  have above := abs_le.mp nearFirst.near
  have below := abs_le.mp nearSecond.near
  have middle : number = first + 1 / 2 := by linarith
  have same : (second : ℚ) = first + 1 := by linarith
  have tieFirst : |(first : ℚ) - number| = 1 / 2 := by
    rw [middle, sub_add_cancel_left, abs_neg, abs_of_pos (by norm_num)]
  have tieSecond : |(second : ℚ) - number| = 1 / 2 := by
    rw [middle, same, add_sub_add_left_eq_sub, abs_of_pos (by norm_num)]
    norm_num
  have furtherFirst := nearFirst.tie tieFirst
  have furtherSecond := nearSecond.tie tieSecond
  rcases lt_or_ge first 0 with negative | positive
  · have atMost : (first : ℚ) ≤ -1 := by
      exact_mod_cast Int.le_sub_one_of_lt negative
    rw [middle, same, abs_of_neg (by linarith),
      abs_of_nonpos (by linarith)] at furtherSecond
    linarith
  · have atLeast : (0 : ℚ) ≤ first := by exact_mod_cast positive
    rw [middle, abs_of_pos (by linarith),
      abs_of_nonneg atLeast] at furtherFirst
    linarith

/-- There is one nearest integer. -/
theorem IsNearest.unique
    {number : ℚ}
    {first second : Int}
    (nearFirst : IsNearest number first)
    (nearSecond : IsNearest number second) :
    first = second :=
  le_antisymm (nearSecond.le nearFirst) (nearFirst.le nearSecond)

/--
A number that is so close to a quotient that no tie lies between has the same
nearest integer.
-/
theorem IsNearest.of_close
    {numerator nearest : Int}
    {denominator : Nat}
    (found : IsNearest (numerator / denominator) nearest)
    (positive : 0 < denominator)
    {number : ℚ}
    (close : |number - numerator / denominator| * denominator < 1 / 2)
    (onTie : ∀ twice : Int,
      (numerator : ℚ) / denominator * 2 = twice →
        number = numerator / denominator) :
    IsNearest number nearest := by
  have notZero : (0 : ℚ) < denominator := Nat.cast_pos.mpr positive
  by_cases tie : |(nearest : ℚ) - numerator / denominator| = 1 / 2
  · have half : ∃ twice : Int,
        (numerator : ℚ) / denominator * 2 = twice := by
      rcases eq_or_eq_neg_of_abs_eq tie with above | below
      · refine ⟨2 * nearest - 1, ?_⟩
        push_cast
        linarith
      · refine ⟨2 * nearest + 1, ?_⟩
        push_cast
        linarith
    obtain ⟨twice, isTwice⟩ := half
    rw [onTie twice isTwice]
    exact found
  · have scaled := abs_sub_quotient numerator nearest positive
    have apart :
        (2 : ℚ) * (denominator * nearest - numerator).natAbs <
          denominator := by
      rw [← scaled, ← lt_div_iff₀' two_pos]
      calc |(nearest : ℚ) - numerator / denominator| * denominator
          < 1 / 2 * denominator := by
            gcongr
            exact lt_of_le_of_ne found.near tie
        _ = denominator / 2 := by ring
    -- Integers that differ are apart by one, which leaves half of one here.
    have room :
        (2 : ℚ) * (denominator * nearest - numerator).natAbs + 1 ≤
          denominator := by
      exact_mod_cast apart
    have strict : |(nearest : ℚ) - number| < 1 / 2 := by
      rw [← mul_lt_mul_iff_of_pos_right notZero]
      calc |(nearest : ℚ) - number| * denominator
          ≤ (|(nearest : ℚ) - numerator / denominator| +
              |number - numerator / denominator|) * denominator := by
            gcongr
            rw [abs_sub_comm number]
            exact abs_sub_le _ _ _
        _ < 1 / 2 * denominator := by linarith
    exact ⟨strict.le, fun equal => absurd equal strict.ne⟩

end Numeric

end StepSync
