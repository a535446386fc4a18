import Mathlib.Algebra.Order.Field.Power
import Mathlib.Algebra.Order.Field.Rat
import Mathlib.Data.Rat.Cast.Order
import Mathlib.Tactic.FieldSimp
import Mathlib.Tactic.Linarith
import Mathlib.Tactic.Positivity
import Mathlib.Tactic.Ring
import StepSync.Numeric.Significant

namespace StepSync.Numeric

/-!
# How far rounding to significant bits goes

A number is scaled by a power of two until its integer part has as many bits as
there is room for, rounded to an integer, and scaled back (`exists_roundTo`).  So
rounding goes no further than half a unit of the last bit, and leaves numbers
alone that have no more bits than there is room for.
-/

/--
A quotient whose parts are shifted against each other is scaled by
a power of two.
-/
theorem shifted_quotient
    (numerator : Nat)
    {denominator : Nat}
    (positive : 0 < denominator)
    (shift : Int) :
    ((numerator <<< shift.toNat : Nat) : ℚ) /
        (denominator <<< (-shift).toNat : Nat) =
      numerator / denominator * 2 ^ shift := by
  have notZero : (denominator : ℚ) ≠ 0 := Nat.cast_ne_zero.mpr positive.ne'
  obtain ⟨places, rfl | rfl⟩ := shift.eq_nat_or_neg
  · rw [Int.toNat_natCast, Int.toNat_neg_natCast, Nat.shiftLeft_zero,
      Nat.shiftLeft_eq, zpow_natCast]
    push_cast
    ring
  · rw [neg_neg, Int.toNat_natCast, Int.toNat_neg_natCast,
      Nat.shiftLeft_zero, Nat.shiftLeft_eq, zpow_neg, zpow_natCast,
      Nat.cast_mul, Nat.cast_pow, Nat.cast_two, div_mul_eq_div_div]
    rfl

/-- A positive number lies between two powers of two, as its length in bits says. -/
theorem log2_bounds {number : Nat} (positive : 0 < number) :
    (2 : ℚ) ^ (number.log2 : Int) ≤ number ∧
      (number : ℚ) < 2 ^ (number.log2 + 1 : Int) := by
  have below := Nat.log2_self_le positive.ne'
  have above := Nat.lt_log2_self (n := number)
  rw [← Nat.cast_succ, zpow_natCast, zpow_natCast]
  exact ⟨by exact_mod_cast below, by exact_mod_cast above⟩

/-- The magnitude of a quotient is the power of two that it reaches. -/
theorem magnitude_spec
    {numerator denominator : Nat}
    (positive : 0 < numerator)
    (divides : 0 < denominator) :
    (2 : ℚ) ^ magnitude numerator denominator ≤ numerator / denominator ∧
      (numerator : ℚ) / denominator <
        2 ^ (magnitude numerator denominator + 1) := by
  obtain ⟨aboveLow, aboveHigh⟩ := log2_bounds positive
  obtain ⟨belowLow, belowHigh⟩ := log2_bounds divides
  have notZero : (0 : ℚ) < denominator := Nat.cast_pos.mpr divides
  have two : (2 : ℚ) ≠ 0 := two_ne_zero
  unfold magnitude
  generalize guessed :
    (numerator.log2 : Int) - (denominator.log2 : Int) = guess
  have reaches :
      denominator <<< guess.toNat ≤ numerator <<< (-guess).toNat ↔
        (2 : ℚ) ^ guess ≤ numerator / denominator := by
    have scaled := shifted_quotient numerator divides (-guess)
    rw [neg_neg] at scaled
    have shifted : (0 : ℚ) < (denominator <<< guess.toNat : Nat) := by
      rw [Nat.shiftLeft_eq]
      positivity
    rw [← Nat.cast_le (α := ℚ), ← one_le_div shifted, scaled, zpow_neg,
      ← div_eq_mul_inv, one_le_div (by positivity)]
  have high : (numerator : ℚ) / denominator < 2 ^ (guess + 1) := by
    rw [div_lt_iff₀ notZero]
    calc (numerator : ℚ)
        < 2 ^ (numerator.log2 + 1 : Int) := aboveHigh
      _ = 2 ^ (guess + 1) * 2 ^ (denominator.log2 : Int) := by
          rw [← zpow_add₀ two]
          congr 1
          omega
      _ ≤ 2 ^ (guess + 1) * denominator := by gcongr
  have low : (2 : ℚ) ^ (guess - 1) < numerator / denominator := by
    rw [lt_div_iff₀ notZero]
    calc (2 : ℚ) ^ (guess - 1) * denominator
        < 2 ^ (guess - 1) * 2 ^ (denominator.log2 + 1 : Int) := by gcongr
      _ = 2 ^ (numerator.log2 : Int) := by
          rw [← zpow_add₀ two]
          congr 1
          omega
      _ ≤ numerator := aboveLow
  dsimp only
  by_cases reached : denominator <<< guess.toNat ≤ numerator <<< (-guess).toNat
  · rw [if_pos reached]
    exact ⟨reaches.mp reached, high⟩
  · rw [if_neg reached, sub_add_cancel]
    exact ⟨low.le, lt_of_not_ge (mt reaches.mpr reached)⟩

/--
The product with the nearest integer is no further than half a denominator away,
and a whole quotient is its own nearest integer.
-/
theorem nearestEven_spec (numerator : Nat) {denominator : Nat}
    (positive : 0 < denominator) :
    2 * (denominator * nearestEven numerator denominator) ≤
        2 * numerator + denominator ∧
      2 * numerator ≤
        2 * (denominator * nearestEven numerator denominator) +
          denominator ∧
      ∀ whole, numerator = denominator * whole →
        nearestEven numerator denominator = whole := by
  have parts := Nat.div_add_mod numerator denominator
  have rest := Nat.mod_lt numerator positive
  have wholly (whole : Nat) (same : numerator = denominator * whole) :
      numerator / denominator = whole ∧ numerator % denominator = 0 := by
    rw [same]
    exact ⟨Nat.mul_div_cancel_left whole positive, Nat.mul_mod_right _ _⟩
  unfold nearestEven
  dsimp only
  generalize numerator / denominator = quotient at parts wholly
  generalize numerator % denominator = left at parts rest wholly
  by_cases below : 2 * left < denominator
  · rw [if_pos below]
    refine ⟨by omega, by omega, fun whole same => (wholly whole same).1⟩
  · have notWhole (whole : Nat) : numerator ≠ denominator * whole := by
      intro same
      have := (wholly whole same).2
      omega
    rw [if_neg below]
    by_cases above : denominator < 2 * left
    · rw [if_pos above, Nat.mul_succ]
      exact ⟨by omega, by omega, fun whole same => absurd same (notWhole whole)⟩
    · rw [if_neg above, Nat.mul_add]
      rcases Nat.mod_two_eq_zero_or_one quotient with even | odd
      · rw [even, Nat.mul_zero]
        exact
          ⟨by omega, by omega, fun whole same => absurd same (notWhole whole)⟩
      · rw [odd, Nat.mul_one]
        exact
          ⟨by omega, by omega, fun whole same => absurd same (notWhole whole)⟩

/-- The same of the quotient itself. -/
theorem abs_nearestEven_sub_le (numerator : Nat) {denominator : Nat}
    (positive : 0 < denominator) :
    |(nearestEven numerator denominator : ℚ) - numerator / denominator| ≤
      1 / 2 := by
  obtain ⟨below, above, _⟩ := nearestEven_spec numerator positive
  have notZero : (0 : ℚ) < denominator := Nat.cast_pos.mpr positive
  have belowCast :
      (2 : ℚ) * (denominator * nearestEven numerator denominator) ≤
        2 * numerator + denominator := by
    exact_mod_cast below
  have aboveCast :
      (2 : ℚ) * numerator ≤
        2 * (denominator * nearestEven numerator denominator) +
          denominator := by
    exact_mod_cast above
  rw [abs_le, ← mul_le_mul_iff_of_pos_left notZero,
    ← mul_le_mul_iff_of_pos_left (a := (denominator : ℚ)) notZero]
  constructor <;> field_simp <;> linarith

/--
A number that is rounded is scaled until its integer part has as many bits as
there is room for; what is left is the nearest integer, scaled back.
-/
theorem exists_roundTo (precision : Nat) {exact : ℚ} (notZero : exact ≠ 0) :
    ∃ (shift : Int) (significand : Nat),
      roundTo precision exact =
          exact.num.sign * significand * 2 ^ (-shift) ∧
        2 ^ (precision - 1 : Int) ≤ |exact| * 2 ^ shift ∧
        |exact| * 2 ^ shift < 2 ^ (precision : Int) ∧
        |(significand : ℚ) - |exact| * 2 ^ shift| ≤ 1 / 2 ∧
        ∀ whole : Nat, |exact| * 2 ^ shift = whole →
          significand = whole := by
  have positive : 0 < exact.num.natAbs :=
    Int.natAbs_pos.mpr (Rat.num_ne_zero.mpr notZero)
  have size : |exact| = (exact.num.natAbs : ℚ) / exact.den := by
    rw [Rat.abs_def, Rat.divInt_eq_div, Int.cast_natCast, Int.cast_natCast]
  obtain ⟨low, high⟩ := magnitude_spec positive exact.den_pos
  unfold roundTo
  dsimp only
  rw [if_neg positive.ne', size]
  generalize magnitude exact.num.natAbs exact.den = reached at low high
  generalize shifts : (precision : Int) - 1 - reached = shift
  have scaled := shifted_quotient exact.num.natAbs exact.den_pos shift
  have divides : 0 < exact.den <<< (-shift).toNat := by
    rw [Nat.shiftLeft_eq]
    exact Nat.mul_pos exact.den_pos (Nat.two_pow_pos _)
  generalize exact.num.natAbs <<< shift.toNat = dividend at scaled
  generalize exact.den <<< (-shift).toNat = divisor at scaled divides
  have near := abs_nearestEven_sub_le dividend divides
  rw [scaled] at near
  refine ⟨shift, nearestEven dividend divisor, ?_, ?_, ?_, near, ?_⟩
  · have back :=
      shifted_quotient (nearestEven dividend divisor) Nat.one_pos (-shift)
    rw [neg_neg, Nat.cast_one, div_one] at back
    rw [Rat.mkRat_eq_div, Int.cast_mul, mul_div_assoc, Int.cast_natCast,
      back, mul_assoc]
  · calc (2 : ℚ) ^ (precision - 1 : Int)
        = 2 ^ reached * 2 ^ shift := by
          rw [← zpow_add₀ two_ne_zero]
          congr 1
          omega
      _ ≤ exact.num.natAbs / exact.den * 2 ^ shift := by gcongr
  · calc (exact.num.natAbs : ℚ) / exact.den * 2 ^ shift
        < 2 ^ (reached + 1) * 2 ^ shift := by gcongr
      _ = 2 ^ (precision : Int) := by
          rw [← zpow_add₀ two_ne_zero]
          congr 1
          omega
  · intro whole same
    refine (nearestEven_spec dividend divides).2.2 whole ?_
    rw [← scaled, div_eq_iff (Nat.cast_ne_zero.mpr divides.ne')] at same
    rw [Nat.mul_comm]
    exact_mod_cast same

/-- A number is its size with its sign. -/
theorem sign_mul_abs (exact : ℚ) :
    (exact.num.sign : ℚ) * |exact| = exact := by
  rcases lt_trichotomy exact 0 with negative | rfl | positive
  · rw [Int.sign_eq_neg_one_of_neg (Rat.num_neg.mpr negative),
      abs_of_neg negative]
    push_cast
    ring
  · rw [abs_zero, mul_zero]
  · rw [Int.sign_eq_one_of_pos (Rat.num_pos.mpr positive),
      abs_of_pos positive, Int.cast_one, one_mul]

theorem abs_sign {exact : ℚ} (notZero : exact ≠ 0) :
    |(exact.num.sign : ℚ)| = 1 := by
  have size : |exact| ≠ 0 := abs_ne_zero.mpr notZero
  have same := congrArg abs (sign_mul_abs exact)
  rw [abs_mul, abs_abs] at same
  exact mul_right_cancel₀ size (same.trans (one_mul _).symm)

/-- Rounding goes no further than the size of the number over a power of two. -/
theorem abs_roundTo_sub_le (precision : Nat) (exact : ℚ) :
    |roundTo precision exact - exact| * 2 ^ precision ≤ |exact| := by
  by_cases isZero : exact = 0
  · subst isZero
    simp [roundTo]
  obtain ⟨shift, significand, value, low, _, near, _⟩ :=
    exists_roundTo precision isZero
  have unit : (0 : ℚ) < 2 ^ shift := zpow_pos two_pos shift
  have back : (2 : ℚ) ^ (-shift) * 2 ^ shift = 1 := by
    rw [← zpow_add₀ two_ne_zero, neg_add_cancel, zpow_zero]
  have further :
      |roundTo precision exact - exact| * 2 ^ shift =
        |(significand : ℚ) - |exact| * 2 ^ shift| := by
    calc |roundTo precision exact - exact| * 2 ^ shift
        = |(roundTo precision exact - exact) * 2 ^ shift| := by
          rw [abs_mul, abs_of_pos unit]
      _ = |exact.num.sign * ((significand : ℚ) - |exact| * 2 ^ shift)| := by
          congr 1
          have whole := sign_mul_abs exact
          rw [value, sub_mul, mul_assoc, back, mul_sub, ← mul_assoc, whole,
            mul_one]
      _ = |(significand : ℚ) - |exact| * 2 ^ shift| := by
          rw [abs_mul, abs_sign isZero, one_mul]
  have bits :
      (2 : ℚ) ^ precision = 2 ^ (precision - 1 : Int) * 2 := by
    rw [← zpow_natCast, ← zpow_add_one₀ two_ne_zero, sub_add_cancel]
  rw [← mul_le_mul_iff_of_pos_right unit]
  calc |roundTo precision exact - exact| * 2 ^ precision * 2 ^ shift
      = |roundTo precision exact - exact| * 2 ^ shift *
          (2 ^ (precision - 1 : Int) * 2) := by
        rw [bits]
        ring
    _ ≤ 1 / 2 * (2 ^ (precision - 1 : Int) * 2) := by
        rw [further]
        gcongr
    _ = 2 ^ (precision - 1 : Int) := by ring
    _ ≤ |exact| * 2 ^ shift := low

/--
A number that is whole once it is scaled, and has few bits then, is left alone.
-/
theorem roundTo_of_scaled
    {precision places : Nat}
    {exact : ℚ}
    {whole : Int}
    (scaled : exact * 2 ^ places = whole)
    (few : whole.natAbs < 2 ^ precision) :
    roundTo precision exact = exact := by
  by_cases isZero : exact = 0
  · subst isZero
    simp [roundTo]
  obtain ⟨shift, significand, value, low, _, _, isWhole⟩ :=
    exists_roundTo precision isZero
  have size : |exact| * 2 ^ (places : Int) = (whole.natAbs : ℚ) := by
    rw [zpow_natCast, Nat.cast_natAbs, Int.cast_abs, ← scaled, abs_mul,
      abs_pow, abs_two]
  have enough : (places : Int) ≤ shift := by
    by_contra less
    have more : shift + 1 ≤ (places : Int) := by omega
    have bound : (whole.natAbs : ℚ) < 2 ^ (precision : Int) := by
      rw [zpow_natCast]
      exact_mod_cast few
    have contradicts : (2 : ℚ) ^ (precision : Int) < 2 ^ (precision : Int) := by
      calc (2 : ℚ) ^ (precision : Int)
          = 2 ^ (precision - 1 : Int) * 2 := by
            rw [← zpow_add_one₀ two_ne_zero, sub_add_cancel]
        _ ≤ |exact| * 2 ^ shift * 2 := by gcongr
        _ = |exact| * 2 ^ (shift + 1) := by
            rw [zpow_add_one₀ two_ne_zero, mul_assoc]
        _ ≤ |exact| * 2 ^ (places : Int) := by
            gcongr
            exact one_le_two
        _ < 2 ^ (precision : Int) := size ▸ bound
    exact lt_irrefl _ contradicts
  obtain ⟨further, rfl⟩ := Int.le.dest enough
  have shifted :
      |exact| * 2 ^ ((places : Int) + further) =
        (whole.natAbs * 2 ^ further : Nat) := by
    rw [zpow_add₀ two_ne_zero, ← mul_assoc, size, zpow_natCast]
    push_cast
    ring
  have back :
      (2 : ℚ) ^ ((places : Int) + further) *
        2 ^ (-((places : Int) + further)) = 1 := by
    rw [← zpow_add₀ two_ne_zero, add_neg_cancel, zpow_zero]
  rw [value, isWhole _ shifted, ← shifted, mul_assoc, mul_assoc, back,
    mul_one, sign_mul_abs]

end StepSync.Numeric
