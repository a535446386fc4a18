import Mathlib.Algebra.Order.BigOperators.Group.List
import Mathlib.Algebra.Order.Ring.Int
import StepSync.Measure.WindowAverage
import StepSync.Proofs.Numeric.Binary64

namespace StepSync

/-!
# Averages are over the last samples

Adding samples one after the other, with the oldest one going when the window is
full, keeps the last samples and their sum (`WindowAverage.Covers.add`).  So a
full window has the mean of the last samples, rounded to the nearest integer
(`WindowAverage.Covers.mean_eq`), and that lies where the samples lie.
-/

namespace Numeric

/--
The mean of some integers, rounded to the nearest one, a half going
away from zero.
-/
def roundedMean (samples : List Int) : Int :=
  nearestAway samples.sum samples.length

/-- The rounded mean is at most the greatest of the samples. -/
theorem roundedMean_le
    {samples : List Int}
    {greatest : Int}
    (positive : 0 < samples.length)
    (within : ∀ sample ∈ samples, sample ≤ greatest) :
    roundedMean samples ≤ greatest := by
  have near := (isNearestAway_nearestAway samples.sum positive).near
  have sum := List.sum_le_card_nsmul samples greatest within
  rw [nsmul_eq_mul] at sum
  unfold roundedMean
  generalize nearestAway samples.sum samples.length = mean at near ⊢
  -- A mean one greater would be a whole denominator away from the sum.
  apply Int.le_of_not_gt
  intro greater
  have further :
      (samples.length : Int) * (greatest + 1) ≤ samples.length * mean :=
    Int.mul_le_mul_of_nonneg_left (by omega) (by omega)
  rw [Int.mul_add, Int.mul_one] at further
  omega

/-- The rounded mean is at least the least of the samples. -/
theorem le_roundedMean
    {samples : List Int}
    {least : Int}
    (positive : 0 < samples.length)
    (within : ∀ sample ∈ samples, least ≤ sample) :
    least ≤ roundedMean samples := by
  have near := (isNearestAway_nearestAway samples.sum positive).near
  have sum := List.card_nsmul_le_sum samples least within
  rw [nsmul_eq_mul] at sum
  unfold roundedMean
  generalize nearestAway samples.sum samples.length = mean at near ⊢
  apply Int.le_of_not_gt
  intro less
  have further :
      (samples.length : Int) * (mean + 1) ≤ samples.length * least :=
    Int.mul_le_mul_of_nonneg_left (by omega) (by omega)
  rw [Int.mul_add, Int.mul_one] at further
  omega

/-- The sum of some words is not much longer than a word. -/
theorem natAbs_sum_le
    {samples : List Int}
    (words : ∀ sample ∈ samples, Binary64.FitsWord sample) :
    samples.sum.natAbs ≤ 2147483648 * samples.length := by
  have above :=
    List.card_nsmul_le_sum samples _ fun sample member =>
      (words sample member).1
  have below :=
    List.sum_le_card_nsmul samples _ fun sample member =>
      (words sample member).2
  rw [nsmul_eq_mul] at above below
  omega

end Numeric

namespace WindowAverage

/-- The last samples, at most so many. -/
def lastOf (count : Nat) (samples : List Int) : List Int :=
  samples.drop (samples.length - count)

theorem length_lastOf (count : Nat) (samples : List Int) :
    (lastOf count samples).length = min count samples.length := by
  rw [lastOf, List.length_drop]
  omega

theorem mem_of_mem_lastOf
    {count : Nat}
    {samples : List Int}
    {sample : Int}
    (member : sample ∈ lastOf count samples) :
    sample ∈ samples :=
  List.mem_of_mem_drop member

/-- A new sample takes the place of the oldest of so many. -/
theorem lastOf_concat
    {count : Nat}
    (positive : 0 < count)
    (samples : List Int)
    (sample : Int) :
    lastOf count (samples ++ [sample]) =
      lastOf (count - 1) samples ++ [sample] := by
  have same :
      (samples ++ [sample]).length - count =
        samples.length - (count - 1) := by
    rw [List.length_append, List.length_singleton]
    omega
  rw [lastOf, lastOf, same,
    List.drop_append_of_le_length (Nat.sub_le _ _)]

/-- Of so many samples, all but the oldest are one less. -/
theorem tail_lastOf
    {count : Nat}
    (positive : 0 < count)
    {samples : List Int}
    (many : count ≤ samples.length) :
    (lastOf count samples).tail = lastOf (count - 1) samples := by
  have oneMore :
      samples.length - count + 1 = samples.length - (count - 1) := by
    omega
  rw [lastOf, lastOf, List.tail_drop, oneMore]

/-- If there are fewer, they are all there. -/
theorem lastOf_eq_self
    {count : Nat}
    {samples : List Int}
    (few : samples.length ≤ count) :
    lastOf count samples = samples := by
  rw [lastOf, Nat.sub_eq_zero_of_le few, List.drop_zero]

/--
The window holds the last of the samples that were added, and it is known what
their sum is and whether there are enough of them.
-/
structure Covers
    (average : WindowAverage)
    (window : Nat)
    (added : List Int) :
    Prop where
  positive : 0 < window
  sameWindow : average.window = window
  samples : average.samples = lastOf window added
  sum : average.sum = (lastOf window added).sum
  filled : average.filled = decide (window ≤ added.length)

theorem covers_ofWindow (window : Nat) :
    (ofWindow window).Covers (max window 1) [] where
  positive := Nat.lt_of_lt_of_le Nat.zero_lt_one (Nat.le_max_right _ _)
  sameWindow := rfl
  samples := by simp [ofWindow, lastOf]
  sum := by simp [ofWindow, lastOf]
  filled := (decide_eq_false (by rw [List.length_nil]; omega)).symm

namespace Covers

variable {average : WindowAverage} {window : Nat} {added : List Int}

/-- The window is full once so many samples were added. -/
theorem length_samples_eq_iff (covers : average.Covers window added) :
    average.samples.length = average.window ↔ window ≤ added.length := by
  rw [covers.samples, covers.sameWindow, length_lastOf]
  omega

/-- Room for a sample is where the oldest one was, if the window is full. -/
theorem makeRoom_eq (covers : average.Covers window added) :
    average.makeRoom =
      { average with
        samples := lastOf (window - 1) added
        sum := (lastOf (window - 1) added).sum } := by
  have positive := covers.positive
  unfold makeRoom
  simp only [covers.length_samples_eq_iff]
  split
  case isTrue many =>
    have length : (lastOf window added).length = window := by
      rw [length_lastOf]
      omega
    rw [covers.sum, covers.samples, ← tail_lastOf positive many]
    cases found : lastOf window added with
    | nil =>
        rw [found, List.length_nil] at length
        omega
    | cons oldest rest =>
        rw [List.headD_cons, List.tail_cons, List.sum_cons,
          add_sub_cancel_left]
  case isFalse few =>
    have samples := covers.samples
    have sum := covers.sum
    rw [lastOf_eq_self (by omega)] at samples sum
    rw [lastOf_eq_self (by omega), ← sum, ← samples]

/-- A further sample leaves the window with the last ones again. -/
theorem add (covers : average.Covers window added) (sample : Int) :
    (average.add sample).Covers window (added ++ [sample]) := by
  have positive := covers.positive
  have longer := lastOf_concat positive added sample
  unfold WindowAverage.add
  rw [covers.makeRoom_eq]
  refine ⟨positive, covers.sameWindow, ?_, ?_, ?_⟩
  · exact longer.symm
  · rw [longer, List.sum_append, List.sum_singleton]
  · dsimp only
    rw [← longer, length_lastOf, covers.filled, covers.sameWindow,
      Bool.beq_eq_decide_eq, ← Bool.decide_or, List.length_append,
      List.length_singleton]
    exact decide_eq_decide.mpr (by omega)

/--
There is a mean once the window is full, and it is that of the last samples: for
words in a window that is not too large, nothing is lost on the way.
-/
theorem mean_eq
    (covers : average.Covers window added)
    (narrow : window ≤ 1024)
    (words : ∀ sample ∈ added, Binary64.FitsWord sample) :
    average.mean =
      if added.length < window then none
      else some (Numeric.roundedMean (lastOf window added)) := by
  unfold mean
  rw [covers.filled, covers.sum, covers.samples]
  simp only [decide_eq_false_iff_not, Nat.not_le]
  split
  case isTrue => rfl
  case isFalse many =>
    have few : (lastOf window added).length = window := by
      rw [length_lastOf]
      omega
    have positive := covers.positive
    have lastWords (sample : Int) (member : sample ∈ lastOf window added) :
        Binary64.FitsWord sample :=
      words sample (mem_of_mem_lastOf member)
    have short := Numeric.natAbs_sum_le lastWords
    rw [Binary64.toNearest_div (by omega) (by omega)
      (Nat.lt_of_le_of_lt (few ▸ narrow) (by decide))]
    rw [← few] at positive
    exact congrArg some
      (Binary64.toWord_of_fits
        ⟨Numeric.le_roundedMean positive fun sample member =>
            (lastWords sample member).1,
          Numeric.roundedMean_le positive fun sample member =>
            (lastWords sample member).2⟩)

end Covers

end WindowAverage

end StepSync
