import StepSync.Proofs.Measure.WindowAverage

namespace StepSync.WindowAverage

/-!
# What an average tells of its history

Words are added to an average, and now and then everything is forgotten.  Of the
samples since then, the mean is that of the last ones, rounded to the nearest
integer, while the extremes are those of all of them (`summarizes_added`).
-/

/-- What is done with an average: a word is added, or every sample is forgotten. -/
inductive Operation where
  | add (sample : Int32)
  | clear
  deriving Repr, DecidableEq

/-- The average after an operation. -/
def perform (average : WindowAverage) : Operation → WindowAverage
  | .add sample => average.add sample.toInt
  | .clear => average.clear

/-- The average after some operations. -/
def reached (window : Nat) (operations : List Operation) : WindowAverage :=
  operations.foldl perform (ofWindow window)

/-- The samples that count after an operation. -/
def remember (added : List Int) : Operation → List Int
  | .add sample => added ++ [sample.toInt]
  | .clear => []

/-- The samples that were added since everything was forgotten. -/
def addedBy (operations : List Operation) : List Int :=
  operations.foldl remember []

/-- The least of some samples and one more. -/
theorem min?_concat (samples : List Int) (sample : Int) :
    (samples ++ [sample]).min? =
      some (samples.min?.elim sample fun least => min least sample) := by
  cases samples with
  | nil => rfl
  | cons first rest =>
      rw [List.cons_append, List.min?_cons', List.min?_cons',
        List.foldl_append]
      rfl

/-- The greatest of some samples and one more. -/
theorem max?_concat (samples : List Int) (sample : Int) :
    (samples ++ [sample]).max? =
      some (samples.max?.elim sample fun greatest => max greatest sample) := by
  cases samples with
  | nil => rfl
  | cons first rest =>
      rw [List.cons_append, List.max?_cons', List.max?_cons',
        List.foldl_append]
      rfl

/-- The extremes are those of everything that was added, and that was words. -/
structure Remembers
    (average : WindowAverage)
    (window : Nat)
    (added : List Int) :
    Prop extends average.Covers window added where
  least : average.least = added.min?
  greatest : average.greatest = added.max?
  words : ∀ sample ∈ added, Binary64.FitsWord sample

theorem remembers_ofWindow (window : Nat) :
    (ofWindow window).Remembers (max window 1) [] where
  toCovers := covers_ofWindow window
  least := rfl
  greatest := rfl
  words := fun _ member => nomatch member

namespace Remembers

variable {average : WindowAverage} {window : Nat} {added : List Int}

theorem add
    (remembers : average.Remembers window added)
    {sample : Int}
    (word : Binary64.FitsWord sample) :
    (average.add sample).Remembers window (added ++ [sample]) where
  toCovers := remembers.toCovers.add sample
  least := by
    rw [min?_concat, ← remembers.least, WindowAverage.add,
      remembers.makeRoom_eq]
  greatest := by
    rw [max?_concat, ← remembers.greatest, WindowAverage.add,
      remembers.makeRoom_eq]
  words := by
    intro other member
    rcases List.mem_append.mp member with earlier | new
    · exact remembers.words other earlier
    · rw [List.mem_singleton.mp new]
      exact word

/--
A sample joins the others, and forgetting leaves the average as it was at first.
-/
theorem perform
    (remembers : average.Remembers window added)
    (operation : Operation) :
    (average.perform operation).Remembers window
      (remember added operation) := by
  cases operation with
  | add sample =>
      have above := sample.le_toInt
      have below := sample.toInt_lt
      exact remembers.add ⟨above, by omega⟩
  | clear =>
      have same : max average.window 1 = window := by
        have positive := remembers.positive
        rw [remembers.sameWindow]
        omega
      have empty := remembers_ofWindow average.window
      rw [same] at empty
      exact empty

end Remembers

theorem remembers_reached (window : Nat) (operations : List Operation) :
    (reached window operations).Remembers (max window 1)
      (addedBy operations) := by
  have goesOn
      (average : WindowAverage)
      (added : List Int)
      (remembers : average.Remembers (max window 1) added) :
      (operations.foldl WindowAverage.perform average).Remembers
        (max window 1) (operations.foldl remember added) := by
    induction operations generalizing average added with
    | nil => exact remembers
    | cons operation operations inductionHypothesis =>
        exact inductionHypothesis _ _ (remembers.perform operation)
  exact goesOn _ _ (remembers_ofWindow window)

/--
The last samples are kept, and no more; their mean is known once there are enough of
them; the extremes are those of all samples.
-/
structure Summarizes
    (average : WindowAverage)
    (window : Nat)
    (added : List Int) :
    Prop where
  few : average.samples.length ≤ window
  last : average.samples = added.drop (added.length - window)
  sum : average.sum = average.samples.sum
  noOverflow : average.sum.natAbs ≤ 2147483648 * window
  early : added.length < window → average.mean = none
  mean : window ≤ added.length →
    ∃ mean least greatest,
      average.mean = some mean ∧
        Numeric.IsNearest (average.samples.sum / window) mean ∧
        average.samples.min? = some least ∧ least ≤ mean ∧
        average.samples.max? = some greatest ∧ mean ≤ greatest ∧
        Binary64.FitsWord mean
  least : average.least = added.min?
  greatest : average.greatest = added.max?

/-- What is in the window are words, too. -/
theorem Remembers.words_samples
    {average : WindowAverage}
    {window : Nat}
    {added : List Int}
    (remembers : average.Remembers window added) :
    ∀ sample ∈ average.samples, Binary64.FitsWord sample := by
  intro sample member
  rw [remembers.samples] at member
  exact remembers.words sample (mem_of_mem_lastOf member)

/--
The mean of a full window is nearest to that of the samples in it, and
lies between them.
-/
theorem Remembers.mean_of_full
    {average : WindowAverage}
    {window : Nat}
    {added : List Int}
    (remembers : average.Remembers window added)
    (narrow : window ≤ 1024)
    (full : window ≤ added.length) :
    ∃ mean least greatest,
      average.mean = some mean ∧
        Numeric.IsNearest (average.samples.sum / window) mean ∧
        average.samples.min? = some least ∧ least ≤ mean ∧
        average.samples.max? = some greatest ∧ mean ≤ greatest ∧
        Binary64.FitsWord mean := by
  have found := remembers.mean_eq narrow remembers.words
  rw [if_neg (Nat.not_lt.mpr full), ← remembers.samples] at found
  have length : average.samples.length = window := by
    rw [remembers.samples, length_lastOf]
    omega
  have positive : 0 < average.samples.length :=
    length ▸ remembers.positive
  have nearest :=
    (Numeric.isNearestAway_nearestAway average.samples.sum
      positive).isNearest positive
  have notEmpty : average.samples ≠ [] := List.length_pos_iff.mp positive
  obtain ⟨least, isLeast⟩ :=
    Option.isSome_iff_exists.mp (List.isSome_min?_of_ne_nil notEmpty)
  obtain ⟨greatest, isGreatest⟩ :=
    Option.isSome_iff_exists.mp (List.isSome_max?_of_ne_nil notEmpty)
  have above : least ≤ Numeric.roundedMean average.samples :=
    Numeric.le_roundedMean positive (List.min?_eq_some_iff.mp isLeast).2
  have below : Numeric.roundedMean average.samples ≤ greatest :=
    Numeric.roundedMean_le positive (List.max?_eq_some_iff.mp isGreatest).2
  have leastWord := remembers.words_samples least (List.min?_mem isLeast)
  have greatestWord :=
    remembers.words_samples greatest (List.max?_mem isGreatest)
  rw [length] at nearest
  refine
    ⟨Numeric.roundedMean average.samples, least, greatest, found, ?_,
      isLeast, above, isGreatest, below,
      Int.le_trans leastWord.1 above, Int.le_trans below greatestWord.2⟩
  rw [Numeric.roundedMean, length]
  exact nearest

/--
Whatever was added and forgotten, the average of a window of up to 1024 samples,
of at least one, tells of the samples since then: exactly what the last ones sum
up to, their mean rounded to the nearest integer, a half going away from zero, as
soon as the window is full, and the extremes of all of them.
-/
theorem summarizes_added
    {window : Nat}
    (narrow : window ≤ 1024)
    (operations : List Operation) :
    (reached window operations).Summarizes (max window 1)
      (addedBy operations) := by
  have remembers := remembers_reached window operations
  have narrowToo : max window 1 ≤ 1024 := by omega
  have sum : (reached window operations).sum =
      (reached window operations).samples.sum := by
    rw [remembers.sum, remembers.samples]
  have few : (reached window operations).samples.length ≤ max window 1 := by
    rw [remembers.samples, length_lastOf]
    exact Nat.min_le_left _ _
  constructor
  case few => exact few
  case last => exact remembers.samples
  case sum => exact sum
  case noOverflow =>
    have short := Numeric.natAbs_sum_le remembers.words_samples
    rw [sum]
    exact Nat.le_trans short (Nat.mul_le_mul_left _ few)
  case early =>
    intro early
    rw [remembers.mean_eq narrowToo remembers.words, if_pos early]
  case mean => exact remembers.mean_of_full narrowToo
  case least => exact remembers.least
  case greatest => exact remembers.greatest

/--
Three samples after everything was forgotten, the last two of which have a tie.
-/
def tiedBelowZero : List Operation :=
  [.add 7, .clear, .add (-100), .add (-3), .add (-2)]

theorem summarizes_added_tiedBelowZero :
    2 ≤ 1024 ∧
      (reached 2 tiedBelowZero).samples = [-3, -2] ∧
      (reached 2 tiedBelowZero).mean = some (-3) ∧
      (reached 2 tiedBelowZero).least = some (-100) ∧
      (reached 2 tiedBelowZero).Summarizes 2 [-100, -3, -2] :=
  ⟨by decide, by decide, by decide +kernel, by decide,
    summarizes_added (by decide) tiedBelowZero⟩

end StepSync.WindowAverage
