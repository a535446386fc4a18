import StepSync.Steps.Lead

namespace StepSync

/-!
# The lead in machine arithmetic

The formula of the lead subtracts, adds and casts between words of different widths.
With a latency and a reserve such as datagrams can carry nothing of that leaves its
width (`leadInWords?_eq`), and the lead is small (`predictionLead_le`).
-/

/-- Words of a machine, by the integers that they can hold. -/
inductive WordKind where
  | signed32
  | unsigned32
  | unsigned64
  deriving Repr, DecidableEq

namespace WordKind

/-- The least integer of a kind of word. -/
def least : WordKind → Int
  | signed32 => -2147483648
  | unsigned32 | unsigned64 => 0

/-- The greatest integer of a kind of word. -/
def greatest : WordKind → Int
  | signed32 => 2147483647
  | unsigned32 => 4294967295
  | unsigned64 => 18446744073709551615

/-- The integer, if it fits the word. -/
def hold? (kind : WordKind) (value : Int) : Option Int :=
  if kind.least ≤ value ∧ value ≤ kind.greatest then some value else none

theorem hold?_of_fits
    {kind : WordKind}
    {value : Int}
    (above : kind.least ≤ value)
    (below : value ≤ kind.greatest) :
    kind.hold? value = some value :=
  if_pos ⟨above, below⟩

end WordKind

/-- The smallest number of ticks that last as long as the latency. -/
structure IsCeiling (latency tick ticks : Nat) : Prop where
  enough : latency ≤ ticks * tick
  least : ∀ fewer, latency ≤ fewer * tick → ticks ≤ fewer

/-- A quotient rounded up in words: one more unless the division comes out even. -/
def quotientUp? (dividend divisor : Int) : Option Int :=
  if dividend % divisor = 0 then
    WordKind.unsigned64.hold? (dividend / divisor)
  else WordKind.unsigned64.hold? (dividend / divisor + 1)

/--
A lead with the ticks that a short reserve adds, with every intermediate result
held in its word.
-/
def lengthen? (lead : Int) : Option Int → Option Int
  | none => some lead
  | some reserve => do
      let reserve ← WordKind.signed32.hold? reserve
      if reserve < wantedReserve then
        let missing ← WordKind.signed32.hold? (wantedReserve - reserve)
        let extra ← WordKind.unsigned32.hold? (min missing mostExtraTicks)
        WordKind.unsigned32.hold? (lead + extra)
      else some lead

/--
The lead for a mean latency, with every intermediate result held in its word.
Counts of ticks get only 32 bits, whatever the width of the machine is.
-/
def leadInWords? (latency : Int) (reserve : Option Int)
    (tickDuration : Nat) : Option Int := do
  let mean ← WordKind.signed32.hold? latency
  let latency ← WordKind.unsigned64.hold? (max mean 0)
  let tick ← WordKind.unsigned64.hold? (max tickDuration 1 : Nat)
  let quotient ← quotientUp? latency tick
  let ticks ← WordKind.unsigned32.hold? quotient
  let lead ← WordKind.unsigned32.hold? (ticks + 1)
  lengthen? lead reserve

/-- The ticks of a latency are those that last long enough, and no more. -/
theorem isCeiling_latencyTicks (latency : Int) {tick : Nat} (positive : 0 < tick) :
    IsCeiling latency.toNat tick (latencyTicks latency tick) := by
  have atLeastOne : max tick 1 = tick := Nat.max_eq_left positive
  unfold latencyTicks
  dsimp only
  rw [atLeastOne]
  constructor
  case enough =>
    have above :=
      Nat.lt_mul_div_succ (latency.toNat + (tick - 1)) positive
    rw [Nat.mul_succ, Nat.mul_comm] at above
    omega
  case least =>
    intro fewer enough
    apply Nat.le_of_lt_succ
    rw [Nat.div_lt_iff_lt_mul positive, Nat.succ_mul]
    omega

theorem extraTicks_le (reserve : Option Int) : extraTicks reserve ≤ 5 := by
  unfold extraTicks wantedReserve mostExtraTicks
  split
  · omega
  · split <;> omega

section

variable {latency : Int} {tick : Nat}

/--
A tick lasts at least a millisecond, so there are no more ticks
than milliseconds.
-/
theorem latencyTicks_le
    (small : latency ≤ 65535)
    (positive : 0 < tick) :
    latencyTicks latency tick ≤ 65535 := by
  apply (isCeiling_latencyTicks latency positive).least
  have longer : 65535 * 1 ≤ 65535 * tick := Nat.mul_le_mul_left 65535 positive
  omega

/-- The greatest lead. -/
theorem predictionLead_le
    {lead : Nat}
    {reserve : Option Int}
    (small : latency ≤ 65535)
    (positive : 0 < tick)
    (found : predictionLead (some latency) reserve tick = some lead) :
    lead ≤ 65541 := by
  have ticks := latencyTicks_le small positive
  have extra := extraTicks_le reserve
  rw [predictionLead, Option.map_some, Option.some.injEq] at found
  omega

end

theorem IsCeiling.unique
    {latency tick first second : Nat}
    (isFirst : IsCeiling latency tick first)
    (isSecond : IsCeiling latency tick second) :
    first = second :=
  Nat.le_antisymm (isFirst.least second isSecond.enough)
    (isSecond.least first isFirst.enough)

/-- Dividing, and one more unless the division comes out even, rounds up. -/
theorem isCeiling_div (latency : Nat) {tick : Nat} (positive : 0 < tick) :
    IsCeiling latency tick
      (if latency % tick = 0 then latency / tick else latency / tick + 1) := by
  have divided := Nat.div_add_mod' latency tick
  have rest := Nat.mod_lt latency positive
  by_cases even : latency % tick = 0
  · rw [if_pos even]
    refine ⟨by omega, fun fewer enough => ?_⟩
    rw [Nat.div_le_iff_le_mul_add_pred positive, Nat.mul_comm]
    omega
  · rw [if_neg even]
    refine ⟨by rw [Nat.succ_mul]; omega, fun fewer enough => ?_⟩
    rw [Nat.succ_le_iff, Nat.div_lt_iff_lt_mul positive]
    apply Nat.lt_of_le_of_ne enough
    intro same
    rw [same, Nat.mul_mod_left] at even
    exact even rfl

section

variable
  {latency : Int}
  {tick : Nat}
  (known : 0 ≤ latency)
  (small : latency ≤ 65535)
  (positive : 0 < tick)

include known small positive

theorem quotientUp?_eq :
    quotientUp? latency tick = some (latencyTicks latency tick : Int) := by
  obtain ⟨number, rfl⟩ := Int.eq_ofNat_of_zero_le known
  have ticks := latencyTicks_le small positive
  have ceiling :=
    (isCeiling_latencyTicks number positive).unique
      (isCeiling_div number positive)
  rw [quotientUp?, ← Int.natCast_emod, ← Int.natCast_ediv]
  have fits :
      WordKind.unsigned64.hold? (latencyTicks number tick : Int) =
        some (latencyTicks number tick : Int) :=
    WordKind.hold?_of_fits (Int.natCast_nonneg _)
      (by simp only [WordKind.greatest]; omega)
  split
  next even =>
    rw [if_pos (Int.ofNat_inj.mp even)] at ceiling
    rw [← ceiling]
    exact fits
  next uneven =>
    rw [if_neg (mt Int.ofNat_inj.mpr uneven)] at ceiling
    rw [← Int.natCast_succ, Nat.succ_eq_add_one, ← ceiling]
    exact fits

end

/-- A reserve that an octet can hold adds a few ticks. -/
theorem lengthen?_eq
    {lead : Nat}
    {reserve : Option Int}
    (small : lead ≤ 65536)
    (within : ∀ mean ∈ reserve, -128 ≤ mean ∧ mean ≤ 127) :
    lengthen? lead reserve =
      some ((lead + extraTicks reserve : Nat) : Int) := by
  cases reserve with
  | none => rfl
  | some reserve =>
      obtain ⟨above, below⟩ := within reserve rfl
      have holds (kind : WordKind) (value : Int)
          (least : kind.least ≤ value) (most : value ≤ 2147483647) :
          kind.hold? value = some value := by
        refine WordKind.hold?_of_fits least (Int.le_trans most ?_)
        cases kind <;> decide
      have held := holds .signed32 reserve
        (by simp only [WordKind.least]; omega) (by omega)
      simp only [lengthen?, extraTicks, held, Option.bind_eq_bind,
        Option.bind_some]
      by_cases short : reserve < wantedReserve
      · unfold wantedReserve mostExtraTicks at *
        rw [if_pos short, if_pos short,
          holds .signed32 (2 - reserve)
            (by simp only [WordKind.least]; omega) (by omega),
          Option.bind_some,
          holds .unsigned32 (min (2 - reserve) 5)
            (by simp only [WordKind.least]; omega) (by omega),
          Option.bind_some,
          holds .unsigned32 _
            (by simp only [WordKind.least]; omega) (by omega)]
        congr 1
        omega
      · rw [if_neg short, if_neg short]
        rfl

/-- The formula is the same in words, since nothing leaves its width. -/
theorem leadInWords?_eq
    {latency : Int}
    {reserve : Option Int}
    {tick : Nat}
    (known : 0 ≤ latency)
    (small : latency ≤ 65535)
    (reserves : ∀ mean ∈ reserve, -128 ≤ mean ∧ mean ≤ 127)
    (positive : 0 < tick)
    (word : tick < UInt64.size) :
    leadInWords? latency reserve tick =
      (predictionLead (some latency) reserve tick).map Int.ofNat := by
  have ticks := latencyTicks_le small positive
  have atLeastOne : max tick 1 = tick := Nat.max_eq_left positive
  have holds (kind : WordKind) (value : Int)
      (least : 0 ≤ value) (most : value ≤ 65536) :
      kind.hold? value = some value := by
    refine WordKind.hold?_of_fits (Int.le_trans ?_ least)
      (Int.le_trans most ?_) <;> cases kind <;> decide
  have tickFits :
      WordKind.unsigned64.hold? (tick : Int) = some (tick : Int) :=
    WordKind.hold?_of_fits (Int.natCast_nonneg _)
      (Int.le_of_lt_add_one (Int.ofNat_lt.mpr word))
  simp only [leadInWords?, Option.bind_eq_bind]
  rw [holds .signed32 latency known (by omega), Option.bind_some,
    Int.max_eq_left known, holds .unsigned64 latency known (by omega),
    Option.bind_some, atLeastOne, tickFits, Option.bind_some,
    quotientUp?_eq known small positive, Option.bind_some,
    holds .unsigned32 _ (Int.natCast_nonneg _) (by omega),
    Option.bind_some, holds .unsigned32 _ (by omega) (by omega),
    Option.bind_some]
  exact lengthen?_eq (Nat.succ_le_succ ticks) reserves

end StepSync
