import StepSync.Link.Health

namespace StepSync

/-!
# Giving up a link

A tick ages the two counters of what is missing, and is bad if one of them is then
too high (`Health.currentVerdict_age`).  Fifteen ticks may pass without steps before
one is bad, and sixty bad ticks are tolerated, so a silent link is given up on the
76th tick and none is given up before (`Early`, `Silent`).  A link on which steps
keep coming has no bad tick at all (`Fed`).

What comes from the server between two ticks can only help: it sets counters to
zero and leaves the bad ticks (`Health.Eases`).
-/

namespace Health

variable {health : Health}

/--
What is heard of a link sets counters back, and leaves the bad ticks
and the verdict.
-/
structure Eases (before after : Health) : Prop where
  datagrams : after.ticksWithoutDatagrams ≤ before.ticksWithoutDatagrams
  steps : after.ticksWithoutSteps ≤ before.ticksWithoutSteps
  badTicks : after.badTicks = before.badTicks
  verdict : after.verdict = before.verdict

/-- Both counters of what is missing are at zero. -/
structure Fresh (health : Health) : Prop where
  datagrams : health.ticksWithoutDatagrams = 0
  steps : health.ticksWithoutSteps = 0

namespace Eases

theorem refl (health : Health) : Eases health health :=
  ⟨Nat.le_refl _, Nat.le_refl _, rfl, rfl⟩

/-- What is eased twice is eased. -/
theorem trans
    {first second third : Health}
    (earlier : Eases first second)
    (later : Eases second third) :
    Eases first third where
  datagrams := Nat.le_trans later.datagrams earlier.datagrams
  steps := Nat.le_trans later.steps earlier.steps
  badTicks := later.badTicks.trans earlier.badTicks
  verdict := later.verdict.trans earlier.verdict

/-- Losses raise no counter of silent ticks. -/
theorem dropped (health : Health) (count : Nat) :
    Eases health (health.dropped count).1 := by
  unfold Health.dropped
  split <;> exact ⟨Nat.le_refl _, Nat.le_refl _, rfl, rfl⟩

theorem measuredLatency (health : Health) (latency : Nat) :
    Eases health (health.measuredLatency latency) :=
  ⟨Nat.le_refl _, Nat.le_refl _, rfl, rfl⟩

/-- A datagram sets the counter of silent ticks back. -/
theorem receivedDatagram (health : Health) :
    Eases health health.receivedDatagram :=
  ⟨Nat.zero_le _, Nat.le_refl _, rfl, rfl⟩

/-- New steps set the counter of ticks without steps back; others leave it. -/
theorem receivedSteps (health : Health) (count : Nat) :
    Eases health (health.receivedSteps count) := by
  unfold Health.receivedSteps
  split
  · exact ⟨Nat.le_refl _, Nat.zero_le _, rfl, rfl⟩
  · exact refl health

end Eases

/-! ## One tick -/

/-- A tick is good if neither counter is too high by then. -/
theorem currentVerdict_age (health : Health) :
    health.age.currentVerdict = .keep ↔
      health.ticksWithoutDatagrams + 1 < mostTicksWithoutDatagrams ∧
        health.ticksWithoutSteps + 1 ≤ mostTicksWithoutSteps := by
  unfold currentVerdict age
  dsimp only
  by_cases noDatagrams :
      mostTicksWithoutDatagrams ≤ health.ticksWithoutDatagrams + 1
  · rw [if_pos noDatagrams]
    exact ⟨nofun, fun ⟨recent, _⟩ => absurd noDatagrams (by omega)⟩
  · rw [if_neg noDatagrams]
    by_cases noSteps : mostTicksWithoutSteps < health.ticksWithoutSteps + 1
    · rw [if_pos noSteps]
      exact ⟨nofun, fun ⟨_, recent⟩ => absurd noSteps (by omega)⟩
    · rw [if_neg noSteps]
      exact ⟨fun _ => ⟨by omega, by omega⟩, fun _ => rfl⟩

/-- A good tick takes one bad tick off, and leaves the verdict. -/
theorem tick_of_good (good : health.age.currentVerdict = .keep) :
    health.tick.1.ticksWithoutDatagrams = health.ticksWithoutDatagrams + 1 ∧
      health.tick.1.ticksWithoutSteps = health.ticksWithoutSteps + 1 ∧
      health.tick.1.badTicks = health.badTicks - 1 ∧
      health.tick.1.verdict = health.verdict := by
  have verdict : health.age.assess.lastVerdict = .keep := good
  simp only [tick, verdict]
  exact ⟨rfl, rfl, rfl, rfl⟩

/-- A bad tick is counted, and the verdict falls when there are too many of them. -/
theorem tick_of_bad (bad : health.age.currentVerdict ≠ .keep) :
    health.tick.1.ticksWithoutDatagrams = health.ticksWithoutDatagrams + 1 ∧
      health.tick.1.ticksWithoutSteps = health.ticksWithoutSteps + 1 ∧
      health.tick.1.badTicks = health.badTicks + 1 ∧
      health.tick.1.verdict =
        if toleratedBadTicks < health.badTicks + 1 ∧
            health.verdict = .keep then
          health.age.currentVerdict
        else health.verdict := by
  have blamed : health.tick = health.age.assess.blame := by
    have verdict : health.age.assess.lastVerdict ≠ .keep := bad
    unfold tick
    dsimp only
    split
    · contradiction
    · rfl
  rw [blamed]
  unfold blame
  dsimp only
  split
  case isTrue final => exact ⟨rfl, rfl, rfl, (if_pos final).symm⟩
  case isFalse more => exact ⟨rfl, rfl, rfl, (if_neg more).symm⟩

/-- A link is kept until the verdict falls. -/
theorem isGivenUp_eq_false (health : Health) :
    health.isGivenUp = false ↔ health.verdict = .keep := by
  simp [isGivenUp]

/-! ## Many ticks -/

/--
What holds when so many ticks have passed since nothing was known, and none can
have been too many.
-/
structure Early (ticks : Nat) (health : Health) : Prop where
  datagrams : health.ticksWithoutDatagrams ≤ ticks
  steps : health.ticksWithoutSteps ≤ ticks
  badTicks : health.badTicks ≤ ticks - mostTicksWithoutSteps
  verdict : health.verdict = .keep

namespace Early

variable {ticks : Nat}

/-- Nothing counts against an unknown link yet. -/
theorem unknown (ticks : Nat) : Early ticks Health.unknown :=
  ⟨Nat.zero_le _, Nat.zero_le _, Nat.zero_le _, rfl⟩

/-- A link that is eased is as early as before. -/
theorem eases
    {after : Health}
    (early : Early ticks health)
    (eases : health.Eases after) :
    Early ticks after where
  datagrams := Nat.le_trans eases.datagrams early.datagrams
  steps := Nat.le_trans eases.steps early.steps
  badTicks := eases.badTicks ▸ early.badTicks
  verdict := eases.verdict.trans early.verdict

/-- A bad tick comes only after the tolerated ones without steps. -/
theorem tick
    (early : Early ticks health)
    (few : ticks + 1 ≤ mostTicksWithoutSteps + toleratedBadTicks) :
    Early (ticks + 1) health.tick.1 := by
  have datagrams := early.datagrams
  have steps := early.steps
  have badTicks := early.badTicks
  by_cases good : health.age.currentVerdict = .keep
  · obtain ⟨sameDatagrams, sameSteps, fewer, sameVerdict⟩ :=
      tick_of_good good
    refine ⟨by omega, by omega, by omega, ?_⟩
    rw [sameVerdict]
    exact early.verdict
  · obtain ⟨sameDatagrams, sameSteps, more, verdict⟩ := tick_of_bad good
    rw [currentVerdict_age] at good
    have late : mostTicksWithoutSteps ≤ ticks := by
      unfold mostTicksWithoutDatagrams mostTicksWithoutSteps at good
      unfold mostTicksWithoutSteps
      omega
    have tolerated : ¬toleratedBadTicks < health.badTicks + 1 := by
      omega
    refine ⟨by omega, by omega, by omega, ?_⟩
    rw [verdict, if_neg fun final => tolerated final.1]
    exact early.verdict

/-- A tick that comes early enough gives nothing up. -/
theorem passes
    (few : ticks + 1 ≤ mostTicksWithoutSteps + toleratedBadTicks)
    (health : Health)
    (early : Early ticks health) :
    health.tick.1.isGivenUp = false ∧ Early (ticks + 1) health.tick.1 :=
  ⟨(isGivenUp_eq_false _).mpr (early.tick few).verdict, early.tick few⟩

end Early

/--
What holds when so many ticks have passed since steps came, and no more than may
be: no tick was bad.
-/
structure Fed (ticks : Nat) (health : Health) : Prop where
  datagrams : health.ticksWithoutDatagrams ≤ ticks
  steps : health.ticksWithoutSteps ≤ ticks
  badTicks : health.badTicks = 0
  verdict : health.verdict = .keep

namespace Fed

variable {ticks : Nat}

/-- An unknown link is as good as fed. -/
theorem unknown (ticks : Nat) : Fed ticks Health.unknown :=
  ⟨Nat.zero_le _, Nat.zero_le _, rfl, rfl⟩

/-- A link that is eased is as well fed as before. -/
theorem eases
    {after : Health}
    (fed : Fed ticks health)
    (eases : health.Eases after) :
    Fed ticks after where
  datagrams := Nat.le_trans eases.datagrams fed.datagrams
  steps := Nat.le_trans eases.steps fed.steps
  badTicks := eases.badTicks.trans fed.badTicks
  verdict := eases.verdict.trans fed.verdict

/-- A tick without steps is not yet bad while there are few of them. -/
theorem tick
    (fed : Fed ticks health)
    (few : ticks + 1 ≤ mostTicksWithoutSteps) :
    Fed (ticks + 1) health.tick.1 := by
  have datagrams := fed.datagrams
  have steps := fed.steps
  have good : health.age.currentVerdict = .keep := by
    rw [currentVerdict_age]
    unfold mostTicksWithoutDatagrams
    unfold mostTicksWithoutSteps at few ⊢
    omega
  obtain ⟨sameDatagrams, sameSteps, fewer, sameVerdict⟩ := tick_of_good good
  refine ⟨by omega, by omega, ?_, ?_⟩
  · rw [fewer, fed.badTicks]
  · rw [sameVerdict]
    exact fed.verdict

/-- A tick soon after new steps gives nothing up. -/
theorem passes
    (few : ticks + 1 ≤ mostTicksWithoutSteps)
    (health : Health)
    (fed : Fed ticks health) :
    health.tick.1.isGivenUp = false ∧ Fed (ticks + 1) health.tick.1 :=
  ⟨(isGivenUp_eq_false _).mpr (fed.tick few).verdict, fed.tick few⟩

end Fed

/--
What holds when so many ticks have passed in silence and the link
was not given up.
-/
structure Silent (ticks : Nat) (health : Health) : Prop where
  steps : ticks ≤ health.ticksWithoutSteps
  badTicks : ticks ≤ health.badTicks + mostTicksWithoutSteps
  few : ticks ≤ mostTicksWithoutSteps + toleratedBadTicks

namespace Silent

theorem zero (health : Health) : Silent 0 health :=
  ⟨Nat.zero_le _, Nat.zero_le _, Nat.zero_le _⟩

/-- Unless it is given up, a silent link has passed no more ticks than may be. -/
theorem tick
    {ticks : Nat}
    (silent : Silent ticks health)
    (kept : health.tick.1.isGivenUp = false) :
    Silent (ticks + 1) health.tick.1 := by
  have steps := silent.steps
  have badTicks := silent.badTicks
  have few := silent.few
  by_cases good : health.age.currentVerdict = .keep
  · obtain ⟨_, sameSteps, _, _⟩ := tick_of_good good
    have recent := ((currentVerdict_age health).mp good).2
    exact ⟨by omega, by omega, by omega⟩
  · obtain ⟨_, sameSteps, more, verdict⟩ := tick_of_bad good
    have stillKept := (isGivenUp_eq_false _).mp kept
    have tolerated : health.badTicks + 1 ≤ toleratedBadTicks := by
      refine Nat.le_of_not_lt fun tooMany => ?_
      rw [verdict] at stillKept
      split at stillKept
      case isTrue => exact good stillKept
      case isFalse undecided => exact undecided ⟨tooMany, stillKept⟩
    exact ⟨by omega, by omega, by omega⟩

end Silent

end Health

end StepSync
