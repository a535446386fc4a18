import StepSync.Session.Settings

namespace StepSync.Settings

/-!
# Steps fit

Whatever the application chooses, a step of a session is at most so long that a
datagram holds every copy in flight.  Lengths are exact here.  Those that are
computed in words are the same wherever they fit words
(`stepOctets?_eq_some_iff`), so settings can be brought into range exactly if the
length of a step fits one (`clamp?_eq_none_iff`).

Values that are in range stay as they are, so what is in range once needs no second
clamping (`clamp_clamp`).
-/

/-- A number is a word exactly if it is that word's value. -/
theorem word?_eq_some_iff {number : Nat} {word : UInt64} :
    word? number = some word ↔ word.toNat = number := by
  unfold word?
  split
  case isTrue fits =>
    have value : (UInt64.ofNat number).toNat = number :=
      UInt64.toNat_ofNat_of_lt' fits
    rw [Option.some.injEq, ← UInt64.toNat_inj, value]
    exact eq_comm
  case isFalse large =>
    constructor
    · rintro ⟨⟩
    · rintro rfl
      exact absurd word.toNat_lt large

/--
In words a step has the same length, provided that one part and all of them fit.
-/
theorem stepOctets?_eq_some_iff {settings : Settings} {octets : UInt64} :
    settings.stepOctets? = some octets ↔
      settings.participantOctets.toNat + participantOverhead.toNat <
          UInt64.size ∧
        octets.toNat = settings.stepOctets := by
  simp only [stepOctets?, Option.bind_eq_bind, Option.bind_eq_some_iff,
    word?_eq_some_iff]
  constructor
  · rintro ⟨part, onePart, allParts⟩
    rw [← onePart]
    refine ⟨part.toNat_lt, ?_⟩
    rw [allParts, onePart]
    rfl
  · rintro ⟨fits, allParts⟩
    obtain ⟨part, onePart⟩ :
        ∃ part : UInt64,
          part.toNat =
            settings.participantOctets.toNat + participantOverhead.toNat :=
      ⟨_, UInt64.toNat_ofNat_of_lt' fits⟩
    refine ⟨part, onePart, ?_⟩
    rw [onePart]
    exact allParts

/-- With a participant, one part is no longer than the step. -/
theorem part_le_stepOctets
    {settings : Settings}
    (positive : 1 ≤ settings.participants.toNat) :
    settings.participantOctets.toNat + participantOverhead.toNat ≤
      settings.stepOctets :=
  Nat.le_mul_of_pos_left _ positive

/-- With a participant, nothing but the whole length has to fit a word. -/
theorem stepOctets?_of_fits
    {settings : Settings}
    (positive : 1 ≤ settings.participants.toNat)
    (fits : settings.stepOctets < UInt64.size) :
    settings.stepOctets? = some (UInt64.ofNat settings.stepOctets) := by
  have partFits := Nat.lt_of_le_of_lt (part_le_stepOctets positive) fits
  exact stepOctets?_eq_some_iff.mpr
    ⟨partFits, UInt64.toNat_ofNat_of_lt' fits⟩

/-- The length of a step can not be computed exactly if it does not fit a word. -/
theorem stepOctets?_eq_none_iff
    {settings : Settings}
    (positive : 1 ≤ settings.participants.toNat) :
    settings.stepOctets? = none ↔ UInt64.size ≤ settings.stepOctets := by
  constructor
  · intro unknown
    apply Nat.not_lt.mp
    intro fits
    rw [stepOctets?_of_fits positive fits] at unknown
    cases unknown
  · intro large
    rw [Option.eq_none_iff_forall_ne_some]
    intro octets known
    have value := (stepOctets?_eq_some_iff.mp known).2
    have word : octets.toNat < UInt64.size := octets.toNat_lt
    omega

theorem toNat_longestStep : longestStep.toNat = 389 := by
  decide

/-- The part of a participant, two octets in front of it, always fits. -/
theorem participantOverhead_le_share
    {participants : Nat}
    (positive : 1 ≤ participants)
    (few : participants ≤ mostLocalParticipants) :
    participantOverhead.toNat ≤ longestStep.toNat / participants := by
  rw [Nat.le_div_iff_mul_le positive]
  calc participantOverhead.toNat * participants
      ≤ participantOverhead.toNat * mostLocalParticipants :=
        Nat.mul_le_mul_left _ few
    _ ≤ longestStep.toNat := by decide

/-- Shortening the parts makes a step fit. -/
theorem stepOctets_clampStepOctets_le
    {settings : Settings}
    (positive : 1 ≤ settings.participants.toNat)
    (few : settings.participants.toNat ≤ mostLocalParticipants) :
    settings.clampStepOctets.1.stepOctets ≤ longestStep.toNat := by
  unfold clampStepOctets
  split
  case isTrue =>
    have share := participantOverhead_le_share positive few
    have noUnderflow :
        participantOverhead ≤ longestStep / settings.participants :=
      UInt64.le_iff_toNat_le.mpr share
    calc settings.participants.toNat *
          ((longestStep / settings.participants -
              participantOverhead).toNat +
            participantOverhead.toNat)
        = settings.participants.toNat *
            (longestStep.toNat / settings.participants.toNat) := by
          rw [UInt64.toNat_sub_of_le _ _ noUnderflow, UInt64.toNat_div,
            Nat.sub_add_cancel share]
      _ ≤ longestStep.toNat := Nat.mul_div_le _ _
  case isFalse fits => exact Nat.not_lt.mp fits

/-- Clamping is one thing after the other. -/
theorem clamp_fst (settings : Settings) :
    settings.clamp.1 =
      (clampPredictedSteps
        (clampTickDuration
          (clampStepOctets settings.clampParticipants.1).1).1).1 := by
  unfold clamp
  rcases settings.clampParticipants with ⟨first, firstNotices⟩
  rfl

theorem clampParticipants_fst (settings : Settings) :
    settings.clampParticipants.1 =
      { settings with
        participants := settings.clampParticipants.1.participants } := by
  unfold clampParticipants
  split <;> rfl

theorem clampStepOctets_fst (settings : Settings) :
    settings.clampStepOctets.1 =
      { settings with
        participantOctets :=
          settings.clampStepOctets.1.participantOctets } := by
  unfold clampStepOctets
  split <;> rfl

/-- A tick's duration is clamped whatever else there is. -/
theorem clampTickDuration_fst (settings : Settings) :
    settings.clampTickDuration.1 =
      { settings with
        tickDuration :=
          if settings.tickDuration = 0 then standardTickDuration
          else settings.tickDuration } := by
  unfold clampTickDuration
  split <;> rfl

/-- The number of predicted steps is clamped whatever else there is. -/
theorem clampPredictedSteps_fst (settings : Settings) :
    settings.clampPredictedSteps.1 =
      { settings with
        predictedSteps :=
          if settings.predictedSteps < fewestPredictedSteps then
            fewestPredictedSteps
          else settings.predictedSteps } := by
  unfold clampPredictedSteps
  split <;> rfl

/-- Four values are clamped, and nothing else changes. -/
theorem clamp_fields (settings : Settings) :
    settings.clamp.1 =
      { settings with
        participants := settings.clampParticipants.1.participants
        participantOctets :=
          settings.clampParticipants.1.clampStepOctets.1.participantOctets
        tickDuration := settings.clampTickDuration.1.tickDuration
        predictedSteps :=
          settings.clampPredictedSteps.1.predictedSteps } := by
  rw [clamp_fst, clampPredictedSteps_fst, clampTickDuration_fst,
    clampStepOctets_fst, clampParticipants_fst, clampPredictedSteps_fst,
    clampTickDuration_fst]

theorem stepOctets_clampTickDuration (settings : Settings) :
    settings.clampTickDuration.1.stepOctets = settings.stepOctets := by
  unfold clampTickDuration
  split <;> rfl

theorem stepOctets_clampPredictedSteps (settings : Settings) :
    settings.clampPredictedSteps.1.stepOctets = settings.stepOctets := by
  unfold clampPredictedSteps
  split <;> rfl

/-- Only the first clamping is about the number of participants. -/
theorem participants_clamp (settings : Settings) :
    settings.clamp.1.participants =
      settings.clampParticipants.1.participants := by
  rw [clamp_fields]

theorem participants_clampParticipants (settings : Settings) :
    1 ≤ settings.clampParticipants.1.participants.toNat ∧
      settings.clampParticipants.1.participants.toNat ≤
        mostLocalParticipants := by
  rw [clampParticipants]
  split
  case isTrue =>
    have positive : 1 ≤ (UInt64.ofNat mostLocalParticipants).toNat := by decide
    exact ⟨positive, Nat.le_refl _⟩
  case isFalse inRange =>
    constructor
    · apply Nat.pos_of_ne_zero
      intro zero
      exact inRange (.inl (UInt64.toNat_inj.mp zero))
    · exact UInt64.le_iff_toNat_le.mp
        (UInt64.not_lt.mp fun more => inRange (.inr more))

/-- The longest step of a session. -/
theorem stepOctets_clamp_le (settings : Settings) :
    settings.clamp.1.stepOctets ≤ longestStep.toNat := by
  have inRange := settings.participants_clampParticipants
  rw [clamp_fst, stepOctets_clampPredictedSteps,
    stepOctets_clampTickDuration]
  exact stepOctets_clampStepOctets_le inRange.1 inRange.2

/-- A session has no more participants than a client may have. -/
theorem participants_clamp_le (settings : Settings) :
    settings.clamp.1.participants.toNat ≤ mostLocalParticipants := by
  rw [participants_clamp]
  exact settings.participants_clampParticipants.2

/-- A session has a participant at least. -/
theorem one_le_participants_clamp (settings : Settings) :
    1 ≤ settings.clamp.1.participants.toNat := by
  rw [participants_clamp]
  exact settings.participants_clampParticipants.1

/-- A session holds the copies in flight at least. -/
theorem copies_le_predictedSteps_clamp (settings : Settings) :
    Redundancy.copies ≤ settings.clamp.1.predictedSteps.toNat := by
  rw [clamp_fields, clampPredictedSteps]
  split
  case isTrue => exact Nat.le_refl _
  case isFalse inRange =>
    exact UInt64.le_iff_toNat_le.mp (UInt64.not_lt.mp inRange)

/-- A tick of a session lasts at least a millisecond. -/
theorem tickDuration_clamp_pos (settings : Settings) :
    0 < settings.clamp.1.tickDuration.toNat := by
  rw [clamp_fields, clampTickDuration]
  split
  case isTrue =>
    have standard : 0 < standardTickDuration.toNat := by decide
    exact standard
  case isFalse lasts =>
    apply Nat.pos_of_ne_zero
    intro zero
    exact lasts (UInt64.toNat_inj.mp zero)

/-- A number of participants in range stays. -/
theorem clampParticipants_of_inRange
    {settings : Settings}
    (positive : 1 ≤ settings.participants.toNat)
    (few : settings.participants.toNat ≤ mostLocalParticipants) :
    settings.clampParticipants = (settings, []) := by
  rw [clampParticipants, if_neg]
  rintro (zero | many)
  · rw [zero] at positive
    exact absurd positive (by decide)
  · exact Nat.not_lt.mpr few (UInt64.lt_iff_toNat_lt.mp many)

/-- Steps that fit stay. -/
theorem clampStepOctets_of_fits
    {settings : Settings}
    (fits : settings.stepOctets ≤ longestStep.toNat) :
    settings.clampStepOctets = (settings, []) := by
  rw [clampStepOctets, if_neg (Nat.not_lt.mpr fits)]

/-- A tick that lasts stays. -/
theorem clampTickDuration_of_lasts
    {settings : Settings}
    (lasts : 1 ≤ settings.tickDuration.toNat) :
    settings.clampTickDuration = (settings, []) := by
  rw [clampTickDuration, if_neg]
  intro zero
  rw [zero] at lasts
  exact absurd lasts (by decide)

/-- Room for the copies in flight stays. -/
theorem clampPredictedSteps_of_holds
    {settings : Settings}
    (holds : Redundancy.copies ≤ settings.predictedSteps.toNat) :
    settings.clampPredictedSteps = (settings, []) := by
  rw [clampPredictedSteps, if_neg]
  intro fewer
  exact Nat.not_lt.mpr holds (UInt64.lt_iff_toNat_lt.mp fewer)

/-- Clamping a second time changes nothing, and there is nothing to say about it. -/
theorem clamp_clamp (settings : Settings) :
    settings.clamp.1.clamp = (settings.clamp.1, []) := by
  have someParticipants := settings.one_le_participants_clamp
  have fewParticipants := settings.participants_clamp_le
  have fits := settings.stepOctets_clamp_le
  have lasts := settings.tickDuration_clamp_pos
  have holds := settings.copies_le_predictedSteps_clamp
  generalize settings.clamp.1 = clamped at *
  unfold clamp
  rw [clampParticipants_of_inRange someParticipants fewParticipants]
  dsimp only
  rw [clampStepOctets_of_fits fits]
  dsimp only
  rw [clampTickDuration_of_lasts lasts]
  dsimp only
  rw [clampPredictedSteps_of_holds holds]
  rfl

/--
Settings can be brought into range exactly if the length of a step fits a word.
-/
theorem clamp?_eq_none_iff {settings : Settings} :
    settings.clamp? = none ↔
      UInt64.size ≤ settings.clampParticipants.1.stepOctets := by
  rw [clamp?, Option.map_eq_none_iff]
  exact stepOctets?_eq_none_iff settings.participants_clampParticipants.1

/-- What settings are brought to in words is what they are brought to in numbers. -/
theorem eq_clamp_of_clamp?
    {settings : Settings}
    {clamped : Settings × List Notice}
    (inRange : settings.clamp? = some clamped) :
    clamped = settings.clamp := by
  obtain ⟨_, _, same⟩ := Option.map_eq_some_iff.mp inRange
  exact same.symm

/-- The length of a step in range is computed without loss. -/
theorem stepOctets?_clamp (settings : Settings) :
    settings.clamp.1.stepOctets? =
      some (UInt64.ofNat settings.clamp.1.stepOctets) :=
  stepOctets?_of_fits settings.one_le_participants_clamp
    (Nat.lt_of_le_of_lt settings.stepOctets_clamp_le longestStep.toNat_lt)

/-- What is in range once is brought into range again without a word. -/
theorem clamp?_clamp (settings : Settings) :
    settings.clamp.1.clamp? = some (settings.clamp.1, []) := by
  have same :=
    clampParticipants_of_inRange settings.one_le_participants_clamp
      settings.participants_clamp_le
  rw [clamp?, same, stepOctets?_clamp, Option.map_some, clamp_clamp]

theorem snapshotOctets_clamp (settings : Settings) :
    settings.clamp.1.snapshotOctets = settings.snapshotOctets := by
  rw [clamp_fields]

end StepSync.Settings
