import StepSync.Proofs.Session.Lifecycle
import StepSync.Proofs.Session.Settings

namespace StepSync

/-!
# The longest step of a session

The length of a step is computed in words.  Where it does not fit a word, settings
can not be brought into range, and there is no session.  Wherever it does, the
settings end up in range without a word that is too small or too large, and the
limit of a session is the length itself (`Session.clamp_limits`).
-/

namespace Settings

/-- What is given is brought into range, and what is in range stays. -/
structure ClampsTo (given clamped : Settings) : Prop where
  someParticipants : 1 ≤ clamped.participants.toNat
  fewParticipants : clamped.participants.toNat ≤ mostLocalParticipants
  stepFits : clamped.stepOctets ≤ longestStep.toNat
  tickLasts : 1 ≤ clamped.tickDuration.toNat
  copiesHeld : Redundancy.copies ≤ clamped.predictedSteps.toNat
  sameParticipants :
    1 ≤ given.participants.toNat ∧
        given.participants.toNat ≤ mostLocalParticipants →
      clamped.participants = given.participants
  sameOctets :
    { given with participants := clamped.participants }.stepOctets ≤
        longestStep.toNat →
      clamped.participantOctets = given.participantOctets
  sameTick :
    1 ≤ given.tickDuration.toNat →
      clamped.tickDuration = given.tickDuration
  sameSteps :
    Redundancy.copies ≤ given.predictedSteps.toNat →
      clamped.predictedSteps = given.predictedSteps
  sameOthers :
    clamped =
      { given with
        participants := clamped.participants
        participantOctets := clamped.participantOctets
        tickDuration := clamped.tickDuration
        predictedSteps := clamped.predictedSteps }
  noUnderflow :
    participantOverhead.toNat ≤
      longestStep.toNat / clamped.participants.toNat
  noOverflow :
    clamped.stepOctets? = some (UInt64.ofNat clamped.stepOctets)
  again : clamped.clamp? = some (clamped, [])

/-- Settings end up in range, and those that were in range stay as they are. -/
theorem clampsTo_clamp (settings : Settings) :
    settings.ClampsTo settings.clamp.1 where
  someParticipants := settings.one_le_participants_clamp
  fewParticipants := settings.participants_clamp_le
  stepFits := settings.stepOctets_clamp_le
  tickLasts := settings.tickDuration_clamp_pos
  copiesHeld := settings.copies_le_predictedSteps_clamp
  sameParticipants := by
    rintro ⟨positive, few⟩
    rw [participants_clamp, clampParticipants_of_inRange positive few]
  sameOctets := by
    intro fits
    rw [participants_clamp, ← clampParticipants_fst] at fits
    rw [clamp_fields, clampStepOctets_of_fits fits, clampParticipants_fst]
  sameTick := by
    intro lasts
    rw [clamp_fields, clampTickDuration_of_lasts lasts]
  sameSteps := by
    intro holds
    rw [clamp_fields, clampPredictedSteps_of_holds holds]
  sameOthers := by
    rw [clamp_fields]
  noUnderflow :=
    participantOverhead_le_share settings.one_le_participants_clamp
      settings.participants_clamp_le
  noOverflow := settings.stepOctets?_clamp
  again := settings.clamp?_clamp

end Settings

namespace Session

/--
A prediction is too long exactly if it has more octets than the settings allow.
-/
theorem result_predict_tooLarge_iff
    (session : Session)
    (payload : Octets)
    (size limit : Nat) :
    (Action.predict payload session).result =
        .error (.stepTooLarge size limit) ↔
      size = payload.length ∧
        limit = session.settings.stepOctets ∧
        limit < payload.length := by
  unfold Action.predict
  rw [Action.current_bind]
  by_cases long : session.settings.stepOctets < payload.length
  · rw [if_pos long, Action.refuse_apply]
    simp only [Except.error.injEq, Refusal.stepTooLarge.injEq]
    omega
  · rw [if_neg long]
    constructor
    · intro refused
      cases written :
          session.outbound.predicted.write
            session.outbound.predicted.nextId payload with
      | error failure =>
          by_cases room : session.canPredict <;>
            simp [room, written] at refused
      | ok longer =>
          by_cases room : session.canPredict <;>
            simp [room, written, Action.result_bind] at refused
    · rintro ⟨_, rfl, tooLong⟩
      exact absurd tooLong long

/--
Settings can be brought into range exactly if the length of a step, with its
participants in range, fits a word; otherwise there is no session with them.
Those that can end up in range, what was in range stays, and nothing on the way is
too small or too large for a word.  The limit of predictions, whatever happens to
the session, is then the length of a step itself.
-/
theorem clamp_limits (settings : Settings) :
    (settings.clamp? = none ↔
        UInt64.size ≤ settings.clampParticipants.1.stepOctets) ∧
      (settings.clamp? = none → create? settings = none) ∧
      ∀ clamped notices,
        settings.clamp? = some (clamped, notices) →
          settings.ClampsTo clamped ∧
            ∀ session said,
              create? settings = some (session, said) →
                ∀ events payload size limit,
                  (Action.predict payload (session.afterAll events)).result =
                      .error (.stepTooLarge size limit) ↔
                    size = payload.length ∧
                      limit = clamped.stepOctets ∧
                      limit < payload.length := by
  refine ⟨Settings.clamp?_eq_none_iff, fun outOfRange => ?_,
    fun clamped notices inRange => ?_⟩
  · rw [create?, outOfRange]
    rfl
  · have same : (clamped, notices) = settings.clamp :=
      Settings.eq_clamp_of_clamp? inRange
    obtain rfl : clamped = settings.clamp.1 := congrArg Prod.fst same
    refine ⟨settings.clampsTo_clamp,
      fun session said built events payload size limit => ?_⟩
    have created : (session, said) = create settings :=
      (create?_eq_some_iff.mp built).2
    obtain rfl : session = (create settings).1 := congrArg Prod.fst created
    rw [result_predict_tooLarge_iff, settings_afterAll]

/-- Settings that ask for too much, and for too little. -/
def excessiveSettings : Settings :=
  { Settings.standard with
    participants := 12
    participantOctets := 4000
    tickDuration := 0
    predictedSteps := 1 }

/-- They are left with eight parts of 46 octets, and two octets in front of each. -/
theorem clamp_limits_excessive :
    ∃ clamped notices session said,
      excessiveSettings.clamp? = some (clamped, notices) ∧
        create? excessiveSettings = some (session, said) ∧
        clamped.stepOctets = 8 * (46 + 2) ∧
        ∀ events,
          (Action.predict (List.replicate 385 0)
              (session.afterAll events)).result =
            .error (.stepTooLarge 385 384) := by
  obtain ⟨_, _, limits⟩ := clamp_limits excessiveSettings
  have inRange : excessiveSettings.clamp? = some excessiveSettings.clamp := by
    decide
  have built : create? excessiveSettings = some (create excessiveSettings) :=
    create?_eq_some_iff.mpr ⟨by rw [inRange]; rfl, rfl⟩
  refine ⟨_, _, _, _, inRange, built, by decide, fun events => ?_⟩
  refine ((limits _ _ inRange).2 _ _ built events _ _ _).mpr
    ⟨?_, by decide, ?_⟩
  · rw [List.length_replicate]
  · rw [List.length_replicate]
    decide

/-- The standard settings, with parts of any length that a word holds. -/
def unboundedSettings : Settings :=
  { Settings.standard with participantOctets := 0xFFFFFFFFFFFFFFFF }

/-- Not all settings can be brought into range. -/
theorem not_always_clamped :
    ¬∀ settings : Settings,
        ∃ clamped notices,
          settings.clamp? = some (clamped, notices) ∧
            settings.ClampsTo clamped := by
  intro always
  obtain ⟨clamped, notices, inRange, _⟩ := always unboundedSettings
  have outOfRange : unboundedSettings.clamp? = none := by decide
  rw [outOfRange] at inRange
  cases inRange

end Session

end StepSync
