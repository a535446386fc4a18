import StepSync.Proofs.Conductor.Run
import StepSync.Proofs.Session.Lifecycle

namespace StepSync

/-!
# What a conductor's standing says

Conductor and session are two state machines, and the conductor learns of the
session's stage only when it is updated.  Its standing is true all the same: it says
no more than the session has come to (`Conductor.standing_truthful`).

Two facts about stages carry this.  A session stays where it is once it is
disconnected, and a synced one can only become disconnected, unless it starts over;
and only a reset or a renewal of the conductor makes it start over.
-/

namespace Session

/--
There is no game ahead of the session any more: it takes part in one,
or has left it.
-/
def HasArrived (session : Session) : Prop :=
  session.stage = .synced ∨ session.stage = .disconnected

variable {session : Session} {event : Event}

/-- A disconnected session stays so until it starts over. -/
theorem stage_after_of_disconnected
    (coherent : session.situation.Coherent)
    (gone : session.stage = .disconnected)
    (goesOn : event ≠ .asked .reset) :
    (session.after event).stage = .disconnected := by
  have edge : Edge event session.stage (session.after event).stage :=
    (coherent_after coherent event).2.edge
  rw [gone] at edge
  generalize (session.after event).stage = stage at edge
  cases edge with
  | stay => rfl
  | disconnect => rfl
  | reset => exact absurd rfl goesOn

/-- A session that has arrived leaves the game only by being disconnected. -/
theorem hasArrived_after
    (coherent : session.situation.Coherent)
    (arrived : session.HasArrived)
    (goesOn : event ≠ .asked .reset) :
    (session.after event).HasArrived := by
  rcases arrived with synced | gone
  · have edge : Edge event session.stage (session.after event).stage :=
      (coherent_after coherent event).2.edge
    unfold HasArrived
    rw [synced] at edge
    generalize (session.after event).stage = stage at edge ⊢
    cases edge with
    | stay => exact .inl rfl
    | giveUp => exact .inr rfl
    | disconnect => exact .inr rfl
    | reset => exact absurd rfl goesOn
  · exact .inr (stage_after_of_disconnected coherent gone goesOn)

/--
What holds until a session starts over holds after events none of which does so.
-/
theorem keeps_until_reset
    (Kept : Session → Prop)
    (keeps : ∀ session event, session.situation.Coherent → Kept session →
      event ≠ .asked .reset → Kept (session.after event))
    {session : Session}
    (coherent : session.situation.Coherent)
    (kept : Kept session)
    {events : List Event}
    (goesOn : .asked .reset ∉ events) :
    Kept (session.afterAll events) := by
  induction events generalizing session with
  | nil => exact kept
  | cons event events inductionHypothesis =>
      rw [List.mem_cons, not_or] at goesOn
      obtain ⟨first, others⟩ := goesOn
      exact inductionHypothesis (coherent_after coherent event).1
        (keeps session event coherent kept (Ne.symm first)) others

theorem coherent_afterAll_of_coherent
    (coherent : session.situation.Coherent)
    (events : List Event) :
    (session.afterAll events).situation.Coherent :=
  keeps_afterAll (fun session => session.situation.Coherent)
    (fun _ event coherent => (coherent_after coherent event).1) coherent events

end Session

namespace Conductor

variable {conductor : Conductor}

/-- The calls by which a session starts over. -/
def Call.StartsOver (call : Call) : Prop :=
  call = .reset ∨ call = .reinit

instance (call : Call) : Decidable call.StartsOver := by
  unfold Call.StartsOver
  infer_instance

theorem reset_notMem_wish (conductor : Conductor) :
    Session.Event.asked .reset ∉ conductor.wish?.toList.map .asked := by
  have wishes : conductor.wish? ≠ some .reset := by
    unfold wish?
    split
    · simp
    · split <;> simp
  simpa using wishes

theorem reset_notMem_updateEvents
    (conductor : Conductor)
    (now : Nat)
    (wire : Session.Wire) :
    .asked .reset ∉ conductor.updateEvents now wire := by
  have ticks : .asked .reset ∉ wire.events now := by
    unfold Session.Wire.events
    cases Session.failure? wire.arrivals <;> simp
  unfold updateEvents
  split
  · exact List.not_mem_nil
  · split
    · exact conductor.reset_notMem_wish
    · rw [List.mem_append, not_or]
      refine ⟨ticks, ?_⟩
      cases (conductor.session.tick now wire).outcome.result with
      | ok _ => exact reset_notMem_wish _
      | error refusal => exact List.not_mem_nil

/-- Nothing but a call for it makes a session start over. -/
theorem reset_notMem_sessionEvents
    {call : Call}
    (goesOn : ¬call.StartsOver) :
    .asked .reset ∉ conductor.sessionEvents call := by
  cases call with
  | joinGame localIndices => simp [sessionEvents]
  | quitGame => simp [sessionEvents]
  | reset => exact absurd (.inl rfl) goesOn
  | reinit => exact absurd (.inr rfl) goesOn
  | update now wire => exact conductor.reset_notMem_updateEvents now wire
  | deed deed =>
      cases deed <;>
        simp [sessionEvents, Deed.call, Session.Call.events]

/-- The standing of a conductor says no more than its session has come to. -/
structure Truthful (conductor : Conductor) : Prop where
  coherent : conductor.session.situation.Coherent
  synced : conductor.standing = .synced → conductor.session.HasArrived
  disconnected : conductor.standing = .disconnected →
    conductor.session.stage = .disconnected
  fresh : conductor.goal = .fresh → conductor.session.stage = .idle

/--
The step towards a goal keeps the goal, and moves on to a standing that is true.
-/
theorem standing_advance (conductor : Conductor) :
    let after := conductor.advance.1
    after.goal = conductor.goal ∧
      (after.standing = conductor.standing ∨
        after.standing = .cleared ∨
        after.standing = .synced ∧ after.session.stage = .synced) := by
  dsimp only
  unfold advance
  split
  · exact ⟨rfl, .inl rfl⟩
  · split
    case h_1 =>
      split
      case h_3 stage => exact ⟨rfl, .inr (.inr ⟨rfl, stage⟩)⟩
      all_goals exact ⟨rfl, .inl rfl⟩
    case h_2 => exact ⟨rfl, .inr (.inl rfl)⟩
    all_goals exact ⟨rfl, .inl rfl⟩

/-- An update keeps the goal, and moves on to a standing that is true. -/
theorem standing_update
    (conductor : Conductor)
    (now : Nat)
    (wire : Session.Wire) :
    let after := (conductor.update now wire).conductor
    after.goal = conductor.goal ∧
      (after.standing = conductor.standing ∨
        after.standing = .cleared ∨
        after.standing = .synced ∧ after.session.stage = .synced ∨
        after.standing = .disconnected ∧
          after.session.stage = .disconnected) := by
  have advances (other : Conductor) :
      other.advance.1.goal = other.goal ∧
        (other.advance.1.standing = other.standing ∨
          other.advance.1.standing = .cleared ∨
          other.advance.1.standing = .synced ∧
            other.advance.1.session.stage = .synced ∨
          other.advance.1.standing = .disconnected ∧
            other.advance.1.session.stage = .disconnected) := by
    obtain ⟨goal, same | cleared | synced⟩ := other.standing_advance
    · exact ⟨goal, .inl same⟩
    · exact ⟨goal, .inr (.inl cleared)⟩
    · exact ⟨goal, .inr (.inr (.inl synced))⟩
  dsimp only
  by_cases gone : conductor.session.stage = .disconnected
  · rw [(update_of_disconnected gone now wire).1]
    exact ⟨rfl, .inr (.inr (.inr ⟨rfl, gone⟩))⟩
  · by_cases idles : conductor.Idles
    · rw [(update_of_unticked gone (idles.resolve_left gone) now wire).1]
      exact advances conductor
    · rw [(update_of_ticked idles now wire).2.2.2]
      cases (conductor.session.tick now wire).outcome.result with
      | ok _ => exact advances (conductor.ticked now wire)
      | error refusal => exact ⟨rfl, .inl rfl⟩

/-- What a call that does not start over does to the goal and the standing. -/
theorem standing_call
    (conductor : Conductor)
    {call : Call}
    (goesOn : ¬call.StartsOver) :
    let after := (conductor.call call).2
    (after.goal = .fresh → conductor.goal = .fresh) ∧
      (after.standing = conductor.standing ∨
        after.standing = .cleared ∨
        after.standing = .fresh ∨
        after.standing = .synced ∧ after.session.stage = .synced ∨
        after.standing = .disconnected ∧
          after.session.stage = .disconnected) := by
  dsimp only
  cases call with
  | reset => exact absurd (.inl rfl) goesOn
  | reinit => exact absurd (.inr rfl) goesOn
  | quitGame => exact ⟨nofun, .inl rfl⟩
  | deed deed => exact ⟨id, .inl rfl⟩
  | joinGame localIndices =>
      refine ⟨nofun, ?_⟩
      by_cases cleared : conductor.standing = .cleared
      · exact .inr (.inr (.inl (if_pos cleared)))
      · exact .inl (if_neg cleared)
  | update now wire =>
      obtain ⟨goal, moves⟩ := conductor.standing_update now wire
      refine ⟨fun fresh => goal.symm.trans fresh, ?_⟩
      rcases moves with same | cleared | reached
      · exact .inl same
      · exact .inr (.inl cleared)
      · exact .inr (.inr (.inr reached))

/--
Without a goal, the session of a conductor does not leave the stage
where it is idle.
-/
theorem idle_call
    (coherent : conductor.session.situation.Coherent)
    (idle : conductor.session.stage = .idle)
    {call : Call}
    (fresh : conductor.goal = .fresh)
    (staysFresh : (conductor.call call).2.goal = .fresh) :
    (conductor.call call).2.session.stage = .idle := by
  have received (datagram : Octets) :
      (conductor.session.after (.received datagram)).stage = .idle := by
    have edge :
        Session.Edge (.received datagram) conductor.session.stage
          (conductor.session.after (.received datagram)).stage :=
      (Session.coherent_after coherent (.received datagram)).2.edge
    rw [idle] at edge
    generalize (conductor.session.after _).stage = stage at edge ⊢
    cases edge
    rfl
  have asked
      {request : Session.Request}
      (steps : request = .readStep ∨ ∃ payload, request = .predict payload) :
      (conductor.session.after (.asked request)).stage = .idle := by
    have edge :
        Session.Edge (.asked request) conductor.session.stage
          (conductor.session.after (.asked request)).stage :=
      (Session.coherent_after coherent (.asked request)).2.edge
    rw [idle] at edge
    generalize (conductor.session.after _).stage = stage at edge ⊢
    rcases steps with rfl | ⟨payload, rfl⟩ <;> cases edge <;> rfl
  cases call with
  | joinGame localIndices => cases staysFresh
  | quitGame => cases staysFresh
  | reset => rfl
  | reinit => rfl
  | update now wire =>
      have present : conductor.session.stage ≠ .disconnected := by simp [idle]
      have unticked :=
        (update_of_unticked present (.inr fresh) now wire).1
      have still : conductor.wish? = none := by
        simp [wish?, fresh]
      rw [call, unticked, session_advance, still]
      exact idle
  | deed deed =>
      cases deed with
      | receive datagram => exact received datagram
      | readStep => exact asked (.inl rfl)
      | predict payload => exact asked (.inr ⟨payload, rfl⟩)

namespace Truthful

/--
Starting over leads back to an idle session, and to a standing that
claims nothing.
-/
theorem call_of_startsOver
    (truthful : conductor.Truthful)
    {call : Call}
    (startsOver : call.StartsOver) :
    (conductor.call call).2.Truthful := by
  have coherent :=
    (Session.coherent_after truthful.coherent (.asked .reset)).1
  rcases startsOver with rfl | rfl
  · exact ⟨coherent, by rintro ⟨⟩, by rintro ⟨⟩, fun _ => rfl⟩
  · exact ⟨coherent, by rintro ⟨⟩, by rintro ⟨⟩, fun _ => rfl⟩

/-- Every call keeps the standing true. -/
theorem call (truthful : conductor.Truthful) (call : Call) :
    (conductor.call call).2.Truthful := by
  by_cases startsOver : call.StartsOver
  · exact truthful.call_of_startsOver startsOver
  · have coherent := truthful.coherent
    have goesOn : .asked .reset ∉ conductor.sessionEvents call :=
      reset_notMem_sessionEvents startsOver
    have leaves := conductor.session_call call
    have arrived (before : conductor.session.HasArrived) :
        (conductor.call call).2.session.HasArrived := by
      rw [leaves]
      exact Session.keeps_until_reset Session.HasArrived
        (fun _ _ coherent => Session.hasArrived_after coherent)
        coherent before goesOn
    have gone (before : conductor.session.stage = .disconnected) :
        (conductor.call call).2.session.stage = .disconnected := by
      rw [leaves]
      exact Session.keeps_until_reset (fun session => session.stage = _)
        (fun _ _ coherent => Session.stage_after_of_disconnected coherent)
        coherent before goesOn
    obtain ⟨goal, moves⟩ := conductor.standing_call startsOver
    refine ⟨?_, fun synced => ?_, fun disconnected => ?_, fun fresh => ?_⟩
    · rw [leaves]
      exact Session.coherent_afterAll_of_coherent coherent _
    · rcases moves with same | other | other | reached | other
      · exact arrived (truthful.synced (same.symm.trans synced))
      · cases other.symm.trans synced
      · cases other.symm.trans synced
      · exact .inl reached.2
      · cases other.1.symm.trans synced
    · rcases moves with same | other | other | other | reached
      · exact gone (truthful.disconnected (same.symm.trans disconnected))
      · cases other.symm.trans disconnected
      · cases other.symm.trans disconnected
      · cases other.1.symm.trans disconnected
      · exact reached.2
    · have before := goal fresh
      exact idle_call coherent (truthful.fresh before) before fresh

end Truthful

theorem truthful_reached (settings : Settings) (calls : List Call) :
    (reached settings calls).Truthful := by
  refine keeps_run Truthful (fun _ call truthful => truthful.call call) ?_ calls
  rw [create_fst, Session.session_create]
  exact
    ⟨Session.coherent_idle settings.clamp.1, by rintro ⟨⟩, by rintro ⟨⟩,
      fun _ => rfl⟩

/-- A disconnected session stays so through calls none of which starts over. -/
theorem stage_run_of_disconnected
    (truthful : conductor.Truthful)
    (gone : conductor.session.stage = .disconnected)
    {calls : List Call}
    (goesOn : ∀ call ∈ calls, ¬call.StartsOver) :
    (conductor.run calls).session.stage = .disconnected := by
  induction calls generalizing conductor with
  | nil => exact gone
  | cons call calls inductionHypothesis =>
      obtain ⟨first, others⟩ := List.forall_mem_cons.mp goesOn
      refine inductionHypothesis (truthful.call call) ?_ others
      rw [session_call]
      exact Session.keeps_until_reset (fun session => session.stage = _)
        (fun _ _ coherent => Session.stage_after_of_disconnected coherent)
        truthful.coherent gone (reset_notMem_sessionEvents first)

/-- The step towards a goal makes no session synced. -/
theorem synced_of_advance
    (synced : conductor.advance.1.session.stage = .synced) :
    conductor.session.stage = .synced := by
  have asks (request : Session.Request) :
      (conductor.session.after (.asked request)).stage =
        (conductor.session.situation.ask request).stage :=
    congrArg Situation.stage (Session.situation_ask _ request)
  rw [session_advance] at synced
  unfold wish? at synced
  split at synced
  · exact synced
  · split at synced
    case h_1 _ idle =>
      have connects := (asks .requestConnect).symm.trans synced
      have same : conductor.session.situation.stage = .idle := idle
      rw [Situation.ask, if_pos same] at connects
      cases connects
    case h_2 _ connected =>
      have joins := (asks .beginJoin).symm.trans synced
      have same : conductor.session.situation.stage = .connected := connected
      rw [Situation.ask, if_pos same] at joins
      cases joins
    case h_3 => exact synced

/-- An update of a synced session that goes well says so, if that was the goal. -/
theorem standing_update_of_synced
    {now : Nat}
    {wire : Session.Wire}
    (goal : conductor.goal = .synced)
    (notAtRest : conductor.standing ≠ .cleared)
    (goesWell : (conductor.update now wire).result = .ok ())
    (synced :
      (conductor.update now wire).conductor.session.stage = .synced) :
    (conductor.update now wire).conductor.standing = .synced := by
  by_cases gone : conductor.session.stage = .disconnected
  · rw [(update_of_disconnected gone now wire).1] at synced
    cases gone.symm.trans synced
  · have active : ¬conductor.Idles := by
      simp [Idles, gone, notAtRest, goal]
    obtain ⟨_, _, result, after⟩ := update_of_ticked active now wire
    rw [← result, goesWell] at after
    rw [after] at synced ⊢
    have sameGoal : (conductor.ticked now wire).goal = .synced := goal
    have stage := synced_of_advance synced
    unfold advance
    by_cases arrived :
        (conductor.ticked now wire).standing =
          (conductor.ticked now wire).goal
    · rw [if_pos arrived]
      exact arrived.trans sameGoal
    · rw [if_neg arrived, sameGoal, stage]

/--
An update finds the session disconnected: it leaves session and transport
alone, and says so.
-/
def FindsDisconnected (conductor : Conductor) : Prop :=
  conductor.session.stage = .disconnected ∧
    ∀ now wire,
      let update := conductor.update now wire
      update.conductor = { conductor with standing := .disconnected } ∧
        update.left = wire.arrivals ∧
        update.offered = none ∧
        update.result = .ok ()

/--
Whatever a conductor has been through, it stands no further than its session.
Without a goal the session is idle and the transport left alone; a disconnected
session is found disconnected by every update until the conductor starts over,
wherever it is sent meanwhile; and an update that goes well towards the game says
that the session is synced if it is.
-/
theorem standing_truthful (settings : Settings) (calls : List Call) :
    let conductor := reached settings calls
    (conductor.standing = .synced →
        conductor.session.stage = .synced ∨
          conductor.session.stage = .disconnected) ∧
      (conductor.standing = .disconnected →
        conductor.session.stage = .disconnected) ∧
      (conductor.goal = .fresh →
        conductor.session.stage = .idle ∧
          ∀ now wire,
            (conductor.update now wire).offered = none ∧
              (conductor.update now wire).left = wire.arrivals) ∧
      (conductor.session.stage = .disconnected →
        ∀ later, .reset ∉ later → .reinit ∉ later →
          (conductor.run later).FindsDisconnected) ∧
      ∀ now wire,
        let update := conductor.update now wire
        conductor.goal = .synced → conductor.standing ≠ .cleared →
          update.result = .ok () →
          update.conductor.session.stage = .synced →
          update.conductor.standing = .synced := by
  dsimp only
  have truthful := truthful_reached settings calls
  generalize reached settings calls = conductor at truthful ⊢
  refine
    ⟨truthful.synced, truthful.disconnected, fun fresh => ?_, ?_,
      fun _ _ => standing_update_of_synced⟩
  · have idle := truthful.fresh fresh
    refine ⟨idle, fun now wire => ?_⟩
    obtain ⟨_, left, offered, _⟩ :=
      update_of_unticked (by simp [idle]) (.inr fresh) now wire
    exact ⟨offered, left⟩
  · intro gone later noReset noReinit
    have goesOn : ∀ call ∈ later, ¬call.StartsOver := by
      rintro call member (rfl | rfl)
      · exact noReset member
      · exact noReinit member
    have stillGone := stage_run_of_disconnected truthful gone goesOn
    exact ⟨stillGone, update_of_disconnected stillGone⟩

end Conductor

end StepSync
