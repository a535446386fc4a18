import StepSync.Proofs.Conductor.Run

namespace StepSync.Conductor

/-!
# Rest

A cleared conductor does not tick its session, so no update touches the transport.
The step towards the goal is another matter: it goes by the goal and the stage of
the session, and a conductor keeps its goal when it is cleared.  One that has no
step to take is at rest, and nothing but updates never changes anything about it
(`restsThrough_iff`).  One that was cleared on its way into the game has one step
to take: it asks for a connection, which its session, not being ticked, never
sends (`rests_after_reset`).
-/

/-- When an update takes place, and what the transport has for it. -/
structure Occasion where
  now : Nat
  wire : Session.Wire
  deriving Repr, DecidableEq

/-- The update that takes place. -/
def Occasion.call (occasion : Occasion) : Call :=
  .update occasion.now occasion.wire

/-- Updates go well, look at no arrival, and offer nothing to the transport. -/
def LeavesTransport : Conductor → List Occasion → Prop
  | _, [] => True
  | conductor, ⟨now, wire⟩ :: occasions =>
      let update := conductor.update now wire
      update.left = wire.arrivals ∧
        update.offered = none ∧
        update.result = .ok () ∧
        LeavesTransport update.conductor occasions

/-- Updates change nothing, neither about the conductor nor about the transport. -/
def RestsThrough (conductor : Conductor) (occasions : List Occasion) : Prop :=
  conductor.LeavesTransport occasions ∧
    conductor.run (occasions.map Occasion.call) = conductor

/--
A cleared conductor whose session was not left, and which has no step to take.
-/
structure AtRest (conductor : Conductor) : Prop where
  cleared : conductor.standing = .cleared
  present : conductor.session.stage ≠ .disconnected
  aimless :
    conductor.goal = .synced →
      conductor.session.stage ≠ .idle ∧
        conductor.session.stage ≠ .connected ∧
        conductor.session.stage ≠ .synced

variable {conductor : Conductor}

/-- An update of a cleared conductor leaves the transport alone. -/
theorem update_of_cleared
    (cleared : conductor.standing = .cleared)
    (now : Nat)
    (wire : Session.Wire) :
    let update := conductor.update now wire
    update.left = wire.arrivals ∧
      update.offered = none ∧
      update.result = .ok () := by
  by_cases gone : conductor.session.stage = .disconnected
  · exact (update_of_disconnected gone now wire).2
  · exact (update_of_unticked gone (.inl cleared) now wire).2

/--
If nothing more changes behind the first update, it alone makes the difference.
-/
theorem run_of_restsThrough
    (cleared : conductor.standing = .cleared)
    {now : Nat}
    {wire : Session.Wire}
    {occasions : List Occasion}
    (rests : (conductor.update now wire).conductor.RestsThrough occasions) :
    conductor.LeavesTransport (⟨now, wire⟩ :: occasions) ∧
      conductor.run ((⟨now, wire⟩ :: occasions).map Occasion.call) =
        (conductor.update now wire).conductor := by
  obtain ⟨left, offered, succeeds⟩ := update_of_cleared cleared now wire
  obtain ⟨leaves, stays⟩ := rests
  refine ⟨⟨left, offered, succeeds, leaves⟩, ?_⟩
  rw [List.map_cons, run_cons]
  exact stays

namespace AtRest

/-- At rest there is no step towards the goal. -/
theorem advance (rest : conductor.AtRest) : conductor.advance.1 = conductor := by
  unfold Conductor.advance
  split
  case isTrue => rfl
  case isFalse apart =>
    split
    case h_1 goal =>
      obtain ⟨notIdle, notConnected, notSynced⟩ := rest.aimless goal
      split
      case h_1 idle => exact absurd idle notIdle
      case h_2 connected => exact absurd connected notConnected
      case h_3 synced => exact absurd synced notSynced
      case h_4 => rfl
    case h_2 goal => exact absurd (rest.cleared.trans goal.symm) apart
    all_goals rfl

theorem update
    (rest : conductor.AtRest)
    (now : Nat)
    (wire : Session.Wire) :
    (conductor.update now wire).conductor = conductor :=
  (update_of_unticked rest.present (.inl rest.cleared) now wire).1.trans
    rest.advance

/-- What is at rest stays so through any number of updates. -/
theorem restsThrough
    (rest : conductor.AtRest)
    (occasions : List Occasion) :
    conductor.RestsThrough occasions := by
  induction occasions with
  | nil => exact ⟨trivial, rfl⟩
  | cons occasion occasions inductionHypothesis =>
      obtain ⟨now, wire⟩ := occasion
      have same := rest.update now wire
      obtain ⟨leaves, stays⟩ :=
        run_of_restsThrough rest.cleared (same.symm ▸ inductionHypothesis)
      exact ⟨leaves, stays.trans same⟩

end AtRest

/-- A cleared conductor that nothing stirs is at rest. -/
theorem atRest_of_update
    (cleared : conductor.standing = .cleared)
    {now : Nat}
    {wire : Session.Wire}
    (same : (conductor.update now wire).conductor = conductor) :
    conductor.AtRest := by
  have present : conductor.session.stage ≠ .disconnected := by
    intro gone
    rw [(update_of_disconnected gone now wire).1] at same
    have standing := congrArg Conductor.standing same
    rw [cleared] at standing
    cases standing
  rw [(update_of_unticked present (.inl cleared) now wire).1] at same
  refine ⟨cleared, present, fun goal => ?_⟩
  have apart : conductor.standing ≠ conductor.goal := by
    rw [cleared, goal]
    nofun
  rw [advance, if_neg apart, goal] at same
  have standing := congrArg Conductor.standing same
  have stage := congrArg (fun after => after.session.stage) same
  refine ⟨fun idle => ?_, fun connected => ?_, fun synced => ?_⟩
  · simp [idle, perform, Session.Action.requestConnect,
      Session.Action.session_bind] at stage
  · simp [connected, perform, Session.Action.beginJoin,
      Session.Action.session_bind] at stage
  · simp [synced, cleared] at standing

/--
Nothing but updates changes nothing about a cleared conductor exactly if
it is at rest.
-/
theorem restsThrough_iff :
    (conductor.standing = .cleared ∧
        ∀ occasions, conductor.RestsThrough occasions) ↔
      conductor.AtRest := by
  constructor
  · rintro ⟨cleared, rests⟩
    exact atRest_of_update cleared (rests [⟨0, [], none⟩]).2
  · intro rest
    exact ⟨rest.cleared, rest.restsThrough⟩

/--
A cleared conductor on its way into the game asks for a connection, and no more.
-/
theorem update_of_aiming
    (cleared : conductor.standing = .cleared)
    (aims : conductor.goal = .synced)
    (idle : conductor.session.stage = .idle)
    (now : Nat)
    (wire : Session.Wire) :
    (conductor.update now wire).conductor =
      { conductor with
        session := conductor.session.after (.asked .requestConnect) } := by
  have present : conductor.session.stage ≠ .disconnected := by
    rw [idle]
    nofun
  have apart : conductor.standing ≠ conductor.goal := by
    rw [cleared, aims]
    nofun
  have next :
      conductor.advance =
        conductor.perform Session.Action.requestConnect := by
    rw [advance, if_neg apart, aims]
    dsimp only
    rw [idle]
  rw [(update_of_unticked present (.inl cleared) now wire).1, next]
  rfl

/--
A cleared conductor has no step to take while its session asks for a connection.
-/
theorem atRest_of_requesting
    (cleared : conductor.standing = .cleared)
    (requesting : conductor.session.stage = .requestingConnect) :
    conductor.AtRest := by
  refine ⟨cleared, ?_, fun _ => ?_⟩ <;> simp [requesting]

/--
After a reset any number of updates leaves the transport alone, and the conductor
as it is, but for one thing: if the goal is the game, the first update asks for a
connection.
-/
theorem run_reset (conductor : Conductor) (occasions : List Occasion) :
    let cleared := conductor.reset.1
    cleared.LeavesTransport occasions ∧
      cleared.run (occasions.map Occasion.call) =
        { cleared with
          session :=
            if conductor.goal = .synced ∧ occasions ≠ [] then
              cleared.session.after (.asked .requestConnect)
            else cleared.session } := by
  intro cleared
  by_cases aims : conductor.goal = .synced
  · cases occasions with
    | nil =>
        rw [if_neg fun both => both.2 rfl]
        exact ⟨trivial, rfl⟩
    | cons occasion occasions =>
        obtain ⟨now, wire⟩ := occasion
        have atCleared : cleared.standing = .cleared := rfl
        have first := update_of_aiming atCleared aims rfl now wire
        have rest : (cleared.update now wire).conductor.AtRest := by
          rw [first]
          exact atRest_of_requesting rfl rfl
        obtain ⟨leaves, ends⟩ :=
          run_of_restsThrough atCleared (rest.restsThrough occasions)
        rw [if_pos ⟨aims, List.cons_ne_nil _ _⟩]
        exact ⟨leaves, ends.trans first⟩
  · have rest : cleared.AtRest := ⟨rfl, nofun, fun goal => absurd goal aims⟩
    obtain ⟨leaves, stays⟩ := rest.restsThrough occasions
    rw [if_neg fun both => aims both.1]
    exact ⟨leaves, stays⟩

/--
A cleared conductor is unchanged by any number of updates, and leaves the
transport alone in them, exactly if it is at rest.  One that was just cleared
leaves the transport alone whatever its goal is, and stays as it is, but for the
connection that the first update asks for on the way into the game.
-/
theorem rests_after_reset (settings : Settings) (calls : List Call) :
    let conductor := reached settings calls
    let cleared := reached settings (calls ++ [.reset])
    ((conductor.standing = .cleared ∧
          ∀ occasions, conductor.RestsThrough occasions) ↔
        conductor.AtRest) ∧
      cleared.standing = .cleared ∧
      cleared.session.stage = .idle ∧
      cleared.goal = conductor.goal ∧
      ∀ occasions,
        cleared.LeavesTransport occasions ∧
          reached settings
              (calls ++ [.reset] ++ occasions.map Occasion.call) =
            { cleared with
              session :=
                if cleared.goal = .synced ∧ occasions ≠ [] then
                  cleared.session.after (.asked .requestConnect)
                else cleared.session } := by
  intro conductor cleared
  have starts : cleared = conductor.reset.1 := run_append _ _ _
  refine ⟨restsThrough_iff, ?_⟩
  rw [starts]
  refine ⟨rfl, rfl, rfl, fun occasions => ?_⟩
  obtain ⟨leaves, ends⟩ := conductor.run_reset occasions
  refine ⟨leaves, ?_⟩
  rw [reached, run_append]
  change cleared.run _ = _
  rw [starts, ends]
  rfl

/--
A session that was about to join, and is cleared, asks for a
connection all the same.
-/
theorem cleared_not_unchanged :
    ¬∀ (settings : Settings) (calls : List Call) (occasions : List Occasion),
        (reached settings calls).standing = .cleared →
          (reached settings
              (calls ++ occasions.map Occasion.call)).session =
            (reached settings calls).session := by
  intro unchanged
  have same := unchanged Settings.standard [.joinGame [0], .reset]
    [⟨5, [], none⟩] (by decide)
  have stages :
      (reached Settings.standard
          ([.joinGame [0], .reset] ++
            [⟨5, [], none⟩].map Occasion.call)).session.stage =
          .requestingConnect ∧
        (reached Settings.standard
          [.joinGame [0], .reset]).session.stage = .idle := by
    decide
  rw [same] at stages
  cases stages.1.symm.trans stages.2

end StepSync.Conductor
