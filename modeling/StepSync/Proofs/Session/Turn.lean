import StepSync.Proofs.Session.Composing
import StepSync.Proofs.Session.Outgoing

namespace StepSync.Session

/-!
# A tick before the game

At the end of a tick a session that has not synced yet sends the message that is
due, as soon as it has not to wait, and keeps its situation but for the numbering
and the time to wait (`Turns`).  While it downloads, it does not wait between two
messages.
-/

namespace Action

variable {session : Session}

/-- A session that has not to wait prepares what is due. -/
theorem gives_preparedReady
    (composable : session.situation.Composable)
    (coherent : session.situation.Coherent)
    (unsynced : session.stage ≠ .synced)
    (ready : session.waitTicks = 0)
    (now : Nat) :
    Gives (prepareSending now) session (session.prepared now)
      (session.situation.dueMessage?.map session.datagramOf) := by
  have judged : Gives judgeLink session session true := by
    constructor <;>
      simp [judgeLink, session_bind, result_bind, unsynced]
  have dueNow : session.dueNow? = session.situation.dueMessage? := by
    rw [dueNow?, ready]
    rfl
  have gives := gives_prepared composable coherent now
  rw [dueNow] at gives
  exact .bind judged gives

end Action

/--
A session before the game that has not to wait keeps its situation, but for
the time to wait.
-/
theorem situation_prepared
    {session : Session}
    (unsynced : session.stage ≠ .synced)
    (ready : session.waitTicks = 0)
    (now : Nat) :
    ∃ waitTicks,
      (session.stage = .downloadingState → waitTicks = 0) ∧
        (session.prepared now).situation =
          { session.situation with waitTicks := waitTicks } := by
  have stillUnsynced : (session.rated now).stage ≠ .synced := unsynced
  refine ⟨(session.rated now).dueWait, fun downloading => ?_, ?_⟩
  · have stillDownloading : (session.rated now).stage = .downloadingState :=
      downloading
    rw [dueWait, stillDownloading]
  · rw [prepared, ready, if_pos rfl, composed_of_unsynced stillUnsynced]
    rfl

/--
What the end of a tick comes to before the game: what is due is sent, and the
rest of the situation stays.
-/
structure Turns (session : Session) (ended : Tick) : Prop where
  offered : ended.offered =
    session.situation.dueMessage?.map session.datagramOf
  result : ended.outcome.result = .ok ()
  situation : ∃ sendSequence waitTicks,
    (session.stage = .downloadingState → waitTicks = 0) ∧
      ended.outcome.session.situation =
        { session.situation with
          sendSequence := sendSequence
          waitTicks := waitTicks }

/-- A session that has not synced yet, and has not to wait, sends what is due. -/
theorem turns_endTick
    {session : Session}
    (composable : session.situation.Composable)
    (coherent : session.situation.Coherent)
    (unsynced : session.stage ≠ .synced)
    (ready : session.waitTicks = 0)
    (now : Nat) :
    Turns session (session.endTick now none) := by
  have gives :=
    Action.gives_preparedReady composable coherent unsynced ready now
  obtain ⟨waitTicks, atOnce, same⟩ :=
    situation_prepared unsynced ready now
  generalize session.prepared now = prepared at gives same
  have stage : prepared.stage ≠ .synced := by
    rw [show prepared.stage = _ from congrArg Situation.stage same]
    exact unsynced
  unfold endTick
  dsimp only
  rw [gives.result, gives.session]
  cases due : session.situation.dueMessage? with
  | none =>
      exact ⟨by rw [due]; rfl, rfl, session.sendSequence, waitTicks, atOnce,
        same⟩
  | some message =>
      have concluded :
          (Action.concludeSending (session.datagramOf message) none
              prepared).session.situation =
            { prepared.situation with
              sendSequence := prepared.sendSequence.advance } := by
        simp only [Action.concludeSending, Action.countSent,
          Action.session_bind, Action.modify_apply, Action.current_apply,
          stage, ↓reduceIte]
        rfl
      refine ⟨by rw [due]; rfl, ?_, prepared.sendSequence.advance, waitTicks,
        atOnce, ?_⟩
      · simp [Action.concludeSending, Action.countSent, Action.result_bind,
          Action.session_bind, stage]
      · refine concluded.trans ?_
        rw [same]

end StepSync.Session
