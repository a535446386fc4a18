import StepSync.Proofs.Session.Delivery
import StepSync.Proofs.Session.Run

namespace StepSync

/-!
# What each event does to a situation

A request does what `Situation.ask` says, a datagram what its delivery says, and
the beginning of a tick does nothing.  The end of a tick may disconnect a synced
session.  What else it does is sending, which touches nothing but the predicted
steps, the numbering of datagrams and the time to wait (`Situation.Sends`).
-/

namespace Situation

/--
What a situation becomes when everything learned from the server is forgotten.
-/
def forget (situation : Situation) : Situation :=
  { situation with
    stage := .idle
    progress := .joining
    joinRequest := none
    membership := none
    connection := none
    sendSequence := SendSequence.start
    outbound := situation.outbound.restart 0
    inbound := situation.inbound.restart 0
    download := none
    requestId := situation.requestId + 1
    snapshot := none
    waitTicks := 0 }

/-- Append a predicted step, unless it is too long or one too many. -/
def predict (situation : Situation) (payload : Octets) : Situation :=
  if situation.settings.stepOctets < payload.length then situation
  else
    let predicted := situation.outbound.predicted
    match predicted.write predicted.nextId payload with
    | .error _ => situation
    | .ok longer =>
        { situation with
          outbound := { situation.outbound with predicted := longer } }

/-- Take the next authoritative step, if one is ready. -/
def readStep (situation : Situation) : Situation :=
  match situation.inbound.read with
  | none => situation
  | some reading => { situation with inbound := reading.inbound }

/-- What a request of the application does to a situation. -/
def ask (situation : Situation) : Session.Request → Situation
  | .requestConnect =>
      if situation.stage = .idle then
        { situation with stage := .requestingConnect, waitTicks := 0 }
      else situation
  | .beginJoin =>
      if situation.stage = .connected then
        { situation with
          stage := .requestingState
          progress := .joining
          waitTicks := 0 }
      else situation
  | .assignJoinRequest request =>
      { situation with
        joinRequest := some (Session.cutJoinRequest request) }
  | .predict payload => situation.predict payload
  | .readStep => situation.readStep
  | .disconnect => { situation with stage := .disconnected }
  | .reset => situation.forget

/-- A prediction changes nothing but the predicted steps. -/
theorem predict_frame (situation : Situation) (payload : Octets) :
    situation.predict payload =
      { situation with
        outbound := { situation.outbound with
          predicted := (situation.predict payload).outbound.predicted } } := by
  unfold predict
  split
  · rfl
  · dsimp only
    split <;> rfl

/-- Reading changes nothing but the steps that come in. -/
theorem readStep_frame (situation : Situation) :
    situation.readStep =
      { situation with inbound := situation.readStep.inbound } := by
  unfold readStep
  split <;> rfl

/--
Finishing a download leaves alone what only the application and sending change.
-/
theorem finishDownload_frame (situation : Situation) :
    situation.finishDownload =
      { situation.finishDownload with
        settings := situation.settings
        joinRequest := situation.joinRequest
        sendSequence := situation.sendSequence
        requestId := situation.requestId } := by
  unfold finishDownload
  split
  · rfl
  · split <;> rfl

/--
What the server says leaves alone what only the application and sending change.
-/
theorem accept_frame (situation : Situation) (delivery : Delivery) :
    situation.accept delivery =
      { situation.accept delivery with
        settings := situation.settings
        joinRequest := situation.joinRequest
        sendSequence := situation.sendSequence
        requestId := situation.requestId } := by
  cases delivery with
  | nothing => rfl
  | outOfSlots => rfl
  | report report => rfl
  | steps report steps => rfl
  | connection response =>
      simp only [accept, acceptConnection]
      split <;> rfl
  | membership response =>
      simp only [accept, acceptMembership]
      split <;> rfl
  | download response =>
      simp only [accept, acceptDownload]
      split
      · exact finishDownload_frame _
      · rfl
  | part channel chunk =>
      simp only [accept, acceptPart]
      split
      · rfl
      · split
        · rfl
        · split
          · rfl
          · exact finishDownload_frame _

/-- The server has no say in the settings. -/
theorem settings_accept (situation : Situation) (delivery : Delivery) :
    (situation.accept delivery).settings = situation.settings := by
  rw [accept_frame]

/-- The application has no say in the settings any more. -/
theorem settings_ask (situation : Situation) (request : Session.Request) :
    (situation.ask request).settings = situation.settings := by
  cases request with
  | requestConnect =>
      simp only [ask]
      split <;> rfl
  | beginJoin =>
      simp only [ask]
      split <;> rfl
  | assignJoinRequest request => rfl
  | predict payload => rw [ask, predict_frame]
  | readStep => rw [ask, readStep_frame]
  | disconnect => rfl
  | reset => rfl

/--
Sending changes nothing but the predicted steps, the numbering and
the time to wait.
-/
structure Sends (before after : Situation) : Prop where
  frame :
    after =
      { before with
        outbound := after.outbound
        sendSequence := after.sendSequence
        waitTicks := after.waitTicks }
  waits : after.waitTicks ≤ max before.waitTicks Session.handshakeWait

namespace Sends

theorem refl (situation : Situation) : Sends situation situation :=
  ⟨rfl, Nat.le_max_left _ _⟩

/-- Sending does not lead to another stage. -/
theorem stage {before after : Situation} (sends : Sends before after) :
    after.stage = before.stage := by
  rw [sends.frame]

/-- Sending twice is sending: the countdown is started at most. -/
theorem trans
    {first second third : Situation}
    (earlier : Sends first second)
    (later : Sends second third) :
    Sends first third where
  frame := by
    rw [later.frame, earlier.frame]
  waits := by
    have := earlier.waits
    have := later.waits
    omega

end Sends

end Situation

namespace Session

namespace Action

variable {First Result : Type}

/-- An action by which something is sent, or nothing done at all. -/
def Sends (action : Action Result) : Prop :=
  ∀ session : Session,
    session.situation.Sends (action session).session.situation

namespace Sends

/-- An action that leaves the situation as it is sends nothing. -/
theorem of_same
    {action : Action Result}
    (same : ∀ session,
      (action session).session.situation = session.situation) :
    Sends action := by
  intro session
  rw [same]
  exact .refl _

/-- Two actions in a row send if each of them does no more than that. -/
theorem bind
    {action : Action First}
    {next : First → Action Result}
    (first : Sends action)
    (second : ∀ found, Sends (next found)) :
    Sends (action >>= next) := by
  intro session
  rw [session_bind]
  split
  · exact (first session).trans (second _ _)
  · exact first session

theorem current
    {next : Session → Action Result}
    (sends : ∀ session, Sends (next session)) :
    Sends (Action.current >>= next) :=
  bind (of_same fun _ => rfl) sends

theorem pure (result : Result) : Sends (Pure.pure result) :=
  of_same fun _ => rfl

theorem note (notice : Notice) : Sends (Action.note notice) :=
  of_same fun _ => rfl

theorem refuse (refusal : Refusal) :
    Sends (Action.refuse refusal : Action Result) :=
  of_same fun _ => rfl

/-- A countdown is started with the time that a handshake waits at most. -/
theorem waitFor
    {ticks : Nat}
    (few : ticks ≤ handshakeWait) :
    Sends (Action.waitFor ticks) :=
  fun _ => ⟨rfl, Nat.le_trans few (Nat.le_max_right _ _)⟩

theorem written (writing : Except CursorError Result × Writer) :
    Sends (Action.written writing) := by
  rcases writing with ⟨failure | result, writer⟩
  · exact refuse _
  · exact pure _

theorem beginDatagram : Sends Action.beginDatagram :=
  current fun _ => bind (written _) fun _ => pure _

theorem addFields (draft : Draft) (fields : List Octets) :
    Sends (Action.addFields draft fields) :=
  bind (written _) fun _ => pure _

/-- A request is put into a draft, and its repetition has to wait. -/
theorem addRequest (draft : Draft) (fields : List Octets) :
    Sends (Action.addRequest draft fields) :=
  bind (addFields _ _) fun _ =>
    bind (waitFor (Nat.le_refl _)) fun _ => pure _

theorem addJoiningMessage (draft : Draft) :
    Sends (Action.addJoiningMessage draft) := by
  refine current fun session => ?_
  cases session.progress with
  | outOfSlots => exact pure _
  | joined => exact bind (note _) fun _ => addRequest _ _
  | joining =>
      cases session.joinRequest with
      | none => exact bind (note _) fun _ => pure _
      | some request => exact addRequest _ _

/-- Whichever message is due, to add it is part of sending. -/
theorem addControlMessage (draft : Draft) :
    Sends (Action.addControlMessage draft) := by
  refine current fun session => ?_
  cases session.stage with
  | requestingConnect => exact bind (note _) fun _ => addRequest _ _
  | requestingState => exact addJoiningMessage _
  | downloadingState =>
      have waits (draft : Draft) :
          Sends (do Action.waitFor 0; Pure.pure draft) :=
        bind (waitFor (Nat.zero_le _)) fun _ => pure _
      cases session.download with
      | none => exact bind (pure _) waits
      | some download => exact bind (addFields _ _) waits
  | idle => exact pure _
  | connected => exact pure _
  | synced => exact pure _
  | disconnected => exact pure _

/-- Steps are put into a draft, and stay in the queue. -/
theorem addSteps (draft : Draft) : Sends (Action.addSteps draft) := by
  refine current fun session => bind (addFields _ _) fun _ => ?_
  refine bind (fun _ => ⟨rfl, Nat.le_max_left _ _⟩) fun _ => ?_
  exact bind (written _) fun _ => bind (note _) fun _ => pure _

/-- A draft is finished without a change of the situation. -/
theorem finishDatagram (draft : Draft) :
    Sends (Action.finishDatagram draft) := by
  refine of_same fun session => ?_
  simp only [Action.finishDatagram, session_bind, current_apply, ite_apply]
  split
  · rfl
  · cases session.connection with
    | none => rfl
    | some connection =>
        simp only [ite_apply]
        split
        · cases draft.writer.patch 1 _ <;> rfl
        · rfl

/-- To compose a datagram does no more than sending. -/
theorem compose : Sends Action.compose := by
  refine current fun session => ?_
  cases session.stage with
  | idle => exact pure _
  | connected => exact pure _
  | disconnected => exact pure _
  | synced =>
      exact bind beginDatagram fun _ => bind (addSteps _) fun _ =>
        finishDatagram _
  | requestingConnect =>
      exact bind beginDatagram fun _ => bind (addControlMessage _) fun _ =>
        finishDatagram _
  | requestingState =>
      exact bind beginDatagram fun _ => bind (addControlMessage _) fun _ =>
        finishDatagram _
  | downloadingState =>
      exact bind beginDatagram fun _ => bind (addControlMessage _) fun _ =>
        finishDatagram _

/-- What was sent is numbered; what was not is told to the journal. -/
theorem concludeSending (datagram : Octets) (refusal : Option String) :
    Sends (Action.concludeSending datagram refusal) := by
  cases refusal with
  | some failure => exact bind (note _) fun _ => refuse _
  | none =>
      refine bind (fun _ => ⟨rfl, Nat.le_max_left _ _⟩) fun _ => ?_
      refine current fun session => ?_
      intro before
      rw [ite_apply]
      split
      · exact ⟨rfl, Nat.zero_le _⟩
      · exact .refl _

end Sends

/-- The health of the link is no part of the situation. -/
theorem situation_updateHealth
    (change : Health → Health × List Health.Notice)
    (session : Session) :
    (updateHealth change session).session.situation = session.situation ∧
      (updateHealth change session).result = .ok () := by
  simp only [updateHealth, session_bind, result_bind, current_apply,
    modify_apply, noteAll_apply, and_true]
  rfl

/--
Judging the link goes on with the same situation, or gives a synced session up.
-/
theorem judgeLink_spec (session : Session) :
    ((judgeLink session).result = .ok true ∧
        (judgeLink session).session.situation = session.situation) ∨
      ((judgeLink session).result = .ok false ∧
        session.stage = .synced ∧
        (judgeLink session).session.situation =
          { session.situation with stage := .disconnected }) := by
  by_cases synced : session.stage = .synced
  · obtain ⟨same, succeeds⟩ := situation_updateHealth Health.tick session
    simp only [judgeLink, session_bind, result_bind, current_apply, synced,
      ↓reduceIte, succeeds]
    by_cases given :
        (updateHealth Health.tick session).session.health.isGivenUp
    · right
      simp only [given, ↓reduceIte, session_bind, result_bind, note_apply,
        modify_apply, pure_apply]
      rw [← same]
      exact ⟨trivial, trivial, rfl⟩
    · left
      simp only [given, Bool.false_eq_true, ↓reduceIte, pure_apply]
      exact ⟨trivial, same⟩
  · left
    simp [judgeLink, session_bind, result_bind, synced]

/-- Waiting only counts down. -/
theorem passWaiting_spec (session : Session) :
    (passWaiting session).result = .ok (session.waitTicks - 1 == 0) ∧
      (passWaiting session).session.situation =
        { session.situation with waitTicks := session.waitTicks - 1 } :=
  ⟨rfl, rfl⟩

/-- The metrics are no part of the situation. -/
theorem situation_updateMetrics (now : Nat) (session : Session) :
    (updateMetrics now session).session.situation = session.situation ∧
      (updateMetrics now session).result = .ok () :=
  ⟨rfl, rfl⟩

/-- Once the link is judged good, what is left of a tick is waiting and sending. -/
theorem Sends.afterJudging (now : Nat) :
    Sends (do
      if ← Action.passWaiting then
        Action.updateMetrics now
        Action.compose
      else return none) := by
  refine bind (fun session => ?_) fun isOver => ?_
  · rw [(passWaiting_spec session).2]
    refine ⟨rfl, ?_⟩
    exact Nat.le_trans (Nat.sub_le _ _) (Nat.le_max_left _ _)
  · cases isOver with
    | false => exact pure _
    | true =>
        refine bind (of_same fun session => ?_) fun _ => compose
        exact (situation_updateMetrics now session).1

end Action

/-- The beginning of a tick only measures. -/
theorem situation_beginTick (now : Nat) (session : Session) :
    (Action.beginTick now session).session.situation =
      session.situation := by
  obtain ⟨_, begun⟩ := session_beginTick now session
  rw [begun]
  rfl

/-- A request does to the situation what `Situation.ask` says. -/
theorem situation_ask (session : Session) (request : Request) :
    (session.ask request).2.situation = session.situation.ask request := by
  cases request with
  | requestConnect =>
      by_cases idle : session.stage = .idle <;>
        simp [ask, answered, Action.requestConnect, Action.session_bind,
          Situation.ask, situation, idle]
  | beginJoin =>
      by_cases connected : session.stage = .connected <;>
        simp [ask, answered, Action.beginJoin, Action.session_bind,
          Situation.ask, situation, connected]
  | assignJoinRequest request => rfl
  | predict payload =>
      by_cases long : session.settings.stepOctets < payload.length
      · simp [ask, answered, Action.predict, Action.session_bind,
          Situation.ask, Situation.predict, situation, long]
      · by_cases full : session.outbound.predicted.isFull
        · simp [ask, answered, Action.predict, Action.session_bind,
            Situation.ask, Situation.predict, situation, long, canPredict,
            StepQueue.write, full]
        · simp [ask, answered, Action.predict, Action.session_bind,
            Situation.ask, Situation.predict, situation, long, canPredict,
            StepQueue.write, full]
  | readStep =>
      cases read : session.inbound.read with
      | none =>
          simp [ask, answered, Action.readStep, Action.session_bind,
            Situation.ask, Situation.readStep, situation, read]
      | some reading =>
          cases refused : reading.refused <;>
            simp [ask, answered, Action.readStep, Action.session_bind,
              Situation.ask, Situation.readStep, situation, read, refused]
  | disconnect =>
      by_cases gone : session.stage = .disconnected <;>
        simp [ask, answered, Action.disconnect, Action.session_bind,
          Situation.ask, situation, gone]
  | reset => rfl

/-- The tick of a session whose link is given up ends there. -/
theorem endTick_of_givenUp
    {session : Session}
    (givenUp : (Action.judgeLink session).result = .ok false)
    (now : Nat)
    (refusal : Option String) :
    (session.endTick now refusal).offered = none ∧
      (session.endTick now refusal).outcome.session =
        (Action.judgeLink session).session := by
  have nothing :
      (Action.prepareSending now session).result = .ok none := by
    rw [Action.prepareSending, Action.result_bind, givenUp]
    rfl
  have leaves :
      (Action.prepareSending now session).session =
        (Action.judgeLink session).session := by
    rw [Action.prepareSending, Action.session_bind, givenUp]
    rfl
  unfold endTick
  dsimp only
  rw [nothing]
  exact ⟨rfl, leaves⟩

/-- The end of a tick gives a synced session up, or does nothing but send. -/
theorem situation_endTick
    (session : Session)
    (now : Nat)
    (refusal : Option String) :
    (session.stage = .synced ∧
        (session.endTick now refusal).offered = none ∧
        (session.endTick now refusal).outcome.session.situation =
          { session.situation with stage := .disconnected }) ∨
      session.situation.Sends
        (session.endTick now refusal).outcome.session.situation := by
  rcases Action.judgeLink_spec session with
    ⟨succeeds, same⟩ | ⟨givenUp, synced, disconnected⟩
  · right
    have sends :
        session.situation.Sends
          (Action.prepareSending now session).session.situation := by
      rw [Action.prepareSending, Action.session_bind, succeeds, ← same]
      exact Action.Sends.afterJudging now _
    unfold endTick
    dsimp only
    split
    · exact sends
    · exact sends
    · exact sends.trans (Action.Sends.concludeSending _ _ _)
  · left
    obtain ⟨nothing, leaves⟩ := endTick_of_givenUp givenUp now refusal
    rw [leaves]
    exact ⟨synced, nothing, disconnected⟩

/-- Whatever happens, the settings stay as they were made. -/
theorem settings_after (session : Session) (event : Event) :
    (session.after event).settings = session.settings := by
  cases event with
  | tickBegun now =>
      exact congrArg Situation.settings (situation_beginTick now session)
  | received datagram =>
      have accepts :=
        congrArg Situation.settings (situation_receive session datagram)
      exact accepts.trans (Situation.settings_accept _ _)
  | tickEnded now refusal =>
      rcases situation_endTick session now refusal with
        ⟨_, _, disconnected⟩ | sends
      · exact congrArg Situation.settings disconnected
      · exact congrArg Situation.settings sends.frame
  | asked request =>
      have asks :=
        congrArg Situation.settings (situation_ask session request)
      exact asks.trans (Situation.settings_ask _ _)

end Session

end StepSync
