import StepSync.Conductor.Autoplay
import StepSync.Proofs.Session.Acknowledgement
import StepSync.Proofs.Session.Capacity
import StepSync.Proofs.Steps.Draining

namespace StepSync.Session

/-!
# No step is stranded

In every session that is reached the authoritative steps are `Inbound.Ordered`:
the ready ones go on into the window, and in front of the window a step waits only
for room.  So a step that came is never refused by the queue (`orderly_receive`),
and who reads until nothing is ready gets each step that is outstanding, once and
in order, and leaves none behind that could be read (`drains_outstanding`).
-/

/-- The authoritative steps of every session are in order. -/
theorem ordered_afterAll (settings : Settings) (events : List Event) :
    ((create settings).1.afterAll events).inbound.Ordered := by
  have tracks := tracks_afterAll settings events
  have capacity :
      ((create settings).1.afterAll events).inbound.ready.capacity =
        Inbound.readyCapacity :=
    congrArg Prod.snd (capacities_afterAll settings events)
  refine
    ⟨tracks.faithful.sized, tracks.faithful.goesOn, tracks.settled, ?_⟩
  rw [capacity]
  decide

/-! ## Receiving -/

/-- The ready steps of a session go on where its window stands. -/
def GoesOn (session : Session) : Prop :=
  session.inbound.ready.nextId = session.inbound.window.expected

namespace Action

variable {First Result : Type}

/-- The ready steps go on after an action as before, and the queue refuses none. -/
def Orderly (action : Action Result) : Prop :=
  ∀ session : Session, session.GoesOn →
    (action session).session.GoesOn ∧
      ∀ failure, (action session).result ≠ .error (.step failure)

namespace Orderly

theorem pure (result : Result) : Orderly (Pure.pure result : Action Result) :=
  fun _ goesOn => ⟨goesOn, nofun⟩

/-- A refusal is orderly unless a queue of steps says no. -/
theorem refuse
    {refusal : Refusal}
    (other : ∀ failure, refusal ≠ .step failure) :
    Orderly (Action.refuse refusal : Action Result) :=
  fun _ goesOn =>
    ⟨goesOn, fun failure same => other failure (Except.error.inj same)⟩

theorem note (notice : Notice) : Orderly (Action.note notice) :=
  fun _ goesOn => ⟨goesOn, nofun⟩

theorem noteAll (notices : List Notice) : Orderly (Action.noteAll notices) :=
  fun _ goesOn => ⟨goesOn, nofun⟩

/-- A change is orderly if the ready steps go on after it as before. -/
theorem modify
    {change : Session → Session}
    (keeps : ∀ session : Session, session.GoesOn → (change session).GoesOn) :
    Orderly (Action.modify change) :=
  fun session goesOn => ⟨keeps session goesOn, nofun⟩

/--
Orderly actions in a row are orderly: the second begins where steps still go on.
-/
theorem bind
    {action : Action First}
    {next : First → Action Result}
    (first : Orderly action)
    (second : ∀ found, Orderly (next found)) :
    Orderly (action >>= next) := by
  intro session goesOn
  obtain ⟨goesOnBetween, other⟩ := first session goesOn
  rw [session_bind, result_bind]
  cases ends : (action session).result with
  | ok found => exact second found _ goesOnBetween
  | error refusal =>
      rw [ends] at other
      exact ⟨goesOnBetween, fun failure same =>
        other failure (congrArg Except.error (Except.error.inj same))⟩

theorem current
    {next : Session → Action Result}
    (orderly : ∀ session, Orderly (next session)) :
    Orderly (Action.current >>= next) :=
  fun session => orderly session session

/-- What cannot be read is refused for that, not for its steps. -/
theorem decoded (decoder : Decoder Result) (reader : Reader) :
    Orderly (Action.decoded decoder reader) := by
  unfold Action.decoded
  split
  · exact pure _
  · exact refuse nofun

theorem measureLatency (bits : UInt16) :
    Orderly (Action.measureLatency bits) := by
  refine current fun session => ?_
  split
  · exact note _
  · exact modify fun _ => id

theorem acceptConnection (response : ConnectResponse) :
    Orderly (Action.acceptConnection response) := by
  refine current fun session => ?_
  dsimp only
  split
  · exact note _
  · split
    · exact refuse nofun
    · exact bind (modify fun _ => id) fun _ => note _

/-- Participants have nothing to do with steps. -/
theorem acceptMembership (response : JoinResponse) :
    Orderly (Action.acceptMembership response) := by
  refine current fun session => ?_
  dsimp only
  split
  · exact note _
  · split
    · exact note _
    · split
      · exact refuse nofun
      · refine bind (noteAll _) fun _ => ?_
        exact bind (modify fun _ => id) fun _ => note _

theorem acceptOutOfSlots (answer : OutOfSlots) :
    Orderly (Action.acceptOutOfSlots answer) :=
  bind (note _) fun _ => modify fun _ => id

/-- A session that goes on from a snapshot goes on from its step in both places. -/
theorem finishDownload : Orderly Action.finishDownload := by
  refine current fun session => ?_
  split
  · exact pure _
  · split
    · split
      · exact pure _
      · split
        · exact pure _
        · exact bind (modify fun _ _ => rfl) fun _ => note _
    · exact note _

/-- A download that begins leaves the steps, and an empty one anchors them. -/
theorem acceptDownload (response : DownloadResponse) :
    Orderly (Action.acceptDownload response) := by
  refine current fun session => ?_
  dsimp only
  split
  · exact note _
  · split
    · exact note _
    · split
      · exact refuse nofun
      · split
        · exact bind (note _) fun _ => refuse nofun
        · refine bind (note _) fun _ => ?_
          exact bind (modify fun _ => id) fun _ => finishDownload

/-- A part leaves the steps, and the last one that is missing anchors them. -/
theorem acceptPart (reader : Reader) : Orderly (Action.acceptPart reader) := by
  refine bind (decoded _ _) fun (channel, reader) => ?_
  refine current fun session => ?_
  split
  · exact refuse nofun
  · split
    · exact refuse nofun
    · split
      · exact refuse nofun
      · split
        · exact refuse nofun
        · refine bind (modify fun _ => id) fun _ => ?_
          refine bind (noteAll _) fun _ => ?_
          exact bind finishDownload fun _ => pure _

/-- A report takes predicted steps away, and leaves the authoritative ones. -/
theorem acceptReport (report : StepReport) (octets : Nat) :
    Orderly (Action.acceptReport report octets) := by
  refine bind (modify fun _ => id) fun _ => ?_
  refine bind (measureLatency _) fun _ => current fun _ => ?_
  exact bind (modify fun _ => id) fun _ => note _

/--
Steps that came are stored, and what is complete is released without a refusal.
-/
theorem acceptSteps (steps : List Step) :
    Orderly (Action.acceptSteps steps) := by
  intro session goesOn
  let stored : Inbound :=
    { session.inbound with
      window := (session.inbound.window.receiveAll steps).2 }
  have stands : stored.ready.nextId = stored.window.expected :=
    goesOn.trans (ReceiveWindow.expected_receiveAll _ _).symm
  have releases := Inbound.release_eq stands
  simp only [stored] at stands releases
  simp only [Action.acceptSteps, session_bind, result_bind, current_apply,
    modify_apply, noteAll_apply, releases, note_apply]
  refine ⟨?_, fun failure same => by cases same⟩
  simp only [GoesOn, StepQueue.extend, ReceiveWindow.shift, stands]

/-- A step response is orderly, as its steps are. -/
theorem acceptStepResponse (reader : Reader) :
    Orderly (Action.acceptStepResponse reader) := by
  refine bind (decoded _ _) fun (report, reader) => ?_
  refine bind (acceptReport _ _) fun _ => ?_
  refine bind (decoded _ _) fun (steps, reader) => ?_
  exact bind (acceptSteps _) fun _ => pure _

theorem acceptMessage
    {Message : Type}
    (decoder : Decoder Message)
    {accept : Message → Action Unit}
    (accepts : ∀ message, Orderly (accept message))
    (reader : Reader) :
    Orderly (Action.acceptMessage decoder accept reader) := by
  refine bind (decoded _ _) fun (message, reader) => ?_
  exact bind (accepts _) fun _ => pure _

/-- No command of the server leads to a refusal by a queue. -/
theorem acceptCommand (command : Command) (reader : Reader) :
    Orderly (Action.acceptCommand command reader) := by
  cases command with
  | connectResponse => exact acceptMessage _ acceptConnection reader
  | joinGameResponse => exact acceptMessage _ acceptMembership reader
  | joinGameOutOfParticipantSlots =>
      exact acceptMessage _ acceptOutOfSlots reader
  | downloadGameStateResponse => exact acceptMessage _ acceptDownload reader
  | gameStatePart => exact acceptPart reader
  | gameStepResponse => exact acceptStepResponse reader
  | joinGameRequest => exact refuse nofun
  | gameStep => exact refuse nofun
  | downloadGameStateRequest => exact refuse nofun
  | downloadGameStateStatus => exact refuse nofun
  | connectRequest => exact refuse nofun

theorem takeCommand (reader : Reader) :
    Orderly (Action.takeCommand reader) := by
  refine bind (decoded _ _) fun (code, reader) => ?_
  dsimp only
  split
  · exact refuse nofun
  · refine bind (note _) fun _ => ?_
    exact bind (acceptCommand _ _) fun _ => noteAll _

theorem acceptOutOfBand (reader : Reader) :
    Orderly (Action.acceptOutOfBand reader) := by
  refine bind (decoded _ _) fun (number, reader) => ?_
  refine bind (decoded _ _) fun (code, reader) => ?_
  dsimp only
  split
  · exact bind (acceptCommand _ _) fun _ => noteAll _
  · exact refuse nofun

theorem checkSeal (secret : UInt64) (reader : Reader) :
    Orderly (Action.checkSeal secret reader) := by
  refine bind (decoded _ _) fun (claimed, reader) => ?_
  dsimp only
  split
  · exact pure _
  · exact refuse nofun

/-- A number that is too old is refused as such. -/
theorem checkSequence (reader : Reader) :
    Orderly (Action.checkSequence reader) := by
  have countLost (lost : Nat) : Orderly (Action.countLost lost) := by
    refine bind (current fun session => ?_) fun _ => modify fun _ => id
    exact bind (modify fun _ => id) fun _ => noteAll _
  refine bind (decoded _ _) fun (number, reader) => ?_
  refine current fun session => bind (modify fun _ => id) fun _ => ?_
  split
  · exact refuse nofun
  · refine bind (countLost _) fun _ => ?_
    exact bind (modify fun _ => id) fun _ => pure _

theorem takeEcho (reader : Reader) : Orderly (Action.takeEcho reader) := by
  unfold Action.takeEcho
  split
  · exact refuse nofun
  · split
    · refine bind (decoded _ _) fun (marked, reader) => ?_
      refine bind (decoded _ _) fun (bits, reader) => ?_
      exact bind (measureLatency _) fun _ => pure _
    · exact pure _

/-- A datagram within the connection is orderly from the seal to the command. -/
theorem acceptConnected (id : UInt8) (reader : Reader) :
    Orderly (Action.acceptConnected id reader) := by
  refine current fun session => ?_
  split
  · exact refuse nofun
  · split
    · exact refuse nofun
    · split
      · exact refuse nofun
      · refine bind (checkSeal _ _) fun _ => ?_
        refine bind (checkSequence _) fun _ => ?_
        exact bind (takeEcho _) fun _ => takeCommand _

/-- Whatever a datagram says, no queue refuses its steps. -/
theorem acceptDatagram (datagram : Octets) :
    Orderly (Action.acceptDatagram datagram) := by
  unfold Action.acceptDatagram
  split
  · exact refuse nofun
  · refine bind (decoded _ _) fun (id, reader) => ?_
    dsimp only
    split
    · exact acceptOutOfBand _
    · exact acceptConnected _ _

end Orderly

end Action

/-- A datagram is not refused for the steps in it. -/
theorem orderly_receive
    {session : Session}
    (goesOn : session.GoesOn)
    (datagram : Octets)
    (failure : StepError) :
    (session.receive datagram).result ≠ .error (.step failure) := by
  obtain ⟨_, other⟩ :=
    Action.Orderly.acceptDatagram datagram (session.countArrival datagram)
      goesOn
  unfold receive
  cases accepted :
      (Action.acceptDatagram datagram (session.countArrival datagram)).result with
  | ok _ =>
      simp only [accepted]
      nofun
  | error refusal =>
      rw [accepted] at other
      simp only [accepted]
      exact other failure

/-! ## Reading -/

/--
Reading until no step is ready gives these steps, leaves this session, and tells the
journal nothing.
-/
inductive Drains : Session → List Step → Session → Prop where
  | finished {session final : Session} :
      Action.readStep session = ⟨final, [], .ok none⟩ →
        Drains session [] final
  | further
      {session left final : Session}
      {step : Step}
      {steps : List Step} :
      Action.readStep session = ⟨left, [], .ok (some step)⟩ →
        Drains left steps final → Drains session (step :: steps) final

/-- What reading does when nothing is ready. -/
theorem readStep_of_none
    {session : Session}
    (nothing : session.inbound.read = none) :
    Action.readStep session = ⟨session, [], .ok none⟩ := by
  rw [Action.readStep, Action.current_bind, nothing]
  rfl

/-- What reading does when a step is ready and no refill is refused. -/
theorem readStep_of_some
    {session : Session}
    {reading : Inbound.Reading}
    (found : session.inbound.read = some reading)
    (refilled : reading.refused = none) :
    Action.readStep session =
      ⟨{ session with inbound := reading.inbound }, [],
        .ok (some reading.step)⟩ := by
  rw [Action.readStep, Action.current_bind, found]
  simp only [refilled]
  rfl

/-- An automatic game reads until nothing is ready, if it may read often enough. -/
theorem Drains.drainAtMost
    {session final : Session}
    {steps : List Step}
    (drains : Drains session steps final)
    {count : Nat}
    (enough : steps.length < count) :
    Autoplay.drainAtMost count session =
      (final, steps.map Autoplay.Notice.stepRead) := by
  induction drains generalizing count with
  | finished reads =>
      obtain ⟨count, rfl⟩ := Nat.exists_eq_add_of_lt enough
      simp [Autoplay.drainAtMost, reads]
  | further reads _ inductionHypothesis =>
      cases count with
      | zero => cases enough
      | succ count =>
          have others :=
            inductionHypothesis (Nat.lt_of_succ_lt_succ enough)
          simp [Autoplay.drainAtMost, reads, others]

/--
Who reads until nothing is ready gets what was outstanding, and leaves nothing.
-/
theorem exists_drains (settings : Settings) (events : List Event) :
    ∃ drained,
      Drains ((create settings).1.afterAll events)
          ((create settings).1.afterAll events).inbound.outstanding drained ∧
        drained.inbound.ready.steps = [] ∧
        drained.inbound.window.slots[0]? = some none := by
  generalize left :
    ((create settings).1.afterAll events).inbound.outstanding = steps
  induction steps generalizing events with
  | nil =>
      have ordered := ordered_afterAll settings events
      rcases ordered.read with ⟨nothing, empty⟩ | ⟨reading, _, _, first⟩
      · exact ⟨_, .finished (readStep_of_none nothing), empty,
          (ordered.outstanding_of_empty empty).2⟩
      · rw [left] at first
        cases first
  | cons step steps inductionHypothesis =>
      have ordered := ordered_afterAll settings events
      rcases ordered.read with
        ⟨_, empty⟩ | ⟨reading, found, refilled, first⟩
      · rw [(ordered.outstanding_of_empty empty).1] at left
        cases left
      · obtain ⟨rfl, rfl⟩ := List.cons.inj (left.symm.trans first)
        have reads := readStep_of_some found refilled
        have read :
            (create settings).1.afterAll (events ++ [.asked .readStep]) =
              { (create settings).1.afterAll events with
                inbound := reading.inbound } := by
          rw [afterAll_append]
          exact congrArg Outcome.session reads
        obtain ⟨drained, drains, empty⟩ :=
          inductionHypothesis (events ++ [.asked .readStep]) (by rw [read])
        rw [read] at drains
        exact ⟨drained, .further reads drains, empty⟩

/--
No step is stranded.  In every session the ready steps go on into the window,
where a step in front waits only for room; no datagram is refused for its steps
and no refill is.  Reading until nothing is ready ends after as many steps as are
ready and wait without a gap, and then nothing is ready and nothing waits in
front.
-/
theorem drains_outstanding (settings : Settings) (events : List Event) :
    let session := (create settings).1.afterAll events
    let inbound := session.inbound
    inbound.ready.nextId = inbound.window.expected ∧
      (inbound.window.slots[0]? = some none ∨
        inbound.ready.isFull = true) ∧
      (∀ datagram failure,
        (session.receive datagram).result ≠ .error (.step failure)) ∧
      (∀ reading, inbound.read = some reading → reading.refused = none) ∧
      inbound.outstanding.length =
        inbound.ready.length +
          (inbound.window.slots.takeWhile Option.isSome).length ∧
      ∃ drained,
        Drains session inbound.outstanding drained ∧
          Autoplay.drain session =
            (drained, inbound.outstanding.map Autoplay.Notice.stepRead) ∧
          drained.inbound.ready.steps = [] ∧
          drained.inbound.window.slots[0]? = some none := by
  intro session inbound
  have ordered : inbound.Ordered := ordered_afterAll settings events
  obtain ⟨drained, drains, empty, front⟩ := exists_drains settings events
  refine ⟨ordered.goesOn, ordered.front, orderly_receive ordered.goesOn,
    fun reading found => Inbound.refused_read ordered.goesOn found,
    inbound.length_outstanding, drained, drains, ?_, empty, front⟩
  exact drains.drainAtMost
    (Nat.lt_succ_of_le inbound.length_outstanding_le_held)

end StepSync.Session
