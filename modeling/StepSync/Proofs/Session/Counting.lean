import StepSync.Proofs.Session.Run

namespace StepSync.Session

/-!
# Counts of arrivals

A session counts what arrives and what of it is refused.  Nothing that it answers,
sends or reads depends on these counts: two sessions that are `Alike` but for them
give the same results, and stay alike.

`Blind` says so of an action.  It goes through `bind`, and through looking at the
session as long as what follows looks only at other fields; so each action is
blind because its parts are.
-/

/-- The counts that every arriving datagram changes. -/
structure Counts where
  datagramsReceived : Nat
  octetsReceived : Nat
  datagramsRejected : Nat
  datagramsIn : Rate
  deriving Repr, DecidableEq

/-- The session with other counts of arrivals. -/
def recount (session : Session) (counts : Counts) : Session :=
  { session with
    traffic := { session.traffic with
      datagramsReceived := counts.datagramsReceived
      octetsReceived := counts.octetsReceived
      datagramsRejected := counts.datagramsRejected }
    metrics := { session.metrics with datagramsIn := counts.datagramsIn } }

theorem now_recount (session : Session) (counts : Counts) :
    (session.recount counts).now = session.now :=
  rfl

/-- The counts of arrivals as they are. -/
def counts (session : Session) : Counts where
  datagramsReceived := session.traffic.datagramsReceived
  octetsReceived := session.traffic.octetsReceived
  datagramsRejected := session.traffic.datagramsRejected
  datagramsIn := session.metrics.datagramsIn

/-- One session is the other one with other counts of arrivals. -/
def Alike (first second : Session) : Prop :=
  ∃ counts, first = second.recount counts

namespace Alike

variable {first second third : Session}

theorem refl (session : Session) : Alike session session :=
  ⟨session.counts, rfl⟩

/-- Counts that were changed twice were changed. -/
theorem trans
    (firstAlike : Alike first second)
    (secondAlike : Alike second third) :
    Alike first third := by
  obtain ⟨counts, rfl⟩ := firstAlike
  obtain ⟨others, rfl⟩ := secondAlike
  exact ⟨counts, rfl⟩

/-- A change of other fields goes with any counts. -/
theorem apply
    (alike : Alike first second)
    {change : Session → Session}
    (keeps : ∀ session counts,
      change (recount session counts) = (change session).recount counts) :
    Alike (change first) (change second) := by
  obtain ⟨counts, rfl⟩ := alike
  exact ⟨counts, keeps second counts⟩

/-- Alike sessions are alike after the same arrival. -/
theorem countArrival (alike : Alike first second) (datagram : Octets) :
    Alike (first.countArrival datagram) (second.countArrival datagram) := by
  obtain ⟨counts, rfl⟩ := alike
  exact ⟨((second.recount counts).countArrival datagram).counts, rfl⟩

/-- Alike sessions are alike after a refusal. -/
theorem countRefused (alike : Alike first second) :
    Alike first.countRefused second.countRefused := by
  obtain ⟨counts, rfl⟩ := alike
  exact ⟨(second.recount counts).countRefused.counts, rfl⟩

/-- An arrival changes nothing but the counts. -/
theorem of_countArrival (session : Session) (datagram : Octets) :
    Alike (session.countArrival datagram) session :=
  ⟨(session.countArrival datagram).counts, rfl⟩

/-- A refusal changes nothing but the counts. -/
theorem of_countRefused (session : Session) :
    Alike session.countRefused session :=
  ⟨session.countRefused.counts, rfl⟩

end Alike

/-- Two outcomes differ in nothing but counts and notices. -/
structure Outcome.Alike
    {Result : Type}
    (first second : Outcome Result) :
    Prop where
  session : first.session.Alike second.session
  result : first.result = second.result

namespace Action

variable {First Result : Type}

/-- The counts of arrivals do not show in what the action does. -/
def Blind (action : Action Result) : Prop :=
  ∀ first second : Session, first.Alike second →
    (action first).Alike (action second)

namespace Blind

theorem pure (result : Result) : Blind (Pure.pure result) :=
  fun _ _ alike => ⟨alike, rfl⟩

theorem refuse (refusal : Refusal) :
    Blind (Action.refuse refusal : Action Result) :=
  fun _ _ alike => ⟨alike, rfl⟩

theorem note (notice : Notice) : Blind (Action.note notice) :=
  fun _ _ alike => ⟨alike, rfl⟩

theorem noteAll (notices : List Notice) : Blind (Action.noteAll notices) :=
  fun _ _ alike => ⟨alike, rfl⟩

/-- A change of other fields is blind. -/
theorem modify
    {change : Session → Session}
    (keeps : ∀ session counts,
      change (recount session counts) = (change session).recount counts) :
    Blind (Action.modify change) :=
  fun _ _ alike => ⟨alike.apply keeps, rfl⟩

/--
What is blind to begin with, and goes on blindly whatever was found, is blind.
-/
theorem bind
    {action : Action First}
    {next : First → Action Result}
    (first : Blind action)
    (second : ∀ found, Blind (next found)) :
    Blind (action >>= next) := by
  intro here there alike
  obtain ⟨stillAlike, same⟩ := first here there alike
  constructor
  · rw [session_bind, session_bind, same]
    cases (action there).result with
    | ok found => exact (second found _ _ stillAlike).session
    | error refusal => exact stillAlike
  · rw [result_bind, result_bind, same]
    cases (action there).result with
    | ok found => exact (second found _ _ stillAlike).result
    | error refusal => rfl

/-- The session may be looked at, as long as the counts are left out of account. -/
theorem current
    {next : Session → Action Result}
    (overlooks : ∀ session counts,
      next (recount session counts) = next session)
    (blind : ∀ session, Blind (next session)) :
    Blind (Action.current >>= next) := by
  intro first second alike
  obtain ⟨counts, rfl⟩ := alike
  rw [current_bind, current_bind, overlooks]
  exact blind second _ _ ⟨counts, rfl⟩

/-- Reading does not look at the session at all. -/
theorem decoded (decoder : Decoder Result) (reader : Reader) :
    Blind (Action.decoded decoder reader) := by
  unfold Action.decoded
  split
  · exact pure _
  · exact refuse _

theorem updateHealth (change : Health → Health × List Health.Notice) :
    Blind (Action.updateHealth change) := by
  refine current (fun _ _ => rfl) fun session => ?_
  exact bind (modify fun _ _ => rfl) fun _ => noteAll _

/-- A latency is measured against the clock, not against counts. -/
theorem measureLatency (bits : UInt16) :
    Blind (Action.measureLatency bits) := by
  unfold Action.measureLatency
  refine current (fun session counts => ?_) fun session => ?_
  -- Left to itself the kernel would work out the time on the circle.
  · rw [now_recount]
  · cases elapsedSince? session.now bits with
    | none => exact note _
    | some latency => exact modify fun _ _ => rfl

/-! ## Messages -/

/-- Counts have no say in whether a connection is taken. -/
theorem acceptConnection (response : ConnectResponse) :
    Blind (Action.acceptConnection response) := by
  refine current (fun _ _ => rfl) fun session => ?_
  split
  · exact note _
  · split
    · exact refuse _
    · exact bind (modify fun _ _ => rfl) fun _ => note _

/-- Counts have no say in which participants are taken. -/
theorem acceptMembership (response : JoinResponse) :
    Blind (Action.acceptMembership response) := by
  refine current (fun _ _ => rfl) fun session => ?_
  dsimp only
  split
  · exact note _
  · split
    · exact note _
    · split
      · exact refuse _
      · refine bind (noteAll _) fun _ => ?_
        exact bind (modify fun _ _ => rfl) fun _ => note _

theorem acceptOutOfSlots (answer : OutOfSlots) :
    Blind (Action.acceptOutOfSlots answer) :=
  bind (note _) fun _ => modify fun _ _ => rfl

/--
A download is complete when its chunks are there, whatever has arrived besides.
-/
theorem finishDownload : Blind Action.finishDownload := by
  refine current (fun _ _ => rfl) fun session => ?_
  split
  · exact pure _
  · split
    · split
      · exact pure _
      · split
        · exact pure _
        · exact bind (modify fun _ _ => rfl) fun _ => note _
    · exact note _

/-- Counts have no say in whether a download begins. -/
theorem acceptDownload (response : DownloadResponse) :
    Blind (Action.acceptDownload response) := by
  refine current (fun _ _ => rfl) fun session => ?_
  dsimp only
  split
  · exact note _
  · split
    · exact note _
    · split
      · exact refuse _
      · split
        · exact bind (note _) fun _ => refuse _
        · refine bind (note _) fun _ => ?_
          exact bind (modify fun _ _ => rfl) fun _ => finishDownload

/-- A part finds its place in the snapshot without the counts. -/
theorem acceptPart (reader : Reader) : Blind (Action.acceptPart reader) := by
  refine bind (decoded _ _) fun (channel, reader) => ?_
  refine current (fun _ _ => rfl) fun session => ?_
  split
  · exact refuse _
  · split
    · exact refuse _
    · split
      · exact refuse _
      · split
        · exact refuse _
        · refine bind (modify fun _ _ => rfl) fun _ => ?_
          refine bind (noteAll _) fun _ => ?_
          exact bind finishDownload fun _ => pure _

/-- What a report measures and acknowledges does not hang on the counts. -/
theorem acceptReport (report : StepReport) (octets : Nat) :
    Blind (Action.acceptReport report octets) := by
  refine bind (modify fun _ _ => rfl) fun _ => ?_
  refine bind (measureLatency _) fun _ => ?_
  refine current (fun _ _ => rfl) fun session => ?_
  exact bind (modify fun _ _ => rfl) fun _ => note _

/-- Steps are stored and released by their ids alone. -/
theorem acceptSteps (steps : List Step) :
    Blind (Action.acceptSteps steps) := by
  refine current (fun _ _ => rfl) fun session => ?_
  refine bind (modify fun _ _ => rfl) fun _ => ?_
  refine bind (noteAll _) fun _ => ?_
  split
  · exact refuse _
  · exact bind (modify fun _ _ => rfl) fun _ => note _

theorem acceptStepResponse (reader : Reader) :
    Blind (Action.acceptStepResponse reader) := by
  refine bind (decoded _ _) fun (report, reader) => ?_
  refine bind (acceptReport _ _) fun _ => ?_
  refine bind (decoded _ _) fun (steps, reader) => ?_
  exact bind (acceptSteps _) fun _ => pure _

/-- Accepting a message is blind if it is for every message that can be read. -/
theorem acceptMessage
    {Message : Type}
    (decoder : Decoder Message)
    {accept : Message → Action Unit}
    (accepts : ∀ message, Blind (accept message))
    (reader : Reader) :
    Blind (Action.acceptMessage decoder accept reader) := by
  refine bind (decoded _ _) fun (message, reader) => ?_
  exact bind (accepts _) fun _ => pure _

/-- Whatever the command of a message, accepting it is blind. -/
theorem acceptCommand (command : Command) (reader : Reader) :
    Blind (Action.acceptCommand command reader) := by
  cases command with
  | connectResponse => exact acceptMessage _ acceptConnection reader
  | joinGameResponse => exact acceptMessage _ acceptMembership reader
  | joinGameOutOfParticipantSlots =>
      exact acceptMessage _ acceptOutOfSlots reader
  | downloadGameStateResponse => exact acceptMessage _ acceptDownload reader
  | gameStatePart => exact acceptPart reader
  | gameStepResponse => exact acceptStepResponse reader
  | joinGameRequest => exact refuse _
  | gameStep => exact refuse _
  | downloadGameStateRequest => exact refuse _
  | downloadGameStateStatus => exact refuse _
  | connectRequest => exact refuse _

/-! ## Datagrams -/

theorem acceptOutOfBand (reader : Reader) :
    Blind (Action.acceptOutOfBand reader) := by
  refine bind (decoded _ _) fun (number, reader) => ?_
  refine bind (decoded _ _) fun (code, reader) => ?_
  dsimp only
  split
  · exact bind (acceptCommand _ _) fun _ => noteAll _
  · exact refuse _

/-- A seal is checked against the secret and the octets behind it. -/
theorem checkSeal (secret : UInt64) (reader : Reader) :
    Blind (Action.checkSeal secret reader) := by
  refine bind (decoded _ _) fun (claimed, reader) => ?_
  dsimp only
  split
  · exact pure _
  · exact refuse _

/-- Losses are counted apart from arrivals. -/
theorem countLost (lost : Nat) : Blind (Action.countLost lost) :=
  bind (updateHealth _) fun _ => modify fun _ _ => rfl

/-- Whether a number lies ahead is a matter of the last number that was taken. -/
theorem checkSequence (reader : Reader) :
    Blind (Action.checkSequence reader) := by
  refine bind (decoded _ _) fun (number, reader) => ?_
  refine current (fun _ _ => rfl) fun session => ?_
  refine bind (modify fun _ _ => rfl) fun _ => ?_
  split
  · exact refuse _
  · refine bind (countLost _) fun _ => ?_
    exact bind (modify fun _ _ => rfl) fun _ => pure _

theorem takeEcho (reader : Reader) : Blind (Action.takeEcho reader) := by
  unfold Action.takeEcho
  split
  · exact refuse _
  · split
    · refine bind (decoded _ _) fun (marked, reader) => ?_
      refine bind (decoded _ _) fun (bits, reader) => ?_
      exact bind (measureLatency _) fun _ => pure _
    · exact pure _

theorem takeCommand (reader : Reader) :
    Blind (Action.takeCommand reader) := by
  refine bind (decoded _ _) fun (code, reader) => ?_
  dsimp only
  split
  · exact refuse _
  · refine bind (note _) fun _ => ?_
    exact bind (acceptCommand _ _) fun _ => noteAll _

/-- A datagram within the connection is checked and accepted blindly. -/
theorem acceptConnected (id : UInt8) (reader : Reader) :
    Blind (Action.acceptConnected id reader) := by
  refine current (fun _ _ => rfl) fun session => ?_
  split
  · exact refuse _
  · split
    · exact refuse _
    · split
      · exact refuse _
      · refine bind (checkSeal _ _) fun reader => ?_
        refine bind (checkSequence _) fun reader => ?_
        exact bind (takeEcho _) fun reader => takeCommand reader

/-- However a datagram is accepted or refused, the counts do not matter. -/
theorem acceptDatagram (datagram : Octets) :
    Blind (Action.acceptDatagram datagram) := by
  unfold Action.acceptDatagram
  split
  · exact refuse _
  · refine bind (decoded _ _) fun (id, reader) => ?_
    dsimp only
    split
    · exact acceptOutOfBand _
    · exact acceptConnected _ _

/-! ## Ticks -/

/-- The clock moves on without the counts. -/
theorem beginTick (now : Nat) : Blind (Action.beginTick now) := by
  have measured : Blind (Action.measureTick now) := by
    refine current (fun _ _ => rfl) fun session => ?_
    split
    · exact pure _
    · exact bind (modify fun _ _ => rfl) fun _ => noteAll _
  exact bind measured fun _ => modify fun _ _ => rfl

/-- The link is judged by ticks, steps and losses, not by the counts of arrivals. -/
theorem judgeLink : Blind Action.judgeLink := by
  refine current (fun _ _ => rfl) fun session => ?_
  split
  · refine bind (updateHealth _) fun _ => ?_
    refine current (fun _ _ => rfl) fun judged => ?_
    split
    · refine bind (note _) fun _ => ?_
      exact bind (modify fun _ _ => rfl) fun _ => pure _
    · exact pure _
  · exact pure _

/-- A countdown runs whatever arrives. -/
theorem passWaiting : Blind Action.passWaiting := by
  refine bind (modify fun _ _ => rfl) fun _ => ?_
  exact current (fun _ _ => rfl) fun session => pure _

/-- The statistics show the counts, but only to the journal. -/
theorem updateMetrics (now : Nat) : Blind (Action.updateMetrics now) := by
  intro first second alike
  obtain ⟨counts, rfl⟩ := alike
  exact
    ⟨⟨{ counts with datagramsIn := counts.datagramsIn.update now }, rfl⟩, rfl⟩

theorem written
    (writing : Except CursorError Result × Writer) :
    Blind (Action.written writing) := by
  unfold Action.written
  split
  · exact pure _
  · exact refuse _

theorem beginDatagram : Blind Action.beginDatagram := by
  refine current (fun _ _ => rfl) fun session => ?_
  exact bind (written _) fun _ => pure _

theorem addFields (draft : Draft) (fields : List Octets) :
    Blind (Action.addFields draft fields) :=
  bind (written _) fun _ => pure _

/-- A request that is added to a draft starts the same countdown. -/
theorem addRequest (draft : Draft) (fields : List Octets) :
    Blind (Action.addRequest draft fields) := by
  refine bind (addFields _ _) fun draft => ?_
  exact bind (modify fun _ _ => rfl) fun _ => pure _

theorem addJoiningMessage (draft : Draft) :
    Blind (Action.addJoiningMessage draft) := by
  refine current (fun _ _ => rfl) fun session => ?_
  split
  · exact pure _
  · exact bind (note _) fun _ => addRequest _ _
  · split
    · exact bind (note _) fun _ => pure _
    · exact addRequest _ _

/-- Which message is due depends on the stage, not on the counts. -/
theorem addControlMessage (draft : Draft) :
    Blind (Action.addControlMessage draft) := by
  refine current (fun _ _ => rfl) fun session => ?_
  split
  · exact bind (note _) fun _ => addRequest _ _
  · exact addJoiningMessage _
  · have waits (draft : Draft) :
        Blind (do Action.waitFor 0; return draft) :=
      bind (modify fun _ _ => rfl) fun _ => pure _
    dsimp only
    split
    · exact bind (pure _) fun draft => waits draft
    · exact bind (addFields _ _) fun draft => waits draft
  all_goals exact pure _

/-- The same predicted steps are put into a draft. -/
theorem addSteps (draft : Draft) : Blind (Action.addSteps draft) := by
  refine current (fun _ _ => rfl) fun session => ?_
  refine bind (addFields _ _) fun draft => ?_
  refine bind (modify fun _ _ => rfl) fun _ => ?_
  refine bind (written _) fun (count, writer) => ?_
  exact bind (note _) fun _ => pure _

/-- A draft is sealed and numbered without the counts. -/
theorem finishDatagram (draft : Draft) :
    Blind (Action.finishDatagram draft) := by
  refine current (fun _ _ => rfl) fun session => ?_
  split
  · exact pure _
  · split
    · exact pure _
    · split
      · dsimp only
        split
        · exact pure _
        · exact refuse _
      · exact pure _

/-- The datagram that is composed is the same whatever the counts are. -/
theorem compose : Blind Action.compose := by
  refine current (fun _ _ => rfl) fun session => ?_
  have control :
      Blind
        (do
          let draft ← Action.beginDatagram
          let draft ← Action.addControlMessage draft
          Action.finishDatagram draft) :=
    bind beginDatagram fun _ =>
      bind (addControlMessage _) fun _ => finishDatagram _
  split
  · exact pure _
  · exact pure _
  · exact pure _
  · refine bind beginDatagram fun draft => ?_
    exact bind (addSteps _) fun draft => finishDatagram draft
  · exact control
  · exact control
  · exact control

/-- Judging, waiting and composing together are blind. -/
theorem prepareSending (now : Nat) : Blind (Action.prepareSending now) := by
  refine bind judgeLink fun goesOn => ?_
  split
  · refine bind passWaiting fun isOver => ?_
    split
    · exact bind (updateMetrics now) fun _ => compose
    · exact pure _
  · exact pure _

/-- Whether a datagram could be sent is noted without the counts of arrivals. -/
theorem concludeSending (datagram : Octets) (refusal : Option String) :
    Blind (Action.concludeSending datagram refusal) := by
  unfold Action.concludeSending
  split
  · exact bind (note _) fun _ => refuse _
  · refine bind (modify fun _ _ => rfl) fun _ => ?_
    refine current (fun _ _ => rfl) fun session => ?_
    split
    · exact modify fun _ _ => rfl
    · exact pure _

/-! ## Requests -/

/-- Starting over makes the counts anew. -/
theorem reset : Blind Action.reset := by
  refine current (fun _ _ => rfl) fun session => ?_
  refine bind (note _) fun _ => ?_
  intro first second alike
  obtain ⟨counts, rfl⟩ := alike
  exact ⟨.refl second.forget, rfl⟩

/-- Leaving a server is blind. -/
theorem disconnect : Blind Action.disconnect := by
  refine current (fun _ _ => rfl) fun session => ?_
  split
  · exact pure _
  · exact bind (note _) fun _ => modify fun _ _ => rfl

theorem requestConnect : Blind Action.requestConnect := by
  refine current (fun _ _ => rfl) fun session => ?_
  split
  · exact bind (note _) fun _ => modify fun _ _ => rfl
  · exact pure _

theorem beginJoin : Blind Action.beginJoin := by
  refine current (fun _ _ => rfl) fun session => ?_
  split
  · exact bind (note _) fun _ => modify fun _ _ => rfl
  · exact pure _

/-- A join request is remembered without a look at the counts. -/
theorem assignJoinRequest (request : JoinRequest) :
    Blind (Action.assignJoinRequest request) := by
  refine bind (noteAll _) fun _ => ?_
  exact bind (note _) fun _ => modify fun _ _ => rfl

/--
A step is predicted if it is short and there is room; counts do
not come into it.
-/
theorem predict (payload : Octets) : Blind (Action.predict payload) := by
  refine current (fun _ _ => rfl) fun session => ?_
  dsimp only
  split
  · exact refuse _
  · split
    · split
      · exact refuse _
      · refine bind (modify fun _ _ => rfl) fun _ => ?_
        exact bind (note _) fun _ => pure _
    · exact refuse _

/-- Reading takes the first step that is ready, whatever has arrived. -/
theorem readStep : Blind Action.readStep := by
  refine current (fun _ _ => rfl) fun session => ?_
  split
  · exact pure _
  · refine bind (modify fun _ _ => rfl) fun _ => ?_
    split
    · exact pure _
    · exact bind (note _) fun _ => pure _

end Blind

end Action

namespace Alike

variable {first second : Session}

/-- Alike sessions answer a datagram alike. -/
theorem receive (alike : Alike first second) (datagram : Octets) :
    (first.receive datagram).Alike (second.receive datagram) := by
  obtain ⟨stillAlike, same⟩ :=
    Action.Blind.acceptDatagram datagram _ _ (alike.countArrival datagram)
  unfold Session.receive
  dsimp only
  rw [same]
  split
  · exact ⟨stillAlike, same⟩
  · exact ⟨stillAlike.countRefused, rfl⟩

/-- Alike sessions answer a request alike. -/
theorem ask (alike : Alike first second) (request : Request) :
    (first.ask request).1 = (second.ask request).1 ∧
      Alike (first.ask request).2 (second.ask request).2 := by
  have answers
      {Result : Type}
      {action : Action Result}
      (blind : Action.Blind action)
      (answer : Except Refusal Result → Answer) :
      (answered answer (action first)).1 =
          (answered answer (action second)).1 ∧
        Alike (answered answer (action first)).2
          (answered answer (action second)).2 := by
    obtain ⟨stillAlike, same⟩ := blind first second alike
    exact ⟨congrArg answer same, stillAlike⟩
  cases request with
  | requestConnect => exact answers .requestConnect .done
  | beginJoin => exact answers .beginJoin .done
  | assignJoinRequest request => exact answers (.assignJoinRequest _) .done
  | predict payload => exact answers (.predict _) .predicted
  | readStep => exact answers .readStep .stepRead
  | disconnect => exact answers .disconnect .done
  | reset => exact answers .reset .done

/-- Alike sessions end a tick alike, and offer the same datagram. -/
theorem endTick
    (alike : Alike first second)
    (now : Nat)
    (refusal : Option String) :
    (first.endTick now refusal).outcome.Alike
        (second.endTick now refusal).outcome ∧
      (first.endTick now refusal).offered =
        (second.endTick now refusal).offered := by
  obtain ⟨prepared, same⟩ :=
    Action.Blind.prepareSending now first second alike
  unfold Session.endTick
  dsimp only
  rw [same]
  split
  · exact ⟨⟨prepared, rfl⟩, rfl⟩
  · exact ⟨⟨prepared, rfl⟩, rfl⟩
  · obtain ⟨concluded, sameAgain⟩ :=
      Action.Blind.concludeSending _ refusal _ _ prepared
    exact ⟨⟨concluded, sameAgain⟩, rfl⟩

end Alike

end StepSync.Session
