import StepSync.Proofs.Octets.Codec
import StepSync.Proofs.Session.Run

namespace StepSync

/-!
# What receiving, asking and sending leave alone

An action `Keeps` a field of the session if it leaves it as it is.  That goes
through `bind`, so an action keeps what its parts keep.  Which parts do is a
matter of what the field reads: sending changes only what counts it and waits for
it (`IgnoresSending`), what the application asks for is not measured
(`IgnoresRequests`), and what a server's message changes is neither the clock, nor
the counts of refused and of lost datagrams, nor the length of the lag trace, nor
the numbering of datagrams (`IgnoresContents`).  Unless it measures something, it
does not change the gauge of the way to the server either (`IgnoresNews`).
Counting losses keeps what does not read the counts of them (`IgnoresMessages`).
-/

namespace LagTrace

/-- A sample more leaves room for as many as before. -/
theorem capacity_push (trace : LagTrace) (sample : LagSample) :
    (trace.push sample).capacity = trace.capacity :=
  rfl

/-- However many datagrams are lost, the trace keeps no more samples. -/
theorem capacity_dropped (trace : LagTrace) (count : Nat) :
    (trace.dropped count).capacity = trace.capacity := by
  unfold dropped
  generalize List.replicate _ LagSample.dropped = samples
  induction samples generalizing trace with
  | nil => rfl
  | cons sample samples inductionHypothesis =>
      exact (inductionHypothesis (trace.push sample)).trans
        (trace.capacity_push sample)

end LagTrace

/--
What datagrams measure of the way to the server and back: the last latency, and the
averages of the latency and of the server's reserve.
-/
structure Gauge where
  latency : Option Nat
  latencies : WindowAverage
  reserves : WindowAverage
  deriving Repr, DecidableEq

namespace Session

/-- The gauge of a session. -/
def gauge (session : Session) : Gauge :=
  ⟨session.latency, session.metrics.latency, session.metrics.bufferDelta⟩

/-- A field that does not read what sending changes. -/
class IgnoresSending {Value : Type} (field : Session → Value) : Prop where
  same : ∀ {session : Session} {outbound : Outbound} {sendSequence : SendSequence}
    {waitTicks : Nat} {traffic : Traffic} {metrics : Metrics},
    traffic.datagramsRejected = session.traffic.datagramsRejected →
      traffic.datagramsLost = session.traffic.datagramsLost →
        metrics.latency = session.metrics.latency →
          metrics.bufferDelta = session.metrics.bufferDelta →
            field
                { session with
                  outbound := outbound
                  sendSequence := sendSequence
                  waitTicks := waitTicks
                  traffic := traffic
                  metrics := metrics } =
              field session

/--
A field that reads only the clock, the counts of refused and of lost datagrams, the
capacity of the lag trace, the numbering of the datagrams that come, and the gauge.
-/
class IgnoresNews {Value : Type} (field : Session → Value) : Prop where
  same : ∀ {first second : Session}, first.now = second.now →
    first.traffic.datagramsRejected = second.traffic.datagramsRejected →
      first.traffic.datagramsLost = second.traffic.datagramsLost →
        first.lagTrace.capacity = second.lagTrace.capacity →
          first.receiveSequence = second.receiveSequence →
            first.gauge = second.gauge → field first = field second

/--
A field that reads only the clock, the counts of refused and of lost datagrams, the
capacity of the lag trace and the numbering of the datagrams that come.
-/
class IgnoresContents {Value : Type} (field : Session → Value) : Prop where
  same : ∀ {first second : Session}, first.now = second.now →
    first.traffic.datagramsRejected = second.traffic.datagramsRejected →
      first.traffic.datagramsLost = second.traffic.datagramsLost →
        first.lagTrace.capacity = second.lagTrace.capacity →
          first.receiveSequence = second.receiveSequence →
            field first = field second

/--
A field that reads only the clock, the count of refused datagrams, the capacity of
the lag trace and the numbering of the datagrams that come.
-/
class IgnoresMessages {Value : Type} (field : Session → Value) : Prop where
  same : ∀ {first second : Session}, first.now = second.now →
    first.traffic.datagramsRejected = second.traffic.datagramsRejected →
      first.lagTrace.capacity = second.lagTrace.capacity →
        first.receiveSequence = second.receiveSequence →
          field first = field second

/--
A field that reads only what the session measures, and of the metrics
only the gauge.
-/
class IgnoresRequests {Value : Type} (field : Session → Value) : Prop where
  same : ∀ {first second : Session}, first.now = second.now →
    first.health = second.health → first.traffic = second.traffic →
      first.lagTrace = second.lagTrace →
        first.receiveSequence = second.receiveSequence →
          first.gauge = second.gauge → field first = field second

/--
A field that reads only the clock, the count of refused datagrams and the
capacity of the lag trace.
-/
class IgnoresReceiving {Value : Type} (field : Session → Value) : Prop where
  same : ∀ {first second : Session}, first.now = second.now →
    first.traffic.datagramsRejected = second.traffic.datagramsRejected →
      first.lagTrace.capacity = second.lagTrace.capacity →
        field first = field second

section

variable {Value : Type} {field : Session → Value}

instance [IgnoresReceiving field] : IgnoresMessages field where
  same sameTime sameCount sameCapacity _ :=
    IgnoresReceiving.same sameTime sameCount sameCapacity

instance [IgnoresMessages field] : IgnoresContents field where
  same sameTime sameCount _ sameCapacity sameSequence :=
    IgnoresMessages.same sameTime sameCount sameCapacity sameSequence

instance [IgnoresContents field] : IgnoresNews field where
  same sameTime sameCount sameLosses sameCapacity sameSequence _ :=
    IgnoresContents.same sameTime sameCount sameLosses sameCapacity
      sameSequence

instance [IgnoresNews field] : IgnoresRequests field where
  same sameTime _ sameTraffic sameTrace sameSequence sameGauge :=
    IgnoresNews.same sameTime
      (congrArg Traffic.datagramsRejected sameTraffic)
      (congrArg Traffic.datagramsLost sameTraffic)
      (congrArg LagTrace.capacity sameTrace) sameSequence sameGauge

instance [IgnoresNews field] : IgnoresSending field where
  same sameCount sameLosses sameLatency sameReserve := by
    refine IgnoresNews.same rfl sameCount sameLosses rfl rfl ?_
    unfold gauge
    rw [sameLatency, sameReserve]

end

/-- How many datagrams were refused. -/
def refusedCount (session : Session) : Nat :=
  session.traffic.datagramsRejected

/-- How many samples the lag trace keeps. -/
def traceCapacity (session : Session) : Nat :=
  session.lagTrace.capacity

instance : IgnoresReceiving Session.now where
  same sameTime _ _ := sameTime

instance : IgnoresReceiving Session.refusedCount where
  same _ sameCount _ := sameCount

instance : IgnoresReceiving Session.traceCapacity where
  same _ _ sameCapacity := sameCapacity

instance : IgnoresMessages Session.receiveSequence where
  same _ _ _ sameSequence := sameSequence

instance : IgnoresNews Session.gauge where
  same _ _ _ _ _ sameGauge := sameGauge

instance : IgnoresSending Session.health where
  same _ _ _ _ := rfl

instance : IgnoresRequests Session.health where
  same _ sameHealth _ _ _ _ := sameHealth

namespace Action

variable {First Result Value : Type}

/-- An action that leaves a field as it is. -/
def Keeps (field : Session → Value) (action : Action Result) : Prop :=
  ∀ session, field (action session).session = field session

/-- What follows a change goes on with the changed session. -/
theorem modify_bind
    (change : Session → Session)
    (next : Unit → Action Result)
    (session : Session) :
    (Action.modify change >>= next) session = next () (change session) :=
  rfl

/-- A field that the second part keeps is as the first part leaves it. -/
theorem field_bind
    (field : Session → Value)
    {action : Action First}
    {next : First → Action Result}
    (keeps : ∀ found, Keeps field (next found))
    (session : Session) :
    field ((action >>= next) session).session =
      field (action session).session := by
  rw [session_bind]
  split
  · exact keeps _ _
  · rfl

namespace Keeps

variable {field : Session → Value}

theorem pure (result : Result) : Keeps field (Pure.pure result : Action Result) :=
  fun _ => rfl

/-- A refusal happens before anything is changed. -/
theorem refuse (refusal : Refusal) :
    Keeps field (Action.refuse refusal : Action Result) :=
  fun _ => rfl

/-- Notices are not part of the session. -/
theorem note (notice : Notice) : Keeps field (Action.note notice) :=
  fun _ => rfl

theorem noteAll (notices : List Notice) :
    Keeps field (Action.noteAll notices) :=
  fun _ => rfl

/-- A change keeps a field if it leaves it as it is in every session. -/
theorem modify
    {change : Session → Session}
    (keeps : ∀ session, field (change session) = field session) :
    Keeps field (Action.modify change) :=
  keeps

/-- A field is kept by two actions in a row if each of them keeps it. -/
theorem bind
    {action : Action First}
    {next : First → Action Result}
    (first : Keeps field action)
    (second : ∀ found, Keeps field (next found)) :
    Keeps field (action >>= next) := by
  intro session
  rw [session_bind]
  split
  · exact (second _ _).trans (first session)
  · exact first session

/-- Looking at the session changes nothing, so what follows decides. -/
theorem current
    {next : Session → Action Result}
    (keeps : ∀ session, Keeps field (next session)) :
    Keeps field (Action.current >>= next) :=
  bind (fun _ => rfl) keeps

/-- Reading from a datagram does not touch the session. -/
theorem decoded (decoder : Decoder Result) (reader : Reader) :
    Keeps field (Action.decoded decoder reader) := by
  unfold Action.decoded
  split
  · exact pure _
  · exact refuse _

theorem written (writing : Except CursorError Result × Writer) :
    Keeps field (Action.written writing) := by
  rcases writing with ⟨failure | result, writer⟩
  · exact refuse _
  · exact pure _

/--
A message that cannot be read is refused; so what accepting it keeps, is kept.
-/
theorem acceptMessage
    {Message : Type}
    (decoder : Decoder Message)
    {accept : Message → Action Unit}
    (accepts : ∀ message, Keeps field (accept message))
    (reader : Reader) :
    Keeps field (Action.acceptMessage decoder accept reader) := by
  refine bind (decoded _ _) fun (message, reader) => ?_
  exact bind (accepts _) fun _ => pure _

/-- Outside a connection only the answer to a connect request is taken. -/
theorem acceptOutOfBand_of_connection
    (connects : ∀ response, Keeps field (Action.acceptConnection response))
    (reader : Reader) :
    Keeps field (Action.acceptOutOfBand reader) := by
  refine bind (decoded _ _) fun (number, reader) => ?_
  refine bind (decoded _ _) fun (code, reader) => ?_
  dsimp only
  split
  · exact bind (acceptMessage _ connects _) fun _ => noteAll _
  · exact refuse _

/-- A seal is checked without touching the session. -/
theorem checkSeal (secret : UInt64) (reader : Reader) :
    Keeps field (Action.checkSeal secret reader) := by
  refine bind (decoded _ _) fun (claimed, reader) => ?_
  dsimp only
  split
  · exact pure _
  · exact refuse _

theorem addFields (draft : Draft) (fields : List Octets) :
    Keeps field (Action.addFields draft fields) :=
  bind (written _) fun _ => pure _

/--
Sealing and numbering a draft leaves the session to what concludes the sending.
-/
theorem finishDatagram (draft : Draft) :
    Keeps field (Action.finishDatagram draft) := by
  refine current fun session => ?_
  split
  · exact pure _
  · split
    · exact pure _
    · split
      · dsimp only
        split
        · exact pure _
        · exact refuse _
      · exact pure _

/-! ## Messages -/

section

variable [IgnoresNews field]

/-- The link's health is none of the things that such a field reads. -/
theorem updateHealth (change : Health → Health × List Health.Notice) :
    Keeps field (Action.updateHealth change) :=
  current fun _ =>
    bind
      (modify fun _ => IgnoresNews.same rfl rfl rfl rfl rfl rfl)
      fun _ => noteAll _

/-- Participants are none of the things that such a field reads. -/
theorem acceptMembership (response : JoinResponse) :
    Keeps field (Action.acceptMembership response) := by
  refine current fun session => ?_
  dsimp only
  split
  · exact note _
  · split
    · exact note _
    · split
      · exact refuse _
      · refine bind (noteAll _) fun _ => ?_
        exact bind
          (modify fun _ => IgnoresNews.same rfl rfl rfl rfl rfl rfl)
          fun _ => note _

theorem acceptOutOfSlots (answer : OutOfSlots) :
    Keeps field (Action.acceptOutOfSlots answer) :=
  bind (note _) fun _ => modify fun _ => IgnoresNews.same rfl rfl rfl rfl rfl rfl

/-- Becoming synced touches neither the clock nor any count. -/
theorem finishDownload : Keeps field Action.finishDownload := by
  refine current fun session => ?_
  split
  · exact pure _
  · split
    · split
      · exact pure _
      · split
        · exact pure _
        · exact bind
            (modify fun _ => IgnoresNews.same rfl rfl rfl rfl rfl rfl)
            fun _ => note _
    · exact note _

/-- A download that begins, or is refused, leaves such a field alone. -/
theorem acceptDownload (response : DownloadResponse) :
    Keeps field (Action.acceptDownload response) := by
  refine current fun session => ?_
  dsimp only
  split
  · exact note _
  · split
    · exact note _
    · split
      · exact refuse _
      · split
        · exact bind (note _) fun _ => refuse _
        · refine bind (note _) fun _ => ?_
          exact bind
            (modify fun _ => IgnoresNews.same rfl rfl rfl rfl rfl rfl)
            fun _ => finishDownload

/-- A part goes into the download and nowhere else. -/
theorem acceptPart (reader : Reader) :
    Keeps field (Action.acceptPart reader) := by
  refine bind (decoded _ _) fun (channel, reader) => ?_
  refine current fun session => ?_
  split
  · exact refuse _
  · split
    · exact refuse _
    · split
      · exact refuse _
      · split
        · exact refuse _
        · refine bind
            (modify fun _ => IgnoresNews.same rfl rfl rfl rfl rfl rfl)
            fun _ => ?_
          refine bind (noteAll _) fun _ => ?_
          exact bind finishDownload fun _ => pure _

/-- Steps go into the window and the ready queue, and are heard by the link. -/
theorem acceptSteps (steps : List Step) :
    Keeps field (Action.acceptSteps steps) := by
  refine current fun session => ?_
  refine bind (modify fun _ => IgnoresNews.same rfl rfl rfl rfl rfl rfl) fun _ => ?_
  refine bind (noteAll _) fun _ => ?_
  split
  · exact refuse _
  · exact bind
      (modify fun _ => IgnoresNews.same rfl rfl rfl rfl rfl rfl)
      fun _ => note _

/--
Of the server's messages only connecting and step responses may change what such
a field reads.
-/
theorem acceptCommand_of
    {command : Command}
    (connects : command = .connectResponse →
      ∀ response, Keeps field (Action.acceptConnection response))
    (steps : command = .gameStepResponse →
      ∀ reader, Keeps field (Action.acceptStepResponse reader))
    (reader : Reader) :
    Keeps field (Action.acceptCommand command reader) := by
  cases command with
  | connectResponse => exact acceptMessage _ (connects rfl) reader
  | joinGameResponse => exact acceptMessage _ acceptMembership reader
  | joinGameOutOfParticipantSlots =>
      exact acceptMessage _ acceptOutOfSlots reader
  | downloadGameStateResponse => exact acceptMessage _ acceptDownload reader
  | gameStatePart => exact acceptPart reader
  | gameStepResponse => exact steps rfl reader
  | joinGameRequest => exact refuse _
  | gameStep => exact refuse _
  | downloadGameStateRequest => exact refuse _
  | downloadGameStateStatus => exact refuse _
  | connectRequest => exact refuse _

/-- Judging the link changes the link and the stage only. -/
theorem judgeLink : Keeps field Action.judgeLink := by
  refine current fun session => ?_
  split
  · refine bind (updateHealth _) fun _ => ?_
    refine current fun judged => ?_
    split
    · refine bind (note _) fun _ => ?_
      exact bind
        (modify fun _ => IgnoresNews.same rfl rfl rfl rfl rfl rfl)
        fun _ => pure _
    · exact pure _
  · exact pure _

end

/-! ## Measurements -/

section

variable [IgnoresContents field]

/-- A latency is kept in the gauge and nowhere else. -/
theorem measureLatency (bits : UInt16) :
    Keeps field (Action.measureLatency bits) := by
  refine current fun session => ?_
  split
  · exact note _
  · exact modify fun _ => IgnoresContents.same rfl rfl rfl rfl rfl

/--
What a report says is kept in the gauge and the lag trace, whose length stays.
-/
theorem acceptReport (report : StepReport) (octets : Nat) :
    Keeps field (Action.acceptReport report octets) := by
  refine bind (modify fun _ => IgnoresContents.same rfl rfl rfl rfl rfl) fun _ => ?_
  refine bind (measureLatency _) fun _ => ?_
  exact current fun _ =>
    bind (modify fun _ => IgnoresContents.same rfl rfl rfl rfl rfl) fun _ => note _

/-- A step response changes what it measures, and the steps. -/
theorem acceptStepResponse (reader : Reader) :
    Keeps field (Action.acceptStepResponse reader) := by
  refine bind (decoded _ _) fun (report, reader) => ?_
  refine bind (acceptReport _ _) fun _ => ?_
  refine bind (decoded _ _) fun (steps, reader) => ?_
  exact bind (acceptSteps _) fun _ => pure _

/-- An echo is measured, and changes nothing else. -/
theorem takeEcho (reader : Reader) : Keeps field (Action.takeEcho reader) := by
  unfold Action.takeEcho
  split
  · exact refuse _
  · split
    · refine bind (decoded _ _) fun (marked, reader) => ?_
      refine bind (decoded _ _) fun (bits, reader) => ?_
      exact bind (measureLatency _) fun _ => pure _
    · exact pure _

/-- Only the answer to a connect request starts the numbering anew. -/
theorem acceptCommand_of_ne
    {command : Command}
    (other : command ≠ .connectResponse)
    (reader : Reader) :
    Keeps field (Action.acceptCommand command reader) :=
  acceptCommand_of (absurd · other) (fun _ => acceptStepResponse) reader

/-- The same of a command and the message behind it. -/
theorem takeCommand_of_ne
    {command : Command}
    (other : command ≠ .connectResponse)
    (position : Nat)
    (body : Octets) :
    Keeps field (Action.takeCommand ⟨position, command.code :: body⟩) := by
  have taken :
      Decoder.octet ⟨position, command.code :: body⟩ =
        (.ok command.code, ⟨position + 1, body⟩) :=
    Decoder.Reads.octet command.code position body
  intro session
  unfold Action.takeCommand
  rw [decoded_bind_ok taken]
  dsimp only
  rw [Command.ofCode?_code]
  exact bind (note _) (fun _ =>
    bind (acceptCommand_of_ne other _) fun _ => noteAll _) session

end

/-! ## Losses -/

section

variable [IgnoresMessages field]

/-- Lost datagrams are heard, counted and traced. -/
theorem countLost (lost : Nat) : Keeps field (Action.countLost lost) :=
  bind (updateHealth _) fun _ => modify fun session =>
    IgnoresMessages.same rfl rfl (session.lagTrace.capacity_dropped lost) rfl

end

/-! ## Datagrams -/

section

variable [IgnoresReceiving field]

/--
A connection starts the numbering anew, and leaves the clock and the refusals.
-/
theorem acceptConnection (response : ConnectResponse) :
    Keeps field (Action.acceptConnection response) := by
  refine current fun session => ?_
  split
  · exact note _
  · split
    · exact refuse _
    · exact bind (modify fun _ => IgnoresReceiving.same rfl rfl rfl) fun _ => note _

/-- No command moves the clock or counts a refusal. -/
theorem acceptCommand (command : Command) (reader : Reader) :
    Keeps field (Action.acceptCommand command reader) :=
  acceptCommand_of (fun _ => acceptConnection) (fun _ => acceptStepResponse)
    reader

/-- A number moves the numbering on, and leaves the clock and the refusals. -/
theorem checkSequence (reader : Reader) :
    Keeps field (Action.checkSequence reader) := by
  refine bind (decoded _ _) fun (number, reader) => ?_
  refine current fun session => ?_
  refine bind (modify fun _ => IgnoresReceiving.same rfl rfl rfl) fun _ => ?_
  split
  · exact refuse _
  · refine bind (countLost _) fun _ => ?_
    exact bind (modify fun _ => IgnoresReceiving.same rfl rfl rfl) fun _ => pure _

theorem takeCommand (reader : Reader) :
    Keeps field (Action.takeCommand reader) := by
  refine bind (decoded _ _) fun (code, reader) => ?_
  dsimp only
  split
  · exact refuse _
  · refine bind (note _) fun _ => ?_
    exact bind (acceptCommand _ _) fun _ => noteAll _

theorem acceptConnected (id : UInt8) (reader : Reader) :
    Keeps field (Action.acceptConnected id reader) := by
  refine current fun session => ?_
  split
  · exact refuse _
  · split
    · exact refuse _
    · split
      · exact refuse _
      · refine bind (checkSeal _ _) fun reader => ?_
        refine bind (checkSequence _) fun reader => ?_
        exact bind (takeEcho _) fun reader => takeCommand reader

/--
Accepting a datagram moves no clock and counts no refusal; refusing
does so later.
-/
theorem acceptDatagram (datagram : Octets) :
    Keeps field (Action.acceptDatagram datagram) := by
  unfold Action.acceptDatagram
  split
  · exact refuse _
  · refine bind (decoded _ _) fun (id, reader) => ?_
    dsimp only
    split
    · exact acceptOutOfBand_of_connection acceptConnection _
    · exact acceptConnected _ _

end

/-! ## Sending -/

section

variable [IgnoresSending field]

/-- A request in a draft starts the countdown, which sending may change. -/
theorem addRequest (draft : Draft) (fields : List Octets) :
    Keeps field (Action.addRequest draft fields) :=
  bind (addFields _ _) fun _ =>
    bind (modify fun _ => IgnoresSending.same rfl rfl rfl rfl) fun _ => pure _

/-- Whichever message is due, adding it changes only what sending may change. -/
theorem addControlMessage (draft : Draft) :
    Keeps field (Action.addControlMessage draft) := by
  refine current fun session => ?_
  cases session.stage with
  | requestingConnect => exact bind (note _) fun _ => addRequest _ _
  | requestingState =>
      refine current fun session => ?_
      cases session.progress with
      | outOfSlots => exact pure _
      | joined => exact bind (note _) fun _ => addRequest _ _
      | joining =>
          cases session.joinRequest with
          | none => exact bind (note _) fun _ => pure _
          | some request => exact addRequest _ _
  | downloadingState =>
      have waits (draft : Draft) :
          Keeps field (do Action.waitFor 0; Pure.pure draft) :=
        bind (modify fun _ => IgnoresSending.same rfl rfl rfl rfl) fun _ => pure _
      cases session.download with
      | none => exact bind (pure _) waits
      | some download => exact bind (addFields _ _) waits
  | idle => exact pure _
  | connected => exact pure _
  | synced => exact pure _
  | disconnected => exact pure _

/-- Steps in a draft are counted as sent, which sending may change. -/
theorem addSteps (draft : Draft) :
    Keeps field (Action.addSteps draft) := by
  refine current fun session => bind (addFields _ _) fun _ => ?_
  refine bind (modify fun _ => IgnoresSending.same rfl rfl rfl rfl) fun _ => ?_
  exact bind (written _) fun _ => bind (note _) fun _ => pure _

/-- To compose a datagram changes only what sending may change. -/
theorem compose : Keeps field Action.compose := by
  have begins : Keeps field Action.beginDatagram :=
    current fun _ => bind (written _) fun _ => pure _
  have controls : Keeps field (do
      let draft ← Action.beginDatagram
      let draft ← Action.addControlMessage draft
      Action.finishDatagram draft) :=
    bind begins fun _ => bind (addControlMessage _) fun _ =>
      finishDatagram _
  refine current fun session => ?_
  cases session.stage with
  | idle => exact pure _
  | connected => exact pure _
  | disconnected => exact pure _
  | synced =>
      exact bind begins fun _ => bind (addSteps _) fun _ =>
        finishDatagram _
  | requestingConnect => exact controls
  | requestingState => exact controls
  | downloadingState => exact controls

/-- What was sent is counted, and nothing else is changed. -/
theorem concludeSending
    (datagram : Octets)
    (refusal : Option String) :
    Keeps field (Action.concludeSending datagram refusal) := by
  cases refusal with
  | some failure => exact bind (note _) fun _ => refuse _
  | none =>
      refine bind (modify fun _ => IgnoresSending.same rfl rfl rfl rfl) fun _ => ?_
      refine current fun session => ?_
      split
      · exact modify fun _ => IgnoresSending.same rfl rfl rfl rfl
      · exact pure _

theorem passWaiting : Keeps field Action.passWaiting := by
  refine bind (modify fun _ => IgnoresSending.same rfl rfl rfl rfl) fun _ => ?_
  exact current fun _ => pure _

theorem updateMetrics (now : Nat) : Keeps field (Action.updateMetrics now) := by
  refine bind (modify fun _ => IgnoresSending.same rfl rfl rfl rfl) fun _ => ?_
  exact current fun _ => noteAll _

/-- Once the link is judged good, what is left of a tick only sends. -/
theorem afterJudging (now : Nat) :
    Keeps field (do
      if ← Action.passWaiting then
        Action.updateMetrics now
        Action.compose
      else return none) := by
  refine bind passWaiting fun isOver => ?_
  cases isOver with
  | false => exact pure _
  | true => exact bind (updateMetrics _) fun _ => compose

end

end Keeps

end Action

/-- Short of starting over, what the application asks for is not measured. -/
theorem field_ask
    {Value : Type}
    (field : Session → Value)
    [IgnoresRequests field]
    (session : Session)
    {request : Request}
    (goesOn : request ≠ .reset) :
    field (session.ask request).2 = field session := by
  cases request with
  | reset => exact absurd rfl goesOn
  | assignJoinRequest request =>
      have keeps : Action.Keeps field (Action.assignJoinRequest request) :=
        .bind (.noteAll _) fun _ => .bind (.note _) fun _ =>
          .modify fun _ => IgnoresRequests.same rfl rfl rfl rfl rfl rfl
      exact keeps session
  | requestConnect =>
      have keeps : Action.Keeps field Action.requestConnect := by
        refine .current fun session => ?_
        split
        · exact .bind (.note _) fun _ =>
            .modify fun _ => IgnoresRequests.same rfl rfl rfl rfl rfl rfl
        · exact .pure _
      exact keeps session
  | beginJoin =>
      have keeps : Action.Keeps field Action.beginJoin := by
        refine .current fun session => ?_
        split
        · exact .bind (.note _) fun _ =>
            .modify fun _ => IgnoresRequests.same rfl rfl rfl rfl rfl rfl
        · exact .pure _
      exact keeps session
  | disconnect =>
      have keeps : Action.Keeps field Action.disconnect := by
        refine .current fun session => ?_
        split
        · exact .pure _
        · exact .bind (.note _) fun _ =>
            .modify fun _ => IgnoresRequests.same rfl rfl rfl rfl rfl rfl
      exact keeps session
  | predict payload =>
      have keeps : Action.Keeps field (Action.predict payload) := by
        refine .current fun session => ?_
        dsimp only
        split
        · exact .refuse _
        · split
          · split
            · exact .refuse _
            · refine .bind (.modify fun _ => ?_) fun _ => ?_
              · exact IgnoresRequests.same rfl rfl rfl rfl rfl rfl
              · exact .bind (.note _) fun _ => .pure _
          · exact .refuse _
      exact keeps session
  | readStep =>
      have keeps : Action.Keeps field Action.readStep := by
        refine .current fun session => ?_
        split
        · exact .pure _
        · refine .bind (.modify fun _ => ?_) fun _ => ?_
          · exact IgnoresRequests.same rfl rfl rfl rfl rfl rfl
          · split
            · exact .pure _
            · exact .bind (.note _) fun _ => .pure _
      exact keeps session

/-- Once the link is judged, the end of a tick only sends. -/
theorem field_endTick
    {Value : Type}
    (field : Session → Value)
    [IgnoresSending field]
    (session : Session)
    (now : Nat)
    (refusal : Option String) :
    field (session.endTick now refusal).outcome.session =
      field (Action.judgeLink session).session := by
  have prepared :
      field (Action.prepareSending now session).session =
        field (Action.judgeLink session).session := by
    rw [Action.prepareSending, Action.session_bind]
    cases (Action.judgeLink session).result with
    | error refusal => rfl
    | ok goesOn =>
        cases goesOn with
        | false => rfl
        | true => exact Action.Keeps.afterJudging now _
  unfold endTick
  dsimp only
  split
  · exact prepared
  · exact prepared
  · exact (Action.Keeps.concludeSending _ _ _).trans prepared

/-- A datagram is counted as refused if it is. -/
theorem refusedCount_receive (session : Session) (datagram : Octets) :
    (session.receive datagram).session.refusedCount =
      session.refusedCount +
        match (session.receive datagram).result with
        | .ok _ => 0
        | .error _ => 1 := by
  have accepted :
      (Action.acceptDatagram datagram
        (session.countArrival datagram)).session.refusedCount =
          session.refusedCount :=
    Action.Keeps.acceptDatagram datagram (session.countArrival datagram)
  unfold receive
  dsimp only
  split
  case h_1 succeeds =>
    rw [succeeds]
    exact accepted
  case h_2 refused =>
    dsimp only
    rw [refused]
    exact congrArg (· + 1) accepted

end Session

end StepSync
