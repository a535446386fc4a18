import StepSync.Proofs.Conductor.Run
import StepSync.Proofs.Download.InOrder
import StepSync.Proofs.Message.ClientMessage
import StepSync.Proofs.Session.Reply

namespace StepSync

/-!
# A host with a game to join

A `Host` lets everybody join: it answers what a client asks for, and says nothing
else. A `Meeting` is a conductor together with what a host has sent it; in one
turn the conductor is updated and the host answers the datagram that it was
offered.
-/

/--
What a host assigns to a client that joins, and the snapshot from which the
client is to go on.
-/
structure Host where
  greetingNumber : UInt16
  connectionId : UInt8
  flags : ConnectFlags
  secret : UInt64
  firstNumber : UInt16
  echo : Nat → Option UInt16
  connectionIndex : UInt8
  sessionSecret : UInt64
  participants : List Participant
  stepId : StepId
  channel : UInt16
  snapshot : Octets

namespace Host

/-- The answer to a connect request. -/
def connectResponse (host : Host) : ConnectResponse :=
  ⟨host.connectionId, host.flags, host.secret⟩

/-- The answer to a join request. -/
def joinResponse (host : Host) (request : JoinRequest) : JoinResponse :=
  ⟨request.nonce, host.connectionIndex, host.sessionSecret,
    host.participants⟩

/-- The answer to a request for the snapshot. -/
def downloadResponse (host : Host) (request : DownloadRequest) :
    DownloadResponse :=
  ⟨request.requestId, host.stepId, UInt32.ofNat host.snapshot.length,
    host.channel⟩

/-- The written form of a part of the snapshot. -/
def partFields (host : Host) (channel : UInt16) (index : Nat) :
    List Octets :=
  Command.gameStatePart.fields ++ [Octets.ofWord16 channel] ++
    (Chunk.cut host.snapshot index).fields

/-- The written form of the answer to what a connected client asks for. -/
def answer? (host : Host) : ClientMessage → Option (List Octets)
  | .join request => some (host.joinResponse request).fields
  | .requestState request => some (host.downloadResponse request).fields
  | .downloadStatus channel waitingFor _ =>
      some (host.partFields channel waitingFor)
  | .connect _ | .steps _ _ _ => none

/-- The connection of a client that takes the answer to its connect request. -/
def connection (host : Host) : Connection :=
  ⟨host.connectionId, host.secret,
    (ConnectFlags.ofBits host.flags.bits).usesDebugStreams⟩

/--
The number that a datagram within the connection bears when so many
were sent before.
-/
def number (host : Host) (sent : Nat) : UInt16 :=
  host.firstNumber + UInt16.ofNat sent

/-- The datagram that answers a connect request. -/
def greeting (host : Host) : Octets :=
  Session.greeting host.greetingNumber host.connectResponse.fields.flatten

/-- A datagram within the connection when so many were sent before. -/
def reply (host : Host) (sent : Nat) (fields : List Octets) : Octets :=
  Session.reply host.connection (host.number sent) (host.echo sent)
    fields.flatten

/--
The datagrams that answer a client, and how many were sent within the connection
then; a greeting opens the connection.
-/
def react (host : Host) (sent : Nat) :
    Option ClientMessage → Nat × List Octets
  | none => (sent, [])
  | some (.connect _) => (0, [host.greeting])
  | some message =>
      match host.answer? message with
      | none => (sent, [])
      | some fields => (sent + 1, [host.reply sent fields])

end Host

/--
A conductor, and a host that has sent so many datagrams, the last of which are
on their way; the refusals of updates so far.
-/
structure Meeting where
  conductor : Conductor
  sent : Nat
  inbox : List Session.Arrival
  refusals : List Refusal

namespace Meeting

/--
A new conductor that aims for the game meets a host that has not sent anything.
-/
def opening (settings : Settings) (localIndices : Octets) : Meeting where
  conductor := ((Conductor.create settings).1.joinGame localIndices).1
  sent := 0
  inbox := []
  refusals := []

/--
The conductor is updated over a transport that never fails, and the host answers
the datagram that was offered.
-/
def turn (host : Host) (meeting : Meeting) (now : Nat) : Meeting :=
  let update := meeting.conductor.update now ⟨meeting.inbox, none⟩
  let (sent, answers) :=
    host.react meeting.sent (update.offered.bind ClientMessage.ofDatagram?)
  { conductor := update.conductor
    sent := sent
    inbox := update.left ++ answers.map .datagram
    refusals :=
      match update.result with
      | .ok _ => meeting.refusals
      | .error refusal => meeting.refusals ++ [refusal] }

/-- One turn after the other, at the given times. -/
def turns (host : Host) (meeting : Meeting) (times : List Nat) : Meeting :=
  times.foldl (turn host) meeting

end Meeting

/-! ## What the answers bring -/

namespace Host

variable (host : Host)

/-- The octets of the answer to a connect request, as a client reads them. -/
theorem flatten_connectResponse :
    host.connectResponse.fields.flatten =
      Command.connectResponse.code ::
        ([host.connectionId] ++
          ([host.flags.bits] ++ Octets.ofWord64 host.secret)) := by
  simp [ConnectResponse.fields, Command.fields, connectResponse]

/-- A greeting delivers the connection that the host has opened. -/
theorem delivery_greeting (session : Session) :
    session.delivery host.greeting =
      .connection
        { host.connectResponse with flags := .ofBits host.flags.bits } := by
  rw [greeting, flatten_connectResponse, Session.delivery_greeting]
  exact Delivery.ofMessage_of_reads host.connectResponse.reads_body _ _

/-- A client that waits for a greeting numbers what follows it from the start. -/
theorem receiveSequence_greeting
    {session : Session}
    (requesting : session.stage = .requestingConnect)
    (named : host.connectionId ≠ noConnectionId) :
    (session.receive host.greeting).session.receiveSequence =
      ReceiveSequence.start := by
  rw [greeting, flatten_connectResponse]
  exact Session.receiveSequence_greeting requesting
    host.connectResponse.reads_body named _

theorem length_greeting : host.greeting.length = 14 := by
  simp [greeting, flatten_connectResponse, Session.greeting]

/-- What the host says to a join request brings the participants it has assigned. -/
theorem brings_joinResponse
    (request : JoinRequest)
    (few : host.participants.length ≤ mostLocalParticipants) :
    Session.Brings (host.joinResponse request).fields
      (.membership (host.joinResponse request)) where
  read := by
    have countable : host.participants.length < UInt8.size :=
      Nat.lt_of_le_of_lt few (by decide)
    have reads :=
      @JoinResponse.reads_body (host.joinResponse request) countable
    refine ⟨.joinGameResponse, _, ?_, by decide,
      Delivery.ofMessage_of_reads reads .membership⟩
    simp [JoinResponse.fields, Command.fields, joinResponse,
      List.flatMap_def, List.flatten_flatten, Function.comp_def]
  short := by
    have length :
        (host.participants.flatMap Participant.fields).flatten.length =
          2 * host.participants.length := by
      generalize host.participants = participants
      induction participants with
      | nil => rfl
      | cons first others inductionHypothesis =>
          simp only [List.flatMap_cons, List.flatten_append,
            List.length_append, inductionHypothesis, List.length_cons]
          simp only [Participant.fields, List.flatten_cons, List.flatten_nil,
            List.length_append, List.length_cons, List.length_nil]
          omega
    unfold mostLocalParticipants at few
    simp only [JoinResponse.fields, Command.fields, joinResponse,
      List.flatten_append, List.length_append, length]
    simp [mostDatagramOctets]
    omega

/-- What the host says to a download request announces its snapshot. -/
theorem brings_downloadResponse (request : DownloadRequest) :
    Session.Brings (host.downloadResponse request).fields
      (.download (host.downloadResponse request)) where
  read := by
    have reads := (host.downloadResponse request).reads_body
    refine ⟨.downloadGameStateResponse,
      [request.requestId] ++
        (Octets.ofWord32 host.stepId ++
          (Octets.ofWord32 (UInt32.ofNat host.snapshot.length) ++
            Octets.ofWord16 host.channel)),
      ?_, by decide, Delivery.ofMessage_of_reads reads .download⟩
    simp [DownloadResponse.fields, Command.fields, downloadResponse]
  short := by
    simp [DownloadResponse.fields, Command.fields, mostDatagramOctets]

/-- A part of the host's snapshot brings the chunk that was cut for its index. -/
theorem brings_part (channel : UInt16) (index : Nat) :
    Session.Brings (host.partFields channel index)
      (.part channel (Chunk.cut host.snapshot index)) where
  read := by
    have short := Chunk.length_cut_le host.snapshot index
    refine ⟨.gameStatePart,
      Octets.ofWord16 channel ++
        (Chunk.cut host.snapshot index).fields.flatten,
      ?_, by decide, fun position => Delivery.ofPart_fields channel ?_ position⟩
    · simp [partFields, Command.fields]
    · exact Nat.lt_of_le_of_lt short (by decide)
  short := by
    have short := Chunk.length_cut_le host.snapshot index
    unfold Chunk.size at short
    simp [partFields, Chunk.fields, Command.fields, mostDatagramOctets]
    omega

/-- Each number lies one ahead of the number before. -/
theorem distance_number (sent : Nat) :
    ReceiveSequence.distance ⟨some (host.number sent)⟩
      (host.number (sent + 1)) = 1 := by
  have apart : host.number (sent + 1) - host.number sent = 1 := by
    rw [number, number, UInt16.ofNat_add, ← UInt16.add_assoc,
      UInt16.add_comm, UInt16.add_sub_cancel]
    rfl
  unfold ReceiveSequence.distance
  dsimp only
  rw [apart]
  rfl

end Host

end StepSync
