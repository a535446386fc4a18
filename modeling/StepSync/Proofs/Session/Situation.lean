import StepSync.Proofs.Steps.Window
import StepSync.Session.Control
import StepSync.Session.Stepping
import StepSync.Session.Tick

namespace StepSync

/-!
# Situations

Much of what a session does is to measure, and nothing but its judgement of the
link depends on that.  The rest of its state is its situation.  What a datagram
does to the situation depends only on its `Delivery`, the message that is left of
it when the session's checks have been made; `Situation.accept` says how.
-/

/-- What a session has besides its measurements. -/
structure Situation where
  settings : Settings
  stage : Stage
  progress : JoinProgress
  joinRequest : Option JoinRequest
  membership : Option Membership
  connection : Option Connection
  sendSequence : SendSequence
  outbound : Outbound
  inbound : Inbound
  download : Option Download
  requestId : UInt8
  snapshot : Option Snapshot
  waitTicks : Nat
  deriving Repr, DecidableEq

namespace Session

/-- The situation of a session. -/
def situation (session : Session) : Situation where
  settings := session.settings
  stage := session.stage
  progress := session.progress
  joinRequest := session.joinRequest
  membership := session.membership
  connection := session.connection
  sendSequence := session.sendSequence
  outbound := session.outbound
  inbound := session.inbound
  download := session.download
  requestId := session.requestId
  snapshot := session.snapshot
  waitTicks := session.waitTicks

end Session

/--
The message of a datagram, as far as it concerns the session that receives it.
-/
inductive Delivery where
  | nothing
  | connection (response : ConnectResponse)
  | membership (response : JoinResponse)
  | outOfSlots
  | download (response : DownloadResponse)
  | part (channel : UInt16) (chunk : Chunk)
  | report (report : StepReport)
  | steps (report : StepReport) (steps : List Step)
  deriving Repr, DecidableEq

namespace Delivery

/-- A step report, with the steps behind it if these are all there. -/
def ofStepResponse (reader : Reader) : Delivery :=
  match StepReport.decode reader with
  | (.error _, _) => nothing
  | (.ok found, reader) =>
      match StepRun.decode reader with
      | (.error _, _) => report found
      | (.ok run, _) => steps found run

/-- A part of a snapshot. -/
def ofPart (reader : Reader) : Delivery :=
  match Decoder.word16 reader with
  | (.error _, _) => nothing
  | (.ok channel, reader) =>
      match Chunk.decode reader with
      | (.error _, _) => nothing
      | (.ok chunk, _) => part channel chunk

/-- A message of one kind, if it is all there. -/
def ofMessage
    {Message : Type}
    (decoder : Decoder Message)
    (deliver : Message → Delivery)
    (reader : Reader) :
    Delivery :=
  match decoder reader with
  | (.error _, _) => nothing
  | (.ok message, _) => deliver message

/-- The message behind a command. -/
def ofCommand (command : Command) (reader : Reader) : Delivery :=
  match command with
  | .connectResponse => ofMessage ConnectResponse.decode connection reader
  | .joinGameResponse => ofMessage JoinResponse.decode membership reader
  | .joinGameOutOfParticipantSlots =>
      ofMessage OutOfSlots.decode (fun _ => outOfSlots) reader
  | .downloadGameStateResponse =>
      ofMessage DownloadResponse.decode download reader
  | .gameStatePart => ofPart reader
  | .gameStepResponse => ofStepResponse reader
  | .joinGameRequest | .gameStep | .downloadGameStateRequest
  | .downloadGameStateStatus | .connectRequest => nothing

/-- A command and the message behind it. -/
def ofCommandOctet (reader : Reader) : Delivery :=
  match Decoder.octet reader with
  | (.error _, _) => nothing
  | (.ok code, reader) =>
      match Command.ofCode? code with
      | none => nothing
      | some command => ofCommand command reader

/-- A datagram outside any connection, behind its id. -/
def ofOutOfBand (reader : Reader) : Delivery :=
  match Decoder.word16 reader with
  | (.error _, _) => nothing
  | (.ok _, reader) =>
      match Decoder.octet reader with
      | (.error _, _) => nothing
      | (.ok code, reader) =>
          if Command.ofCode? code = some .connectResponse then
            ofCommand .connectResponse reader
          else nothing

/-- The report that a delivery brings. -/
def report? : Delivery → Option StepReport
  | .report found | .steps found _ => some found
  | _ => none

end Delivery

namespace Reader

/-- The place behind a good seal. -/
def afterSeal? (secret : UInt64) (reader : Reader) : Option Reader :=
  match Decoder.word32 reader with
  | (.error _, _) => none
  | (.ok claimed, reader) =>
      if Seal.verifies secret claimed reader.rest then some reader else none

/-- The place behind a number that lies ahead of the last accepted one. -/
def afterNumber? (sequence : ReceiveSequence) (reader : Reader) :
    Option Reader :=
  match Decoder.word16 reader with
  | (.error _, _) => none
  | (.ok number, reader) =>
      if 0 < sequence.distance number then some reader else none

/-- The place behind an echoed time, or here if none is announced. -/
def afterEcho? (reader : Reader) : Option Reader :=
  match reader.peek with
  | .error _ => none
  | .ok octet =>
      if octet = pongMarker then
        match Decoder.marker pongMarker reader with
        | (.error _, _) => none
        | (.ok _, reader) =>
            match Decoder.word16 reader with
            | (.error _, _) => none
            | (.ok _, reader) => some reader
      else some reader

end Reader

namespace Session

/--
The place behind the header of a datagram that names a connection, if the
datagram is one of the session's own: same connection, not disconnected, sealed,
and ahead in the sequence.
-/
def afterHeader? (session : Session) (id : UInt8) (reader : Reader) :
    Option Reader :=
  match session.connection with
  | none => none
  | some connection =>
      if connection.id ≠ id ∨ session.stage = .disconnected then none
      else
        (reader.afterSeal? connection.secret).bind
          (Reader.afterNumber? session.receiveSequence)

/-- What a datagram brings to a session. -/
def delivery (session : Session) (datagram : Octets) : Delivery :=
  if datagram.length < fewestDatagramOctets then .nothing
  else
    match Decoder.octet (Reader.ofOctets datagram) with
    | (.error _, _) => .nothing
    | (.ok id, reader) =>
        if id = noConnectionId then Delivery.ofOutOfBand reader
        else
          match (session.afterHeader? id reader).bind Reader.afterEcho? with
          | none => .nothing
          | some reader => Delivery.ofCommandOctet reader

end Session

namespace Situation

/-- Go on from the downloaded snapshot, if every part of it is here. -/
def finishDownload (situation : Situation) : Situation :=
  match situation.download.bind Download.snapshot? with
  | none => situation
  | some snapshot =>
      if situation.stage = .synced then situation
      else
        { situation with
          outbound := situation.outbound.restart snapshot.stepId
          inbound := situation.inbound.restart snapshot.stepId
          snapshot := some snapshot
          stage := .synced
          waitTicks := 0 }

/-- The server has accepted the connection. -/
def acceptConnection (situation : Situation) (response : ConnectResponse) :
    Situation :=
  if situation.stage = .requestingConnect ∧
      response.connectionId ≠ noConnectionId then
    { situation with
      connection :=
        some ⟨response.connectionId, response.secret,
          response.flags.usesDebugStreams⟩
      stage := .connected
      waitTicks := 0 }
  else situation

/--
The server has let the local players join, if it answers the request they made.
-/
def acceptMembership (situation : Situation) (response : JoinResponse) :
    Situation :=
  if situation.progress = .joining ∧
      situation.joinRequest.map JoinRequest.nonce = some response.nonce ∧
      response.participants.length ≤
        min mostLocalParticipants situation.settings.participants.toNat then
    { situation with
      membership :=
        some ⟨response.participants, response.connectionIndex,
          response.sessionSecret⟩
      progress := .joined
      download := none
      waitTicks := 0 }
  else situation

/--
The announcement is the one that was asked for: its channel is new, and its
snapshot is not too large.
-/
def Awaits (situation : Situation) (response : DownloadResponse) : Prop :=
  (∀ download ∈ situation.download, download.channel ≠ response.channel) ∧
    situation.stage = .requestingState ∧
    situation.progress = .joined ∧
    response.requestId = situation.requestId ∧
    response.octetCount.toNat ≤ situation.settings.snapshotOctets.toNat

instance (situation : Situation) (response : DownloadResponse) :
    Decidable (situation.Awaits response) := by
  unfold Awaits
  infer_instance

/-- The download that was announced begins. -/
def startDownload (situation : Situation) (response : DownloadResponse) :
    Situation :=
  { situation with
    download :=
      some (Download.announced response.channel response.stepId
        response.octetCount.toNat)
    outbound := situation.outbound.restart response.stepId
    stage := .downloadingState
    waitTicks := 0 }

/-- The server has announced a snapshot. -/
def acceptDownload (situation : Situation) (response : DownloadResponse) :
    Situation :=
  if situation.Awaits response then
    (situation.startDownload response).finishDownload
  else situation

/-- A part of a snapshot has come, if it is one of the download under way. -/
def acceptPart (situation : Situation) (channel : UInt16) (chunk : Chunk) :
    Situation :=
  match situation.download with
  | none => situation
  | some download =>
      if download.channel ≠ channel then situation
      else
        match download.assembly.insert chunk with
        | .error _ => situation
        | .ok (_, assembly) =>
            finishDownload { situation with
              download := some { download with assembly := assembly } }

/-- The server reports which predicted steps it has. -/
def acceptReport (situation : Situation) (report : StepReport) : Situation :=
  { situation with
    outbound := situation.outbound.acknowledge report.lastPredicted }

/-- Authoritative steps have come. -/
def acceptSteps (situation : Situation) (steps : List Step) : Situation :=
  { situation with inbound := situation.inbound.takeAll steps }

/-- What a delivery does to a situation. -/
def accept (situation : Situation) : Delivery → Situation
  | .nothing => situation
  | .connection response => situation.acceptConnection response
  | .membership response => situation.acceptMembership response
  | .outOfSlots => { situation with progress := .outOfSlots }
  | .download response => situation.acceptDownload response
  | .part channel chunk => situation.acceptPart channel chunk
  | .report report => situation.acceptReport report
  | .steps report steps => (situation.acceptReport report).acceptSteps steps

end Situation

end StepSync
