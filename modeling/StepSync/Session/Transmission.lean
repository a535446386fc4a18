import StepSync.Message.Download
import StepSync.Message.Handshake
import StepSync.Digest.Seal
import StepSync.Session.Latency

namespace StepSync.Session

/-!
# Sending datagrams

A datagram begins with the connection's id. Within a connection the seal comes
next; then the sequence number and the low bits of the time, and then the message
that the stage calls for. The sequence moves on only when the transport has taken
the datagram, so a failed sending reuses its number.
-/

/-- Ticks that pass between two copies of a handshake request. -/
def handshakeWait : Nat :=
  4

/-- A datagram being composed: what is written, and how much of that is header. -/
structure Draft where
  writer : Writer
  headerOctets : Nat
  deriving Repr, DecidableEq

/-- The id that datagrams bear: the connection's, if there is one. -/
def senderId (session : Session) : UInt8 :=
  session.connection.elim noConnectionId Connection.id

/-- Datagrams of a connection are sealed. -/
def seals (session : Session) : Bool :=
  session.senderId != noConnectionId

/-- The octets in front of those that a seal covers: the id and the seal. -/
def sealedFrom : Nat :=
  1 + 4

/-- The fields in front of every message; the seal is written as zero for now. -/
def headerFields (session : Session) : List Octets :=
  [[session.senderId]] ++
    (if session.seals then [Octets.ofWord32 0] else []) ++
    session.sendSequence.fields ++
    [Octets.ofWord16 (lowerBits session.now)]

/-- The request that opens the handshake. -/
def connectRequest (session : Session) : ConnectRequest where
  protocolVersion := Version.ofProtocol
  applicationVersion := session.settings.applicationVersion
  flags :=
    if session.settings.debugStreams then ConnectFlags.debugStreams
    else ConnectFlags.none

/-- The fields that tell the server which parts of a download are missing. -/
def downloadStatusFields (download : Download) : List Octets :=
  Command.downloadGameStateStatus.fields ++
    [Octets.ofWord16 download.channel] ++ download.assembly.ackFields

/--
The fields in front of predicted steps: the command, and which authoritative
steps are here.
-/
def stepFields (inbound : Inbound) : List Octets :=
  Command.gameStep.fields ++ inbound.window.ackFields

namespace Action

/-- Go on if the writing has succeeded. -/
def written {Result : Type}
    (writing : Except CursorError Result × Writer) :
    Action (Result × Writer) :=
  match writing with
  | (.ok result, writer) => pure (result, writer)
  | (.error failure, _) => refuse (.malformed failure)

/-- Begin a datagram with its header. -/
def beginDatagram : Action Draft := do
  let session ← current
  let (_, writer) ←
    written
      ((Writer.ofCapacity mostDatagramOctets).putAll session.headerFields)
  return ⟨writer, writer.position⟩

/-- Add the fields of a message. -/
def addFields (draft : Draft) (fields : List Octets) : Action Draft := do
  let (_, writer) ← written (draft.writer.putAll fields)
  return { draft with writer := writer }

/-- Let some ticks pass before the next sending. -/
def waitFor (ticks : Nat) : Action Unit :=
  modify fun session => { session with waitTicks := ticks }

/--
Add the request of a stage that waits for an answer, and wait
before the next one.
-/
def addRequest (draft : Draft) (fields : List Octets) : Action Draft := do
  let draft ← addFields draft fields
  waitFor handshakeWait
  return draft

/-- Add the message that asks for a snapshot or for taking part. -/
def addJoiningMessage (draft : Draft) : Action Draft := do
  let session ← current
  match session.progress with
  | .outOfSlots => return draft
  | .joined =>
      note (.stateRequested session.requestId)
      addRequest draft (DownloadRequest.fields ⟨session.requestId⟩)
  | .joining =>
      match session.joinRequest with
      | none =>
          note .noJoinRequest
          return draft
      | some request => addRequest draft request.fields

/-- Add the message by which a stage before the game makes progress. -/
def addControlMessage (draft : Draft) : Action Draft := do
  let session ← current
  match session.stage with
  | .requestingConnect =>
      note
        (.connectRequested session.connectRequest.applicationVersion
          session.connectRequest.protocolVersion)
      addRequest draft session.connectRequest.fields
  | .requestingState => addJoiningMessage draft
  | .downloadingState =>
      let draft ←
        match session.download with
        | none => pure draft
        | some download => addFields draft (downloadStatusFields download)
      waitFor 0
      return draft
  | .idle | .connected | .synced | .disconnected => return draft

/--
Add the acknowledgement of authoritative steps and the next run of
predicted ones.
-/
def addSteps (draft : Draft) : Action Draft := do
  let session ← current
  let draft ← addFields draft (stepFields session.inbound)
  let (result, writer, outbound) := session.outbound.writeRun draft.writer
  modify fun session => { session with outbound := outbound }
  let (count, writer) ← written (result, writer)
  note
    (.sendingSteps count outbound.redundancy.cursor
      session.inbound.window.expected)
  return { draft with writer := writer }

/--
The octets of a composed datagram, sealed if need be; none if there is no
message in it.
-/
def finishDatagram (draft : Draft) : Action (Option Octets) := do
  let session ← current
  if draft.writer.position ≤ draft.headerOctets then return none
  else
    match session.connection with
    | none => return some draft.writer.octets
    | some connection =>
        if session.seals then
          let covered := draft.writer.octets.drop sealedFrom
          match draft.writer.patch 1 (Seal.make connection.secret covered) with
          | .ok writer => return some writer.octets
          | .error failure => refuse (.malformed failure)
        else return some draft.writer.octets

/-- The datagram that the stage calls for, if any. -/
def compose : Action (Option Octets) := do
  let session ← current
  match session.stage with
  | .idle | .connected | .disconnected => return none
  | .synced =>
      let draft ← beginDatagram
      let draft ← addSteps draft
      finishDatagram draft
  | .requestingConnect | .requestingState | .downloadingState =>
      let draft ← beginDatagram
      let draft ← addControlMessage draft
      finishDatagram draft

/-- The transport has taken a datagram. -/
def countSent (datagram : Octets) : Action Unit :=
  modify fun session =>
    { session with
      sendSequence := session.sendSequence.advance
      traffic := session.traffic.sent datagram.length
      metrics := { session.metrics with
        datagramsOut := session.metrics.datagramsOut.add 1 } }

/-- The transport has taken the predicted steps of a synced session. -/
def commitSteps : Action Unit :=
  modify fun session =>
    { session with
      outbound := session.outbound.commit
      metrics := { session.metrics with
        outgoingQueue :=
          session.metrics.outgoingQueue.add
            (Redundancy.queueDepth session.outbound.predicted) }
      waitTicks := 0 }

/--
What follows from the transport's answer: `refusal` says why it did not
take the datagram.
-/
def concludeSending (datagram : Octets) (refusal : Option String) :
    Action Unit := do
  match refusal with
  | some failure =>
      note (.sendFailed failure)
      refuse (.transport failure)
  | none =>
      countSent datagram
      let session ← current
      if session.stage = .synced then commitSteps
      else return ()

end Action

end StepSync.Session
