import StepSync.Message.Download
import StepSync.Message.Handshake
import StepSync.Message.StepExchange
import StepSync.Digest.Seal
import StepSync.Session.Latency

namespace StepSync.Session

/-!
# Receiving datagrams

A datagram is looked at from the outside in: its length, its connection, its
seal, its place in the sequence, an echoed time if there is one, and its command
with the message behind it. Whatever does not fit is refused. What an outer layer
has established stays also when an inner one is refused: a datagram with a good
seal and number counts as received, and a step report takes effect before the
steps behind it are looked at.

Octets behind a message are tolerated.
-/

namespace Action

/-- The server has accepted the connection. -/
def acceptConnection (response : ConnectResponse) : Action Unit := do
  let session ← current
  if session.stage ≠ .requestingConnect then
    note (.connectResponseIgnored session.stage)
  else if response.connectionId = noConnectionId then
    refuse (.unexpected .noConnectionId)
  else
    let debugStreams := response.flags.usesDebugStreams
    modify fun session =>
      { session with
        connection :=
          some ⟨response.connectionId, response.secret, debugStreams⟩
        receiveSequence := ReceiveSequence.start
        stage := .connected
        waitTicks := 0 }
    note (.connected response.connectionId debugStreams)

/--
The server has let the local players join, if it answers the request they made.
-/
def acceptMembership (response : JoinResponse) : Action Unit := do
  let session ← current
  let requested := session.joinRequest.map JoinRequest.nonce
  let count := response.participants.length
  if session.progress ≠ .joining then
    note (.joinResponseIgnored session.progress)
  else if requested ≠ some response.nonce then
    note (.joinNonceDiffers response.nonce requested)
  else if mostLocalParticipants < count ∨
      session.settings.participants.toNat < count then
    refuse (.tooManyParticipants count)
  else
    noteAll (response.participants.map Notice.participantAssigned)
    modify fun session =>
      { session with
        membership :=
          some ⟨response.participants, response.connectionIndex,
            response.sessionSecret⟩
        progress := .joined
        download := none
        waitTicks := 0 }
    note (.joined count response.connectionIndex)

/-- The server has no slot left. -/
def acceptOutOfSlots (answer : OutOfSlots) : Action Unit := do
  note (.outOfSlots answer.nonce)
  modify fun session => { session with progress := .outOfSlots }

/-- Go on from the downloaded snapshot, if this was its last part. -/
def finishDownload : Action Unit := do
  let session ← current
  match session.download with
  | none => return ()
  | some download =>
      if download.assembly.isComplete then
        match download.snapshot? with
        | none => return ()
        | some snapshot =>
            if session.stage = .synced then return ()
            else
              modify fun session =>
                { session with
                  outbound := session.outbound.restart snapshot.stepId
                  inbound := session.inbound.restart snapshot.stepId
                  health := Health.unknown
                  snapshot := some snapshot
                  stage := .synced
                  waitTicks := 0 }
              note (.downloadFinished snapshot.octets.length snapshot.stepId)
      else
        note (.chunksMissing download.assembly.waitingFor
          download.assembly.laterMask)

/-- The server has announced the snapshot that was asked for. -/
def acceptDownload (response : DownloadResponse) : Action Unit := do
  let session ← current
  let octets := response.octetCount.toNat
  let limit := session.settings.snapshotOctets.toNat
  if session.download.any fun download =>
      download.channel == response.channel then
    note (.channelKnown response.channel)
  else if session.stage ≠ .requestingState ∨ session.progress ≠ .joined then
    note (.downloadResponseIgnored session.stage session.progress)
  else if response.requestId ≠ session.requestId then
    refuse (.unexpected .otherRequest)
  else if limit < octets then
    note (.snapshotTooLarge octets limit)
    refuse (.unexpected .snapshotTooLarge)
  else
    note (.downloadStarted response.stepId octets response.channel)
    modify fun session =>
      { session with
        download :=
          some (Download.announced response.channel response.stepId octets)
        outbound := session.outbound.restart response.stepId
        stage := .downloadingState
        waitTicks := 0 }
    finishDownload

/-- A part of the snapshot has come, if it is one of the download under way. -/
def acceptPart (reader : Reader) : Action Reader := do
  let (channel, reader) ← decoded Decoder.word16 reader
  let session ← current
  match session.download with
  | none => refuse (.unexpected .partWithoutDownload)
  | some download =>
      if download.channel ≠ channel then
        refuse (.unexpected .partOnOtherChannel)
      else
        match Chunk.decode reader with
        | (.error failure, _) => refuse (.chunk (.malformed failure))
        | (.ok chunk, reader) =>
            match download.assembly.insert chunk with
            | .error failure => refuse (.chunk failure)
            | .ok (receipt, assembly) =>
                modify fun session =>
                  { session with
                    download := some { download with assembly := assembly } }
                noteAll
                  (if receipt = .repeated then [.chunkRepeated chunk.index]
                  else [])
                finishDownload
                return reader

/--
The report in front of authoritative steps: measurements, and which predicted
steps the server has.
-/
def acceptReport (report : StepReport) (datagramOctets : Nat) :
    Action Unit := do
  modify fun session =>
    { session with
      metrics := { session.metrics with
        serverBuffer :=
          session.metrics.serverBuffer.add report.bufferCount.toNat
        bufferDelta :=
          session.metrics.bufferDelta.add report.bufferDelta.toInt } }
  measureLatency report.echoedTime
  let session ← current
  modify fun session =>
    { session with
      lagTrace := session.lagTrace.received session.latency datagramOctets
      outbound := session.outbound.acknowledge report.lastPredicted }
  note
    (.predictedAcknowledged report.lastPredicted
      (session.outbound.acknowledgedCount report.lastPredicted))

/-- What the journal hears of a step that was not stored. -/
def receiptNotices (expected : StepId) (step : Step) :
    ReceiveWindow.Receipt → List Notice
  | .stored => []
  | .repeated => [.stepRepeated step.id]
  | .outside => [.stepOutside step.id expected]

/--
Authoritative steps have come: store the new ones, and release what is complete.
-/
def acceptSteps (steps : List Step) : Action Unit := do
  let session ← current
  let window := session.inbound.window
  let (receipts, after) := window.receiveAll steps
  let stored := receipts.count .stored
  modify fun session =>
    { session with inbound := { session.inbound with window := after } }
  noteAll
    (List.zipWith (receiptNotices window.expected) steps receipts).flatten
  match Inbound.release { session.inbound with window := after } with
  | .error failure => refuse (.step failure)
  | .ok (released, inbound) =>
      modify fun session =>
        { session with
          inbound := inbound
          health := session.health.receivedSteps stored
          metrics := { session.metrics with
            readySteps := session.metrics.readySteps.add inbound.ready.length
            stepsIn := session.metrics.stepsIn.add stored } }
      note (.stepsTaken stored released inbound.ready.length)

/-- A step report with the authoritative steps behind it. -/
def acceptStepResponse (reader : Reader) : Action Reader := do
  let (report, reader) ← decoded StepReport.decode reader
  acceptReport report reader.size
  let (steps, reader) ← decoded StepRun.decode reader
  acceptSteps steps
  return reader

/-- Take a whole message, and act on it. -/
def acceptMessage {Message : Type} (decoder : Decoder Message)
    (accept : Message → Action Unit) (reader : Reader) : Action Reader := do
  let (message, reader) ← decoded decoder reader
  accept message
  return reader

/-- Act on the message behind a command. -/
def acceptCommand (command : Command) (reader : Reader) : Action Reader :=
  match command with
  | .connectResponse =>
      acceptMessage ConnectResponse.decode acceptConnection reader
  | .joinGameResponse =>
      acceptMessage JoinResponse.decode acceptMembership reader
  | .joinGameOutOfParticipantSlots =>
      acceptMessage OutOfSlots.decode acceptOutOfSlots reader
  | .downloadGameStateResponse =>
      acceptMessage DownloadResponse.decode acceptDownload reader
  | .gameStatePart => acceptPart reader
  | .gameStepResponse => acceptStepResponse reader
  | .joinGameRequest | .gameStep | .downloadGameStateRequest
  | .downloadGameStateStatus | .connectRequest =>
      refuse (.unexpected .clientCommand)

/-- Tell the journal of octets behind the message. -/
def noteUnread (command : Command) (reader : Reader) : Action Unit :=
  noteAll
    (if reader.isConsumed then []
    else [.leftUnread command reader.remaining])

/--
A datagram outside any connection: only the answer to a connect
request is taken.
-/
def acceptOutOfBand (reader : Reader) : Action Unit := do
  let (_, reader) ← decoded Decoder.word16 reader
  let (code, reader) ← decoded Decoder.octet reader
  if Command.ofCode? code = some .connectResponse then
    let reader ← acceptCommand .connectResponse reader
    noteUnread .connectResponse reader
  else refuse (.outOfBand code)

/-- Take the seal, which has to be the connection's over all octets behind it. -/
def checkSeal (secret : UInt64) (reader : Reader) : Action Reader := do
  let (claimed, reader) ← decoded Decoder.word32 reader
  if Seal.verifies secret claimed reader.rest then return reader
  else refuse .brokenSeal

/-- Datagrams were skipped in the sequence. -/
def countLost (lost : Nat) : Action Unit := do
  updateHealth fun health => health.dropped lost
  modify fun session =>
    { session with
      lagTrace := session.lagTrace.dropped lost
      traffic := session.traffic.lost lost }

/-- Take the sequence number, which has to lie ahead of the last accepted one. -/
def checkSequence (reader : Reader) : Action Reader := do
  let (number, reader) ← decoded Decoder.word16 reader
  let session ← current
  let distance := session.receiveSequence.distance number
  modify fun session =>
    { session with
      receiveSequence := session.receiveSequence.accept number }
  if distance ≤ 0 then refuse (.stale distance)
  else
    countLost (distance - 1).toNat
    modify fun session =>
      { session with health := session.health.receivedDatagram }
    return reader

/-- Take an echoed time, if the marker announces one. -/
def takeEcho (reader : Reader) : Action Reader :=
  match reader.peek with
  | .error failure => refuse (.malformed failure)
  | .ok octet =>
      if octet = pongMarker then do
        let (_, reader) ← decoded (Decoder.marker pongMarker) reader
        let (bits, reader) ← decoded Decoder.word16 reader
        measureLatency bits
        return reader
      else return reader

/-- Take the command, and act on the message behind it. -/
def takeCommand (reader : Reader) : Action Unit := do
  let (code, reader) ← decoded Decoder.octet reader
  match Command.ofCode? code with
  | none => refuse (.unknownCommand code)
  | some command =>
      note (.commandReceived command)
      let reader ← acceptCommand command reader
      noteUnread command reader

/-- A datagram that names a connection: it has to be the session's own. -/
def acceptConnected (id : UInt8) (reader : Reader) : Action Unit := do
  let session ← current
  match session.connection with
  | none => refuse (.foreign none id)
  | some connection =>
      if connection.id ≠ id then refuse (.foreign (some connection.id) id)
      else if session.stage = .disconnected then refuse .disconnected
      else
        let reader ← checkSeal connection.secret reader
        let reader ← checkSequence reader
        let reader ← takeEcho reader
        takeCommand reader

/-- Act on a datagram. -/
def acceptDatagram (datagram : Octets) : Action Unit := do
  if datagram.length < fewestDatagramOctets then
    refuse (.tooShort datagram.length)
  else
    let (id, reader) ← decoded Decoder.octet (Reader.ofOctets datagram)
    if id = noConnectionId then acceptOutOfBand reader
    else acceptConnected id reader

end Action

/-- A datagram has come, whatever is in it. -/
def countArrival (session : Session) (datagram : Octets) : Session :=
  { session with
    traffic := session.traffic.received datagram.length
    metrics := { session.metrics with
      datagramsIn := session.metrics.datagramsIn.add 1 } }

/-- A datagram that came was refused. -/
def countRefused (session : Session) : Session :=
  { session with traffic := session.traffic.rejected }

/-- Receive one datagram: it is counted, and acted on unless it is refused. -/
def receive (session : Session) (datagram : Octets) : Outcome Unit :=
  let outcome := Action.acceptDatagram datagram (session.countArrival datagram)
  match outcome.result with
  | .ok _ => outcome
  | .error _ => { outcome with session := outcome.session.countRefused }

end StepSync.Session
