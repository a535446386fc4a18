import StepSync.Session.Action

namespace StepSync.Session

/-!
# What the application asks of a session

Connecting, joining, leaving and starting over. A wish that does not fit the
stage of the session is ignored.
-/

/--
Forget the connection and everything learned from the server; settings
and clock stay.
-/
def forget (session : Session) : Session :=
  { session with
    stage := .idle
    progress := .joining
    joinRequest := none
    membership := none
    connection := none
    sendSequence := SendSequence.start
    receiveSequence := ReceiveSequence.start
    outbound := session.outbound.restart 0
    inbound := session.inbound.restart 0
    download := none
    requestId := session.requestId + 1
    snapshot := none
    health := Health.unknown
    waitTicks := 0
    lastTick := none
    tickCount := 0
    latency := none
    traffic := Traffic.none
    metrics := Metrics.startingAt session.now
    lagTrace := session.lagTrace.clear }

/-- The join request cut to as many local players as a client may have. -/
def cutJoinRequest (request : JoinRequest) : JoinRequest :=
  { request with
    localIndices := request.localIndices.take mostLocalParticipants }

namespace Action

/-- Start over. -/
def reset : Action Unit := do
  let session ← current
  note (.resetFrom session.stage)
  modify forget

/-- Leave the server; the session stays disconnected until it is reset. -/
def disconnect : Action Unit := do
  let session ← current
  if session.stage = .disconnected then return ()
  else
    note (.disconnectingFrom session.stage)
    modify fun session => { session with stage := .disconnected }

/-- Ask for a connection, if the session is idle. -/
def requestConnect : Action Unit := do
  let session ← current
  if session.stage = .idle then
    note .requestingConnect
    modify fun session =>
      { session with stage := .requestingConnect, waitTicks := 0 }
  else return ()

/-- Ask to take part, if the session is connected. -/
def beginJoin : Action Unit := do
  let session ← current
  if session.stage = .connected then
    note .joiningGame
    modify fun session =>
      { session with
        stage := .requestingState
        progress := .joining
        waitTicks := 0 }
  else return ()

/--
Say who wants to take part; local players beyond the allowed
number are left out.
-/
def assignJoinRequest (request : JoinRequest) : Action Unit := do
  let count := request.localIndices.length
  noteAll
    (if mostLocalParticipants < count then [.joinRequestCut count] else [])
  note (.joinRequestAssigned (cutJoinRequest request))
  modify fun session =>
    { session with joinRequest := some (cutJoinRequest request) }

end Action

end StepSync.Session
