import StepSync.Datagram.Sequence
import StepSync.Download.Basic
import StepSync.Measure.LagTrace
import StepSync.Measure.Traffic
import StepSync.Session.Notice
import StepSync.Steps.Inbound
import StepSync.Steps.Outbound

namespace StepSync

/-!
# Sessions

A session is the client's side of one game on one server. It is a value: what the
clock says, which datagrams arrive and whether sending fails are inputs of its
transitions, and the datagrams it sends are outputs.
-/

/-- What the server has assigned when it accepted the connection. -/
structure Connection where
  id : UInt8
  secret : UInt64
  debugStreams : Bool
  deriving Repr, DecidableEq

/-- What the server has assigned when the local players joined. -/
structure Membership where
  participants : List Participant
  connectionIndex : UInt8
  sessionSecret : UInt64
  deriving Repr, DecidableEq

/-- The whole state of a session. -/
structure Session where
  settings : Settings
  stage : Stage
  progress : JoinProgress
  joinRequest : Option JoinRequest
  membership : Option Membership
  connection : Option Connection
  sendSequence : SendSequence
  receiveSequence : ReceiveSequence
  outbound : Outbound
  inbound : Inbound
  download : Option Download
  requestId : UInt8
  snapshot : Option Snapshot
  health : Health
  waitTicks : Nat
  now : Nat
  lastTick : Option Nat
  tickCount : Nat
  latency : Option Nat
  traffic : Traffic
  metrics : Metrics
  lagTrace : LagTrace
  deriving Repr, DecidableEq

namespace Session

/-- An idle session with settings that are in range already. -/
def idle (settings : Settings) : Session where
  settings := settings
  stage := .idle
  progress := .joining
  joinRequest := none
  membership := none
  connection := none
  sendSequence := SendSequence.start
  receiveSequence := ReceiveSequence.start
  outbound := Outbound.startingAt 0 settings.predictedSteps.toNat
  inbound := Inbound.startingAt 0
  download := none
  requestId := 0
  snapshot := none
  health := Health.unknown
  waitTicks := 0
  now := 0
  lastTick := none
  tickCount := 0
  latency := none
  traffic := Traffic.none
  metrics := Metrics.startingAt 0
  lagTrace := LagTrace.ofCapacity LagTrace.standardCapacity

/--
A session with settings that were brought into range, and what there is
to say about it.
-/
def ofClamped : Settings × List Settings.Notice → Session × List Notice
  | (inRange, notices) =>
      (idle inRange, notices.map Notice.settings ++ [.created inRange])

/-- A new session, whatever the length of a step is. -/
def create (settings : Settings) : Session × List Notice :=
  ofClamped settings.clamp

/--
A new session, if its settings can be brought into range.  There is memory for every
number of predicted steps.
-/
def create? (settings : Settings) : Option (Session × List Notice) :=
  settings.clamp?.map ofClamped

/-- The topic of the session's journal entries. -/
def topic (session : Session) : Topic :=
  session.settings.topic

/-- The local players and the participants they have become. -/
def participants (session : Session) : List Participant :=
  session.membership.elim [] Membership.participants

/-- The participant that a local player has become. -/
def findParticipant (session : Session) (localIndex : UInt8) : Option UInt8 :=
  (session.participants.find? fun participant =>
    participant.localIndex == localIndex).map Participant.id

/-- The connection is to be used with debug streams. -/
def usesDebugStreams (session : Session) : Bool :=
  session.connection.any Connection.debugStreams

end Session

end StepSync
