import StepSync.Session.Reception
import StepSync.Session.Transmission

namespace StepSync.Session

/-!
# Ticks

The application calls for a tick at regular times. A tick receives all that has
arrived, judges the link of a synced session, and sends at most one datagram. A
failure of the transport ends the tick where it happens.
-/

/-- What the transport gives when it is asked for a datagram. -/
inductive Arrival where
  | datagram (octets : Octets)
  | failure (message : String)
  deriving Repr, DecidableEq

/--
The transport during one tick: what has arrived, and why it will not send,
if it will not.
-/
structure Wire where
  arrivals : List Arrival
  refusal : Option String
  deriving Repr, DecidableEq

/-- What receiving leaves: the outcome, and the arrivals that were not looked at. -/
structure Reception where
  outcome : Outcome Unit
  left : List Arrival

/--
What a tick leaves: the outcome, the arrivals not looked at, and the datagram
offered to the transport.
-/
structure Tick where
  outcome : Outcome Unit
  left : List Arrival
  offered : Option Octets

/-- The statistics are told to the journal after so many ticks. -/
def statisticsInterval : Nat :=
  601

/-- The notices of a datagram that was received in a tick, its refusal included. -/
def receiveNotices (outcome : Outcome Unit) : List Notice :=
  outcome.notices ++
    match outcome.result with
    | .ok _ => []
    | .error refusal => [.datagramRefused refusal]

/--
Receive what has arrived, in order. An empty datagram is as good as none, and
ends the receiving; a failure of the transport ends it with a refusal.
-/
def receiveAll : List Arrival → Session → Reception
  | [], session => ⟨⟨session, [], .ok ()⟩, []⟩
  | .failure message :: left, session =>
      ⟨⟨session, [.receiveFailed message], .error (.transport message)⟩,
        left⟩
  | .datagram octets :: left, session =>
      if octets.isEmpty then ⟨⟨session, [], .ok ()⟩, left⟩
      else
        let outcome := session.receive (octets.take mostDatagramOctets)
        let rest := receiveAll left outcome.session
        { rest with
          outcome := { rest.outcome with
            notices := receiveNotices outcome ++ rest.outcome.notices } }

namespace Action

/--
Measure how long the last tick took; a long or short one is told to the journal.
-/
def measureTick (now : Nat) : Action Unit := do
  let session ← current
  match session.lastTick with
  | none => return ()
  | some lastTick =>
      let elapsed := now - lastTick
      let expected := session.settings.tickDuration.toNat
      let deviation := max (elapsed - expected) (expected - elapsed)
      modify fun session =>
        { session with
          metrics := { session.metrics with
            tickDuration :=
              session.metrics.tickDuration.add
                (Metrics.timeSample elapsed) } }
      noteAll
        (if session.settings.tickTolerance.toNat < deviation then
          [.tickOffBeat elapsed expected]
        else [])

/-- Begin a tick: set the clock. -/
def beginTick (now : Nat) : Action Unit := do
  measureTick now
  modify fun session =>
    { session with
      lastTick := some now
      now := now
      tickCount := session.tickCount + 1 }

/-- Judge the link of a synced session. The result says whether the tick goes on. -/
def judgeLink : Action Bool := do
  let session ← current
  if session.stage = .synced then
    updateHealth Health.tick
    let session ← current
    if session.health.isGivenUp then
      note (.linkGivenUp session.health.verdict)
      modify fun session => { session with stage := .disconnected }
      return false
    else return true
  else return true

/-- Let a tick of waiting pass. The result says whether the waiting is over. -/
def passWaiting : Action Bool := do
  modify fun session => { session with waitTicks := session.waitTicks - 1 }
  let session ← current
  return session.waitTicks == 0

/--
Bring the rates up to date, and tell the journal the statistics when it is time.
-/
def updateMetrics (now : Nat) : Action Unit := do
  modify fun session =>
    { session with metrics := session.metrics.updateRates now }
  let session ← current
  noteAll
    (if session.tickCount % statisticsInterval = 0 then
      [.statistics session.metrics session.health]
    else [])

/--
What a tick does between receiving and sending; the result is the
datagram to be sent.
-/
def prepareSending (now : Nat) : Action (Option Octets) := do
  if ← judgeLink then
    if ← passWaiting then
      updateMetrics now
      compose
    else return none
  else return none

end Action

/-- One tick at a time given in milliseconds. -/
def tick (session : Session) (now : Nat) (wire : Wire) : Tick :=
  let begun := Action.beginTick now session
  let reception := receiveAll wire.arrivals begun.session
  let received := reception.outcome
  let receivedNotices := begun.notices ++ received.notices
  match received.result with
  | .error refusal =>
      ⟨⟨received.session, receivedNotices, .error refusal⟩, reception.left,
        none⟩
  | .ok _ =>
      let prepared := Action.prepareSending now received.session
      let preparedNotices := receivedNotices ++ prepared.notices
      match prepared.result with
      | .error refusal =>
          ⟨⟨prepared.session, preparedNotices, .error refusal⟩,
            reception.left, none⟩
      | .ok none =>
          ⟨⟨prepared.session, preparedNotices, .ok ()⟩, reception.left, none⟩
      | .ok (some datagram) =>
          let concluded :=
            Action.concludeSending datagram wire.refusal prepared.session
          ⟨⟨concluded.session, preparedNotices ++ concluded.notices,
              concluded.result⟩,
            reception.left, some datagram⟩

end StepSync.Session
