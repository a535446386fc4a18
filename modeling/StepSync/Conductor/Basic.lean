import StepSync.Session.Control
import StepSync.Session.Tick

namespace StepSync

/-!
# Conducting a session towards a goal

The application says where it wants to be: in the game, or out of it. The
conductor ticks the session and takes the steps that lead there: it asks for a
connection when the session is idle and joins when it is connected.

Goal and standing are read from one scale. A cleared conductor is at rest: it is
not ticked until the application wants to join again.
-/

/-- Where a conductor stands, or where it is going. -/
inductive Standing where
  | fresh
  | renewed
  | cleared
  | synced
  | disconnected
  deriving Repr, DecidableEq

namespace Standing

/-- The standing in words. -/
def text : Standing → String
  | fresh => "init"
  | renewed => "reinit"
  | cleared => "cleared"
  | synced => "synced"
  | disconnected => "disconnected"

end Standing

/-- A session with the goal that it is conducted to. -/
structure Conductor where
  session : Session
  goal : Standing
  standing : Standing
  nextNonce : UInt64
  deriving Repr, DecidableEq

namespace Conductor

/-- What the journal hears of a conductor and its session. -/
inductive Notice where
  | session (notice : Session.Notice)
  | goal (standing : Standing)
  | disconnected (verdict : Verdict)
  | reached (standing : Standing)
  deriving Repr, DecidableEq

namespace Notice

/-- The topic of a conductor's own entries. -/
def conductorTopic (topic : Topic) : Topic :=
  topic.child "realize"

/-- The notice as entries of the journal. -/
def entries (topic : Topic) : Notice → List Entry
  | session notice => notice.entries topic
  | goal standing =>
      [⟨.debug, conductorTopic topic, "target is now " ++ standing.text⟩]
  | disconnected verdict =>
      [⟨.warn, conductorTopic topic,
        "session disconnected (" ++ verdict.text ++ ")"⟩]
  | reached standing =>
      [⟨.info, conductorTopic topic, "reached " ++ standing.text⟩]

end Notice

/-- Ticks per second while the game keeps up. -/
def normalPace : Nat :=
  60

/-- Ticks per second while authoritative steps pile up. -/
def catchUpPace : Nat :=
  70

/-- With more steps ready the game has to catch up. -/
def readyStepsAtPace : Nat :=
  2

/-- The advised number of ticks per second. -/
def pace (conductor : Conductor) : Nat :=
  if readyStepsAtPace < conductor.session.inbound.ready.length then catchUpPace
  else normalPace

/-- A conductor of a new session, with no goal yet. -/
def ofSession : Session × List Session.Notice → Conductor × List Notice
  | (session, notices) =>
      (⟨session, .fresh, .fresh, 1⟩, notices.map Notice.session)

/-- A new conductor of a new session, whatever the length of a step is. -/
def create (settings : Settings) : Conductor × List Notice :=
  ofSession (Session.create settings)

/-- A new conductor, if there is a session for it. -/
def create? (settings : Settings) : Option (Conductor × List Notice) :=
  (Session.create? settings).map ofSession

/-- Do something to the session. -/
def perform {Result : Type} (conductor : Conductor)
    (action : Session.Action Result) :
    Conductor × List Notice :=
  let outcome := action conductor.session
  ({ conductor with session := outcome.session },
    outcome.notices.map Notice.session)

/-- Start over without a goal. -/
def reinit (conductor : Conductor) : Conductor × List Notice :=
  let (after, notices) := conductor.perform Session.Action.reset
  ({ after with goal := .fresh, standing := .renewed }, notices)

/-- Start over and come to rest; the goal stays. -/
def reset (conductor : Conductor) : Conductor × List Notice :=
  let (after, notices) := conductor.perform Session.Action.reset
  ({ after with standing := .cleared }, notices)

/-- Aim for the game with some local players. A conductor at rest gets up. -/
def joinGame (conductor : Conductor) (localIndices : Octets) :
    Conductor × List Notice :=
  let (after, notices) :=
    conductor.perform
      (Session.Action.assignJoinRequest ⟨conductor.nextNonce, localIndices⟩)
  ({ after with
      nextNonce := conductor.nextNonce + 1
      standing :=
        if conductor.standing = .cleared then .fresh
        else conductor.standing
      goal := .synced },
    notices ++ [.goal .synced])

/-- Leave the server, and aim for rest. -/
def quitGame (conductor : Conductor) : Conductor × List Notice :=
  let (after, notices) := conductor.perform Session.Action.disconnect
  ({ after with goal := .cleared }, notices ++ [.goal .cleared])

/-- Take the step that leads towards the goal, after a tick that went well. -/
def advance (conductor : Conductor) : Conductor × List Notice :=
  if conductor.standing = conductor.goal then (conductor, [])
  else
    match conductor.goal with
    | .synced =>
        match conductor.session.stage with
        | .idle => conductor.perform Session.Action.requestConnect
        | .connected => conductor.perform Session.Action.beginJoin
        | .synced =>
            ({ conductor with standing := .synced }, [.reached .synced])
        | _ => (conductor, [])
    | .cleared => ({ conductor with standing := .cleared }, [])
    | .fresh | .renewed | .disconnected => (conductor, [])

/--
What an update leaves: the conductor, the notices, the arrivals not
looked at, the datagram offered to the transport, and the refusal of the
tick if there is one.
-/
structure Update where
  conductor : Conductor
  notices : List Notice
  left : List Session.Arrival
  offered : Option Octets
  result : Except Refusal Unit

/--
One update at a time given in milliseconds. The session is ticked unless it is
disconnected, the conductor rests, or there is no goal.
-/
def update (conductor : Conductor) (now : Nat) (wire : Session.Wire) :
    Update :=
  if conductor.session.stage = .disconnected then
    ⟨{ conductor with standing := .disconnected },
      if conductor.standing = .disconnected then []
      else [.disconnected conductor.session.health.verdict],
      wire.arrivals, none, .ok ()⟩
  else if conductor.standing = .cleared ∨ conductor.goal = .fresh then
    let (after, notices) := conductor.advance
    ⟨after, notices, wire.arrivals, none, .ok ()⟩
  else
    let tick := conductor.session.tick now wire
    let ticked := { conductor with session := tick.outcome.session }
    let tickNotices := tick.outcome.notices.map Notice.session
    match tick.outcome.result with
    | .error refusal =>
        ⟨ticked, tickNotices, tick.left, tick.offered, .error refusal⟩
    | .ok _ =>
        let (after, notices) := ticked.advance
        ⟨after, tickNotices ++ notices, tick.left, tick.offered, .ok ()⟩

end Conductor

end StepSync
