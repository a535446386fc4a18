import StepSync.Proofs.Conductor.Host
import StepSync.Proofs.Session.Acknowledgement
import StepSync.Proofs.Session.GivingUp
import StepSync.Proofs.Session.Predicted
import StepSync.Proofs.Session.Refused
import StepSync.Proofs.Session.Turn

namespace StepSync

/-!
# A turn before the game

While a conductor is on its way to the game (`Meeting.Underway`), a turn first
receives what the host has sent (`Meeting.Receives`); then the session sends what
is due, the conductor leads it on from where it can (`Situation.led`), and the
host answers (`Meeting.Underway.turn`).
-/

namespace Situation

/-- Where a conductor leads that aims for the game. -/
def led (situation : Situation) : Situation :=
  match situation.stage with
  | .idle => situation.ask .requestConnect
  | .connected => situation.ask .beginJoin
  | _ => situation

end Situation

namespace Session

theorem receiveSequence_beginTick (now : Nat) (session : Session) :
    (Action.beginTick now session).session.receiveSequence =
      session.receiveSequence := by
  obtain ⟨_, begun⟩ := session_beginTick now session
  rw [begun]

theorem refusedCount_beginTick (now : Nat) (session : Session) :
    (Action.beginTick now session).session.refusedCount =
      session.refusedCount := by
  obtain ⟨_, begun⟩ := session_beginTick now session
  rw [begun]
  rfl

/--
A datagram that changes the situation was not refused, unless its steps
could not be read.
-/
theorem refusedCount_of_changed
    {session : Session}
    (goesOn : session.inbound.ready.nextId = session.inbound.window.expected)
    {datagram : Octets}
    (read : ∀ report, session.delivery datagram ≠ .report report)
    (changed :
      session.situation.accept (session.delivery datagram) ≠
        session.situation) :
    (session.receive datagram).session.refusedCount =
      session.refusedCount := by
  rw [refusedCount_receive]
  cases outcome : (session.receive datagram).result with
  | ok _ => rfl
  | error refusal =>
      have unchanged :=
        (handled_receive goesOn datagram).unchanged read refusal outcome
      rw [situation_receive] at unchanged
      exact absurd unchanged changed

/-- What was offered is read back. -/
theorem Turns.ofDatagram?_offered
    {session : Session}
    {ended : Tick}
    (turns : Turns session ended)
    (composable : session.situation.Composable)
    (coherent : session.situation.Coherent) :
    ended.offered.bind ClientMessage.ofDatagram? =
      session.situation.dueMessage? := by
  rw [turns.offered]
  cases due : session.situation.dueMessage? with
  | none => rfl
  | some message =>
      have named := named_of_coherent coherent (present_of_due due)
      exact ofDatagram?_framed named (composable.fits due).1 _ _

end Session

namespace Conductor

/-- What the step towards the game comes to before the session is synced. -/
structure Leads (before after : Conductor) : Prop where
  goal : after.goal = before.goal
  standing : after.standing = before.standing
  situation : after.session.situation = before.session.situation.led
  receiveSequence :
    after.session.receiveSequence = before.session.receiveSequence
  refusedCount : after.session.refusedCount = before.session.refusedCount

theorem leads_advance
    {conductor : Conductor}
    (goal : conductor.goal = .synced)
    (standing : conductor.standing = .fresh)
    (unsynced : conductor.session.stage ≠ .synced) :
    Leads conductor conductor.advance.1 := by
  have apart : conductor.standing ≠ conductor.goal := by
    rw [goal, standing]
    decide
  have stageOf : conductor.session.situation.stage = conductor.session.stage :=
    rfl
  rw [advance, if_neg apart, goal]
  cases stage : conductor.session.stage with
  | idle =>
      have asked := Session.situation_ask conductor.session .requestConnect
      refine ⟨rfl, rfl, ?_, ?_, ?_⟩
      · rw [Situation.led, stageOf, stage]
        exact asked
      · simp [perform, Session.Action.requestConnect,
          Session.Action.session_bind, stage]
      · simp [perform, Session.Action.requestConnect,
          Session.Action.session_bind, stage, Session.refusedCount]
  | connected =>
      have asked := Session.situation_ask conductor.session .beginJoin
      refine ⟨rfl, rfl, ?_, ?_, ?_⟩
      · rw [Situation.led, stageOf, stage]
        exact asked
      · simp [perform, Session.Action.beginJoin,
          Session.Action.session_bind, stage]
      · simp [perform, Session.Action.beginJoin,
          Session.Action.session_bind, stage, Session.refusedCount]
  | synced => exact absurd stage unsynced
  | requestingConnect =>
      exact ⟨rfl, rfl, by rw [Situation.led, stageOf, stage], rfl, rfl⟩
  | requestingState =>
      exact ⟨rfl, rfl, by rw [Situation.led, stageOf, stage], rfl, rfl⟩
  | downloadingState =>
      exact ⟨rfl, rfl, by rw [Situation.led, stageOf, stage], rfl, rfl⟩
  | disconnected =>
      exact ⟨rfl, rfl, by rw [Situation.led, stageOf, stage], rfl, rfl⟩

end Conductor

namespace Host

/--
The numbering of what a client has received that received all that was sent
within its connection.
-/
def heard (host : Host) : Nat → ReceiveSequence
  | 0 => ReceiveSequence.start
  | sent + 1 => ⟨some (host.number sent)⟩

theorem ahead_number (host : Host) (sent : Nat) :
    0 < (host.heard sent).distance (host.number sent) := by
  cases sent with
  | zero => exact Int.one_pos
  | succ sent =>
      rw [heard, distance_number]
      exact Int.one_pos

end Host

namespace Meeting

/-- The session that is conducted. -/
def session (meeting : Meeting) : Session :=
  meeting.conductor.session

/-- The session in a turn, once it has received what the host has sent. -/
def received (meeting : Meeting) (now : Nat) : Session :=
  meeting.session.afterReceiving now ⟨meeting.inbox, none⟩

/-- The conductor is on its way to the game, and nothing was refused so far. -/
structure Underway (settings : Settings) (meeting : Meeting) : Prop where
  reached : ∃ events,
    meeting.session = (Session.create settings).1.afterAll events
  goal : meeting.conductor.goal = .synced
  standing : meeting.conductor.standing = .fresh
  refusedCount : meeting.session.refusedCount = 0
  refusals : meeting.refusals = []

theorem Underway.sound
    {settings : Settings}
    {meeting : Meeting}
    (underway : Underway settings meeting) :
    Session.Sound meeting.session := by
  obtain ⟨events, reached⟩ := underway.reached
  rw [reached]
  exact ⟨Session.coherent_afterAll settings events, _,
    Session.tracks_afterAll settings events⟩

/--
What the host has sent is received whole and heeded, and comes to a situation.
-/
structure Receives
    (host : Host)
    (meeting : Meeting)
    (now : Nat)
    (situation : Situation) :
    Prop where
  whole : Session.failure? meeting.inbox = none
  nothingLeft : ∀ session,
    (Session.receiveAll meeting.inbox session).left = []
  comesTo : (meeting.received now).situation = situation
  heard : (meeting.received now).receiveSequence = host.heard meeting.sent
  heeded : (meeting.received now).refusedCount =
    meeting.session.refusedCount

namespace Receives

variable {host : Host} {meeting : Meeting} {situation : Situation}

/-- Nothing was sent. -/
theorem of_nothing
    (inbox : meeting.inbox = [])
    (heard : meeting.session.receiveSequence = host.heard meeting.sent)
    (now : Nat) :
    Receives host meeting now meeting.session.situation := by
  have received : meeting.received now =
      (Session.Action.beginTick now meeting.session).session := by
    rw [received, inbox]
    rfl
  constructor
  · rw [inbox]
    rfl
  · intro session
    rw [inbox]
    rfl
  · rw [received, Session.situation_beginTick]
  · rw [received, Session.receiveSequence_beginTick, heard]
  · rw [received, Session.refusedCount_beginTick]

/-- One datagram was sent, and what it brings changes the situation. -/
theorem of_datagram
    {settings : Settings}
    (underway : Underway settings meeting)
    {datagram : Octets}
    (inbox : meeting.inbox = [.datagram datagram])
    (notEmpty : datagram ≠ [])
    (short : datagram.length ≤ mostDatagramOctets)
    {delivery : Delivery}
    (brings : ∀ session : Session,
      session.situation = meeting.session.situation →
        session.receiveSequence = meeting.session.receiveSequence →
          session.delivery datagram = delivery ∧
            (session.receive datagram).session.receiveSequence =
              host.heard meeting.sent)
    (read : ∀ report, delivery ≠ .report report)
    (changed :
      meeting.session.situation.accept delivery ≠
        meeting.session.situation)
    (now : Nat) :
    Receives host meeting now
      (meeting.session.situation.accept delivery) := by
  have nonempty : datagram.isEmpty = false := by
    simpa using notEmpty
  have taken : datagram.take mostDatagramOctets = datagram :=
    List.take_of_length_le short
  have received : meeting.received now =
      ((Session.Action.beginTick now meeting.session).session.receive
        datagram).session := by
    rw [received, inbox]
    simp [Session.afterReceiving, Session.datagrams, nonempty, taken,
      Session.after]
  have situation := Session.situation_beginTick now meeting.session
  have sequence := Session.receiveSequence_beginTick now meeting.session
  have count := Session.refusedCount_beginTick now meeting.session
  generalize (Session.Action.beginTick now meeting.session).session = begun
    at received situation sequence count
  obtain ⟨delivers, heard⟩ := brings begun situation sequence
  have goesOn :
      begun.inbound.ready.nextId = begun.inbound.window.expected := by
    have same : begun.inbound = meeting.session.inbound :=
      congrArg Situation.inbound situation
    rw [same]
    exact underway.sound.goesOn
  constructor
  · rw [inbox]
    simp [Session.failure?, nonempty]
  · intro session
    rw [inbox]
    simp [Session.receiveAll, nonempty]
  · rw [received, Session.situation_receive, delivers, situation]
  · rw [received, heard]
  · rw [received, ← count]
    refine Session.refusedCount_of_changed goesOn ?_ ?_
    · rw [delivers]
      exact read
    · rw [delivers, situation]
      exact changed

/-- What the tick of the turn comes to, seen from its end. -/
theorem tick
    {now : Nat}
    (receives : Receives host meeting now situation) :
    let tick := meeting.session.tick now ⟨meeting.inbox, none⟩
    let ended := (meeting.received now).endTick now none
    tick.left = [] ∧
      tick.offered = ended.offered ∧
      tick.outcome.result = ended.outcome.result ∧
      tick.outcome.session = ended.outcome.session := by
  obtain ⟨session, result, offered⟩ :=
    @Session.tick_of_received ⟨meeting.inbox, none⟩ receives.whole
      meeting.session now
  refine ⟨?_, offered, result, session⟩
  have left := receives.nothingLeft
    (Session.Action.beginTick now meeting.session).session
  unfold Session.tick
  dsimp only
  split
  · exact left
  · split <;> exact left

end Receives

namespace Underway

variable
  {settings : Settings}
  {host : Host}
  {meeting : Meeting}
  {now : Nat}
  {situation : Situation}

/-- The received session has come from a new one, too. -/
theorem exists_received (underway : Underway settings meeting) (now : Nat) :
    ∃ events,
      meeting.received now =
        (Session.create settings).1.afterAll events := by
  obtain ⟨events, reached⟩ := underway.reached
  refine ⟨events ++
    (.tickBegun now :: (Session.datagrams meeting.inbox).map .received), ?_⟩
  rw [received, Session.afterReceiving, reached, Session.afterAll_append]

/-- The conductor ticks its session. -/
theorem not_idles
    (underway : Underway settings meeting)
    (present : meeting.session.stage ≠ .disconnected) :
    ¬meeting.conductor.Idles := by
  unfold Conductor.Idles
  rw [underway.goal, underway.standing]
  simpa [session] using present

/--
A turn whose tick goes well takes the step towards the game, and the host
answers what was offered.
-/
theorem ticks
    (underway : Underway settings meeting)
    (present : meeting.session.stage ≠ .disconnected)
    (receives : Receives host meeting now situation)
    (succeeds :
      ((meeting.received now).endTick now none).outcome.result = .ok ()) :
    let ended := (meeting.received now).endTick now none
    let after := meeting.turn host now
    after.conductor =
        { meeting.conductor with
          session := ended.outcome.session }.advance.1 ∧
      (after.sent, after.inbox) =
        (let (sent, answers) :=
          host.react meeting.sent
            (ended.offered.bind ClientMessage.ofDatagram?)
        (sent, answers.map .datagram)) ∧
      after.refusals = meeting.refusals := by
  obtain ⟨left, offered, result, ended⟩ := receives.tick
  obtain ⟨updateLeft, updateOffered, updateResult, updated⟩ :=
    Conductor.update_of_ticked (underway.not_idles present) now
      ⟨meeting.inbox, none⟩
  unfold session at left offered result ended
  rw [Conductor.ticked, ended, result, succeeds] at updated
  rw [result, succeeds] at updateResult
  rw [left] at updateLeft
  rw [offered] at updateOffered
  dsimp only
  refine ⟨updated, ?_, ?_⟩
  · simp [turn, updateLeft, updateOffered]
  · simp [turn, updateResult]

/-- The events of a turn leave the session that the turn leaves. -/
theorem exists_turned (underway : Underway settings meeting) :
    ∃ events,
      (meeting.turn host now).session =
        (Session.create settings).1.afterAll events := by
  obtain ⟨events, reached⟩ := underway.reached
  refine ⟨events ++ meeting.conductor.updateEvents now ⟨meeting.inbox, none⟩,
    ?_⟩
  rw [Session.afterAll_append, ← reached]
  exact meeting.conductor.session_update now ⟨meeting.inbox, none⟩

end Underway

/--
What a turn comes to in which the received session has a situation and
is not synced.
-/
structure Turned
    (settings : Settings)
    (host : Host)
    (meeting : Meeting)
    (situation : Situation)
    (after : Meeting) :
    Prop where
  underway : Underway settings after
  comesTo : ∃ sendSequence waitTicks,
    (situation.stage = .downloadingState → waitTicks = 0) ∧
      after.session.situation =
        { situation with
          sendSequence := sendSequence
          waitTicks := waitTicks }.led
  answered :
    (after.sent, after.inbox) =
      let (sent, answers) := host.react meeting.sent situation.dueMessage?
      (sent, answers.map .datagram)
  heard : after.session.receiveSequence = host.heard meeting.sent

/--
Before the session is synced and while it has not to wait, a turn sends what is
due and leads on.
-/
theorem Underway.turn
    {settings : Settings}
    {host : Host}
    {meeting : Meeting}
    {now : Nat}
    {situation : Situation}
    (underway : Underway settings meeting)
    (present : meeting.session.stage ≠ .disconnected)
    (receives : Receives host meeting now situation)
    (unsynced : situation.stage ≠ .synced)
    (ready : situation.waitTicks = 0) :
    Turned settings host meeting situation (meeting.turn host now) := by
  obtain ⟨events, reached⟩ := underway.exists_received now
  have numbers := Session.numbers_afterAll settings events
  rw [← reached] at numbers
  have isUnsynced : (meeting.received now).stage ≠ .synced := by
    rw [← receives.comesTo] at unsynced
    exact unsynced
  have isReady : (meeting.received now).waitTicks = 0 := by
    rw [← receives.comesTo] at ready
    exact ready
  have turns := Session.turns_endTick numbers.composable numbers.coherent
    isUnsynced isReady now
  have readBack := turns.ofDatagram?_offered numbers.composable
    numbers.coherent
  obtain ⟨sendSequence, waitTicks, atOnce, comesTo⟩ := turns.situation
  obtain ⟨conductor, answered, refusals⟩ :=
    underway.ticks present receives turns.result
  have stillUnsynced :
      ((meeting.received now).endTick now none).outcome.session.stage ≠
        .synced := by
    rw [show Session.stage _ = _ from congrArg Situation.stage comesTo]
    exact isUnsynced
  have leads := @Conductor.leads_advance
    { meeting.conductor with
      session :=
        ((meeting.received now).endTick now none).outcome.session }
    underway.goal underway.standing stillUnsynced
  rw [← conductor] at leads
  have heard := leads.receiveSequence.trans
    ((Session.field_endTick Session.receiveSequence _ now none).trans
      (Session.Action.Keeps.judgeLink _))
  have heeded := leads.refusedCount.trans
    ((Session.field_endTick Session.refusedCount _ now none).trans
      (Session.Action.Keeps.judgeLink _))
  rw [readBack, receives.comesTo] at answered
  rw [← receives.comesTo]
  refine ⟨⟨underway.exists_turned, ?_, ?_, ?_, ?_⟩,
    ⟨sendSequence, waitTicks, atOnce, ?_⟩, ?_, ?_⟩
  · exact leads.goal.trans underway.goal
  · exact leads.standing.trans underway.standing
  · exact heeded.trans (receives.heeded.trans underway.refusedCount)
  · exact refusals.trans underway.refusals
  · rw [← comesTo]
    exact leads.situation
  · rw [receives.comesTo]
    exact answered
  · exact heard.trans receives.heard

/-- What the turn comes to in which the received session is synced. -/
structure Arrives (situation : Situation) (after : Meeting) : Prop where
  standing : after.conductor.standing = .synced
  refusedCount : after.session.refusedCount = 0
  refusals : after.refusals = []
  comesTo : ∃ sendSequence outbound,
    outbound.predicted = situation.outbound.predicted ∧
      after.session.situation =
        { situation with
          sendSequence := sendSequence
          outbound := outbound
          waitTicks := 0 }

/-- In the turn in which the session becomes synced, so does the conductor. -/
theorem Underway.arrives
    {settings : Settings}
    {host : Host}
    {meeting : Meeting}
    {now : Nat}
    {situation : Situation}
    (underway : Underway settings meeting)
    (present : meeting.session.stage ≠ .disconnected)
    (unsynced : meeting.session.stage ≠ .synced)
    (receives : Receives host meeting now situation)
    (synced : situation.stage = .synced)
    (ready : situation.waitTicks = 0) :
    Arrives situation (meeting.turn host now) := by
  obtain ⟨events, reached⟩ := underway.exists_received now
  have numbers := Session.numbers_afterAll settings events
  rw [← reached] at numbers
  have isSynced : (meeting.received now).stage = .synced := by
    rw [← receives.comesTo] at synced
    exact synced
  have isReady : (meeting.received now).waitTicks = 0 := by
    rw [← receives.comesTo] at ready
    exact ready
  -- The link is unknown until the session is synced, and one tick of it is good.
  have stays :
      ((meeting.received now).after (.tickEnded now none)).stage ≠
        .disconnected := by
    have lenient := Session.lenient_early 0
    have watched :=
      (Session.Watched.of_unsynced lenient underway.sound present
        unsynced).afterReceiving lenient now ⟨meeting.inbox, none⟩
    exact (watched.tickEnded_of_synced isSynced
      (Health.Early.passes (by decide)) now none).present
  have atStage := numbers.coherent.atStage
  rw [show Situation.stage _ = _ from isSynced] at atStage
  obtain ⟨connection, connected, named⟩ := atStage.1
  obtain ⟨predicted, offers⟩ :=
    Session.endTick_cases numbers.composable numbers.coherent now none
  have succeeds :
      ((meeting.received now).endTick now none).outcome.result = .ok () := by
    rcases offers with ⟨_, goesWell, _⟩ | ⟨_, _, _, concluded⟩
    · exact goesWell
    · exact concluded.1
  obtain ⟨conductor, _, refusals⟩ :=
    underway.ticks present receives succeeds
  rcases Session.endTick_of_synced connected named isSynced isReady now
      none with
    ⟨_, disconnected⟩ | ⟨_, sendSequence, _, _, comesTo⟩
  · exact absurd (congrArg Situation.stage disconnected) stays
  · have stillSynced :
        ((meeting.received now).endTick now none).outcome.session.stage =
          .synced :=
      (congrArg Situation.stage comesTo).trans isSynced
    have arrived : (meeting.turn host now).conductor =
        { meeting.conductor with
          session :=
            ((meeting.received now).endTick now none).outcome.session
          standing := .synced } := by
      rw [conductor]
      simp [Conductor.advance, underway.goal, underway.standing, stillSynced]
    have session : (meeting.turn host now).session =
        ((meeting.received now).endTick now none).outcome.session :=
      congrArg Conductor.session arrived
    rw [← receives.comesTo]
    refine ⟨?_, ?_, refusals.trans underway.refusals,
      sendSequence, _, ?_, session ▸ comesTo⟩
    · rw [arrived]
    · rw [session]
      exact (Session.field_endTick Session.refusedCount _ now none).trans
        ((Session.Action.Keeps.judgeLink _).trans
          (receives.heeded.trans underway.refusedCount))
    · exact (congrArg (fun situation => situation.outbound.predicted)
        comesTo).symm.trans predicted

end Meeting

end StepSync
