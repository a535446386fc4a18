import StepSync.Proofs.Session.Authoritative
import StepSync.Proofs.Session.Settings
import StepSync.Proofs.Session.StepDatagram
import StepSync.Proofs.Steps.Exchange

namespace StepSync

/-!
# Sending predicted steps

Predicted steps are written by the application, discarded by what the server
reports, and sent at the end of ticks, which the transport may refuse.
`Session.noteExchange` looks on at all of that.  As long as a session stays synced
and no id wraps around, its queue, cursor and counts stay aligned with what was
seen, so every step is sent in three datagrams in a row and in no more
(`Session.threefold`).
-/

namespace Situation

/-- What a delivery does to the predicted steps of a synced session. -/
theorem accept_of_synced
    {situation : Situation}
    (synced : situation.stage = .synced)
    (ready : situation.waitTicks = 0)
    (delivery : Delivery) :
    (situation.accept delivery).waitTicks = 0 ∧
      (situation.accept delivery).outbound =
        match delivery with
        | .report report | .steps report _ =>
            situation.outbound.acknowledge report.lastPredicted
        | _ => situation.outbound := by
  cases delivery with
  | nothing => exact ⟨ready, rfl⟩
  | outOfSlots => exact ⟨ready, rfl⟩
  | report report => exact ⟨ready, rfl⟩
  | steps report steps => exact ⟨ready, rfl⟩
  | connection response =>
      have other :
          ¬(situation.stage = .requestingConnect ∧
            response.connectionId ≠ noConnectionId) := by
        simp [synced]
      rw [accept, acceptConnection, if_neg other]
      exact ⟨ready, rfl⟩
  | membership response =>
      simp only [accept, acceptMembership]
      split
      · exact ⟨rfl, rfl⟩
      · exact ⟨ready, rfl⟩
  | download response =>
      have other : ¬situation.Awaits response := by
        simp [Awaits, synced]
      rw [accept, acceptDownload, if_neg other]
      exact ⟨ready, rfl⟩
  | part channel chunk =>
      simp only [accept, acceptPart]
      split
      · exact ⟨ready, rfl⟩
      · split
        · exact ⟨ready, rfl⟩
        · split
          · exact ⟨ready, rfl⟩
          · rw [finishDownload_of_synced]
            · exact ⟨ready, rfl⟩
            · exact synced

end Situation

namespace Session

/--
A prediction is refused and changes nothing, or appends a step that
is not too long.
-/
theorem predict_cases (payload : Octets) (session : Session) :
    (∃ refusal,
        (Action.predict payload session).result = .error refusal ∧
          session.situation.predict payload = session.situation) ∨
      ∃ longer,
        payload.length ≤ session.settings.stepOctets ∧
          session.outbound.predicted.write
              session.outbound.predicted.nextId payload = .ok longer ∧
          (Action.predict payload session).result =
            .ok session.outbound.predicted.nextId ∧
          session.situation.predict payload =
            { session.situation with
              outbound := { session.outbound with predicted := longer } } := by
  by_cases long : session.settings.stepOctets < payload.length
  · left
    simp [Action.predict, Action.result_bind, Situation.predict, situation,
      long]
  · by_cases full : session.outbound.predicted.isFull
    · left
      simp [Action.predict, Action.result_bind, Situation.predict, situation,
        long, canPredict, StepQueue.write, full]
    · right
      simp [Action.predict, Action.result_bind, Situation.predict, situation,
        long, canPredict, StepQueue.write, full]
      omega

/-- A synced session whose link is good composes its next run. -/
theorem gives_prepareSending
    {session : Session}
    {connection : Connection}
    (connected : session.connection = some connection)
    (named : connection.id ≠ noConnectionId)
    (synced : session.stage = .synced)
    (ready : session.waitTicks = 0)
    (good : (Action.judgeLink session).result = .ok true)
    (same :
      (Action.judgeLink session).session.situation = session.situation)
    (now : Nat) :
    ∃ prepared datagram,
      Action.Gives (Action.prepareSending now) session prepared
          (some datagram) ∧
        stepsOf datagram =
          StepRun.number (nextRedundancy session.outbound).cursor
            (nextRun session.outbound) ∧
        prepared.situation =
          { session.situation with
            outbound := composedRun session.outbound
            waitTicks := 0 } := by
  have sameOutbound :
      (Action.judgeLink session).session.outbound = session.outbound :=
    congrArg Situation.outbound same
  have stillReady : (Action.judgeLink session).session.waitTicks = 0 :=
    (congrArg Situation.waitTicks same).trans ready
  have stillConnected :
      (Action.judgeLink session).session.connection = some connection :=
    (congrArg Situation.connection same).trans connected
  have stillSynced : (Action.judgeLink session).session.stage = .synced :=
    (congrArg Situation.stage same).trans synced
  generalize judged : (Action.judgeLink session).session = begun at *
  have isOver :
      Action.Gives Action.passWaiting begun { begun with waitTicks := 0 }
        true := by
    obtain ⟨result, _⟩ := Action.passWaiting_spec begun
    rw [stillReady] at result
    refine ⟨?_, result⟩
    rw [← Nat.zero_sub 1, ← stillReady]
    rfl
  let waited : Session := { begun with waitTicks := 0 }
  let measured : Session :=
    { waited with metrics := waited.metrics.updateRates now }
  have updated :
      Action.Gives (Action.updateMetrics now) waited measured () :=
    ⟨rfl, rfl⟩
  have measuredConnected : measured.connection = some connection :=
    stillConnected
  have composed := Action.gives_compose measuredConnected named stillSynced
  refine
    ⟨{ measured with outbound := composedRun measured.outbound },
      measured.stepDatagram connection, ?_, ?_, ?_⟩
  · refine .bind ⟨judged, good⟩ ?_
    rw [if_pos rfl]
    refine .bind isOver ?_
    rw [if_pos rfl]
    exact .bind updated composed
  · rw [← sameOutbound]
    exact stepsOf_stepDatagram measured connection
  · rw [← same, ← sameOutbound]
    rfl

/-- The predicted steps once the transport has taken the next run, or refused it. -/
def concludedRun (outbound : Outbound) : Option String → Outbound
  | none => (composedRun outbound).commit
  | some _ => composedRun outbound

/-- The end of a synced session's tick gives the link up, or offers the next run. -/
theorem endTick_of_synced
    {session : Session}
    {connection : Connection}
    (connected : session.connection = some connection)
    (named : connection.id ≠ noConnectionId)
    (synced : session.stage = .synced)
    (ready : session.waitTicks = 0)
    (now : Nat)
    (refusal : Option String) :
    let ended := session.endTick now refusal
    (ended.offered = none ∧
        ended.outcome.session.situation =
          { session.situation with stage := .disconnected }) ∨
      ∃ datagram sendSequence,
        ended.offered = some datagram ∧
          stepsOf datagram =
            StepRun.number (nextRedundancy session.outbound).cursor
              (nextRun session.outbound) ∧
          ended.outcome.session.situation =
            { session.situation with
              sendSequence := sendSequence
              outbound := concludedRun session.outbound refusal
              waitTicks := 0 } := by
  rcases Action.judgeLink_spec session with
    ⟨good, same⟩ | ⟨givenUp, _, disconnected⟩
  · right
    obtain ⟨prepared, datagram, gives, steps, situation⟩ :=
      gives_prepareSending connected named synced ready good same now
    have stage : prepared.stage = .synced :=
      (congrArg Situation.stage situation).trans synced
    unfold endTick
    dsimp only
    rw [gives.result, gives.session]
    cases refusal with
    | some failure => exact ⟨datagram, _, rfl, steps, situation⟩
    | none =>
        refine ⟨datagram, prepared.sendSequence.advance, rfl, steps, ?_⟩
        have concluded :
            (Action.concludeSending datagram none prepared).session.situation =
              { prepared.situation with
                sendSequence := prepared.sendSequence.advance
                outbound := prepared.outbound.commit
                waitTicks := 0 } := by
          simp only [Action.concludeSending, Action.countSent,
            Action.commitSteps, Action.session_bind, Action.modify_apply,
            Action.current_apply, stage, ↓reduceIte]
          rw [← stage]
          rfl
        have outbound : prepared.outbound = composedRun session.outbound :=
          congrArg Situation.outbound situation
        rw [concluded, situation, outbound]
        rfl
  · left
    obtain ⟨nothing, leaves⟩ := endTick_of_givenUp givenUp now refusal
    rw [leaves]
    exact ⟨nothing, disconnected⟩

/-- What somebody notes who looks on at the predicted steps of a session. -/
def noteExchange (exchange : Exchange) (session : Session) :
    Event → Exchange
  | .received datagram =>
      let after := (session.receive datagram).session
      if session.situation.Syncs after.situation then
        .anchoredAt (after.snapshot.elim 0 Snapshot.stepId)
      else
        match session.delivery datagram with
        | .report report | .steps report _ =>
            exchange.discard (report.lastPredicted + 1)
        | _ => exchange
  | .tickEnded now none =>
      match session.stage, (session.endTick now none).offered with
      | .synced, some datagram => exchange.send (stepsOf datagram)
      | _, _ => exchange
  | .asked (.predict payload) =>
      match (Action.predict payload session).result with
      | .ok id => exchange.write ⟨id, payload⟩
      | .error _ => exchange
  | .asked .reset => .anchoredAt 0
  | _ => exchange

/-- The exchange of predicted steps that a run of events shows. -/
def exchangeOf (settings : Settings) (events : List Event) : Exchange :=
  watch noteExchange (.anchoredAt 0) (create settings).1 events

/-- The octets that a run may take for its payloads and their overhead. -/
def runBudget : Nat :=
  runRoom - Redundancy.runOverhead

/--
While a session is synced, its predicted steps are aligned with what was seen.
-/
structure Exchanges (exchange : Exchange) (situation : Situation) :
    Prop where
  coherent : situation.Coherent
  short : situation.settings.stepOctets ≤ Settings.longestStep.toNat
  ready : situation.stage = .synced → situation.waitTicks = 0
  aligned : situation.stage = .synced → exchange.InRange →
    ∃ gone passed,
      Outbound.Aligned runBudget exchange situation.outbound gone passed

namespace Exchanges

variable {exchange : Exchange} {situation : Situation} {session : Session}

/-- A synced session has a connection that datagrams can name. -/
theorem connected
    (exchanges : Exchanges exchange situation)
    (synced : situation.stage = .synced) :
    ∃ connection,
      situation.connection = some connection ∧
        connection.id ≠ noConnectionId := by
  have atStage := exchanges.coherent.atStage
  rw [synced] at atStage
  exact atStage.1

/-- Nothing is asked of a session that is not synced. -/
theorem of_unsynced
    (coherent : situation.Coherent)
    (short : situation.settings.stepOctets ≤ Settings.longestStep.toNat)
    (unsynced : situation.stage ≠ .synced) :
    Exchanges exchange situation :=
  ⟨coherent, short, fun synced => absurd synced unsynced,
    fun synced => absurd synced unsynced⟩

/-- The anchored buffers of a session that has just been synced. -/
theorem of_anchored
    {before : Situation}
    {snapshot : Snapshot}
    (coherent : situation.Coherent)
    (short : situation.settings.stepOctets ≤ Settings.longestStep.toNat)
    (anchored : before.AnchoredAt situation snapshot) :
    Exchanges (.anchoredAt snapshot.stepId) situation where
  coherent := coherent
  short := short
  ready := fun _ => anchored.waits
  aligned := fun _ _ => by
    rw [anchored.outbound]
    exact ⟨0, 0, Outbound.aligned_anchored _ _ rfl rfl⟩

/--
The next run, seen from the exchange: the steps behind the cursor,
as many as fit.
-/
theorem nextRun_eq
    {outbound : Outbound}
    {gone passed : Nat}
    (aligned : Outbound.Aligned runBudget exchange outbound gone passed)
    (inRange : exchange.InRange) :
    Outbound.Covers runBudget exchange
        { outbound with redundancy := nextRedundancy outbound }
        (max passed gone) (nextRun outbound).length ∧
      StepRun.number (nextRedundancy outbound).cursor (nextRun outbound) =
        (exchange.written.drop (max passed gone)).take
          (nextRun outbound).length :=
  (aligned.skip inRange).run_eq inRange (Nat.le_max_right _ _)

/-- Composing a run changes nothing of what was sent. -/
theorem aligned_composedRun
    {outbound : Outbound}
    {gone passed : Nat}
    (aligned : Outbound.Aligned runBudget exchange outbound gone passed)
    (inRange : exchange.InRange) :
    Outbound.Aligned runBudget exchange (composedRun outbound) gone
      (max passed gone) :=
  { aligned.skip inRange with }

theorem after_received
    (exchanges : Exchanges exchange session.situation)
    (datagram : Octets) :
    Exchanges (noteExchange exchange session (.received datagram))
      (session.after (.received datagram)).situation := by
  have receives := situation_receive session datagram
  have coherent := (coherent_receive exchanges.coherent datagram).1
  have short :
      (session.receive datagram).session.situation.settings.stepOctets ≤
        Settings.longestStep.toNat := by
    rw [receives, Situation.settings_accept]
    exact exchanges.short
  rcases session.situation.inbound_accept (session.delivery datagram) with
    ⟨syncs, snapshot, anchored⟩ | ⟨stays, _⟩
  · rw [← receives] at syncs anchored
    have taken :
        (session.receive datagram).session.snapshot = some snapshot :=
      anchored.taken
    rw [noteExchange, after, if_pos syncs, taken]
    exact .of_anchored coherent short anchored
  · rw [← receives] at stays
    rw [noteExchange, after, if_neg stays]
    have before
        (synced : (session.receive datagram).session.situation.stage =
          .synced) :
        session.situation.stage = .synced :=
      Decidable.of_not_not fun unsynced => stays ⟨unsynced, synced⟩
    refine ⟨coherent, short, fun synced => ?_, fun synced inRange => ?_⟩
    · have ready := exchanges.ready (before synced)
      rw [receives]
      exact (Situation.accept_of_synced (before synced) ready _).1
    · have ready := exchanges.ready (before synced)
      have outbound := (Situation.accept_of_synced (before synced) ready
        (session.delivery datagram)).2
      have discards (report : StepReport)
          (inRange : (exchange.discard
            (report.lastPredicted + 1)).InRange) :
          ∃ gone passed,
            Outbound.Aligned runBudget
              (exchange.discard (report.lastPredicted + 1))
              (session.situation.outbound.acknowledge report.lastPredicted)
              gone passed := by
        obtain ⟨gone, passed, aligned⟩ :=
          exchanges.aligned (before synced) inRange
        exact ⟨_, _, aligned.discard inRange _⟩
      rw [receives, outbound]
      cases delivery : session.delivery datagram with
      | report report =>
          rw [delivery] at inRange
          exact discards report inRange
      | steps report steps =>
          rw [delivery] at inRange
          exact discards report inRange
      | _ =>
          rw [delivery] at inRange
          exact exchanges.aligned (before synced) inRange

/-- A run that the transport takes is counted, and one that it refuses is not. -/
theorem aligned_concluded
    {outbound : Outbound}
    {gone passed : Nat}
    (aligned : Outbound.Aligned runBudget exchange outbound gone passed)
    (inRange : exchange.InRange) :
    ∃ further,
      Outbound.Aligned runBudget
        (exchange.send
          (StepRun.number (nextRedundancy outbound).cursor
            (nextRun outbound)))
        (composedRun outbound).commit gone further := by
  obtain ⟨covers, steps⟩ := nextRun_eq aligned inRange
  obtain ⟨finished, sent⟩ := (aligned.skip inRange).send inRange covers
  rw [steps]
  exact ⟨_, sent⟩

theorem after_tickEnded
    (exchanges : Exchanges exchange session.situation)
    (now : Nat)
    (refusal : Option String) :
    Exchanges (noteExchange exchange session (.tickEnded now refusal))
      (session.after (.tickEnded now refusal)).situation := by
  have coherent :=
    (coherent_after exchanges.coherent (.tickEnded now refusal)).1
  have short :
      (session.after (.tickEnded now refusal)).situation.settings.stepOctets ≤
        Settings.longestStep.toNat := by
    have same := settings_after session (.tickEnded now refusal)
    rw [show Situation.settings _ = session.settings from same]
    exact exchanges.short
  by_cases synced : session.stage = .synced
  · obtain ⟨connection, connected, named⟩ := exchanges.connected synced
    have ready := exchanges.ready synced
    rcases endTick_of_synced connected named synced ready now refusal with
      ⟨nothing, disconnected⟩ |
        ⟨datagram, sendSequence, offered, steps, situation⟩
    · refine .of_unsynced coherent short ?_
      rw [after, disconnected]
      simp
    · have ended :
          (session.after (.tickEnded now refusal)).situation = _ := situation
      have still :
          (session.after (.tickEnded now refusal)).situation.outbound =
            concludedRun session.outbound refusal :=
        congrArg Situation.outbound ended
      refine ⟨coherent, short, ?_, ?_⟩
      · intro _
        exact congrArg Situation.waitTicks ended
      · intro _ inRange
        rw [still]
        cases refusal with
        | some failure =>
            obtain ⟨gone, passed, aligned⟩ :=
              exchanges.aligned synced inRange
            exact ⟨gone, _, aligned_composedRun aligned inRange⟩
        | none =>
            have sent :
                noteExchange exchange session (.tickEnded now none) =
                  exchange.send (stepsOf datagram) := by
              simp only [noteExchange, synced, offered]
            rw [sent] at inRange ⊢
            obtain ⟨gone, passed, aligned⟩ :=
              exchanges.aligned synced inRange
            obtain ⟨further, concluded⟩ := aligned_concluded aligned inRange
            rw [steps]
            exact ⟨gone, further, concluded⟩
  · refine .of_unsynced coherent short ?_
    rcases situation_endTick session now refusal with
      ⟨wasSynced, _, _⟩ | sends
    · exact absurd wasSynced synced
    · rw [after, sends.stage]
      exact synced

theorem after_asked
    (exchanges : Exchanges exchange session.situation)
    (request : Request) :
    Exchanges (noteExchange exchange session (.asked request))
      (session.after (.asked request)).situation := by
  have coherent := (coherent_after exchanges.coherent (.asked request)).1
  have short :
      (session.situation.ask request).settings.stepOctets ≤
        Settings.longestStep.toNat := by
    rw [Situation.settings_ask]
    exact exchanges.short
  rw [after, situation_ask] at coherent ⊢
  cases request with
  | disconnect => exact .of_unsynced coherent short (by simp [Situation.ask])
  | reset =>
      exact .of_unsynced coherent short
        (by simp [Situation.ask, Situation.forget])
  | assignJoinRequest request =>
      exact ⟨coherent, short, exchanges.ready, exchanges.aligned⟩
  | requestConnect =>
      by_cases idle : session.situation.stage = .idle
      · exact .of_unsynced coherent short (by simp [Situation.ask, idle])
      · rw [Situation.ask, if_neg idle]
        exact exchanges
  | beginJoin =>
      by_cases connected : session.situation.stage = .connected
      · exact .of_unsynced coherent short (by simp [Situation.ask, connected])
      · rw [Situation.ask, if_neg connected]
        exact exchanges
  | readStep =>
      refine ⟨coherent, short, ?_, ?_⟩
      all_goals rw [Situation.ask, Situation.readStep_frame]
      · exact exchanges.ready
      · exact exchanges.aligned
  | predict payload =>
      rcases predict_cases payload session with
        ⟨refusal, refused, same⟩ | ⟨longer, limit, writes, succeeds, appends⟩
      · rw [noteExchange, refused, Situation.ask, same]
        exact exchanges
      · rw [Situation.ask] at coherent short ⊢
        rw [noteExchange, succeeds]
        rw [appends] at coherent short ⊢
        refine ⟨coherent, short, exchanges.ready, fun synced inRange => ?_⟩
        obtain ⟨gone, passed, aligned⟩ :=
          exchanges.aligned synced (Exchange.InRange.of_write inRange)
        have longest := exchanges.short
        have budget : runBudget = 1173 ∧ Redundancy.payloadOverhead = 2 := by
          decide
        rw [Settings.toNat_longestStep] at longest
        change payload.length ≤ session.situation.settings.stepOctets
          at limit
        exact ⟨gone, passed, aligned.write (by omega) writes inRange⟩

theorem after
    (exchanges : Exchanges exchange session.situation)
    (event : Event) :
    Exchanges (noteExchange exchange session event)
      (session.after event).situation := by
  cases event with
  | tickBegun now =>
      rw [Session.after, situation_beginTick]
      exact exchanges
  | received datagram => exact exchanges.after_received datagram
  | tickEnded now refusal => exact exchanges.after_tickEnded now refusal
  | asked request => exact exchanges.after_asked request

end Exchanges

theorem exchanges_idle
    {settings : Settings}
    (short : settings.stepOctets ≤ Settings.longestStep.toNat) :
    Exchanges (.anchoredAt 0) (idle settings).situation :=
  .of_unsynced (coherent_idle settings) short (by simp [idle, situation])

theorem exchanges_afterAll (settings : Settings) (events : List Event) :
    Exchanges (exchangeOf settings events)
      ((create settings).1.afterAll events).situation := by
  rw [exchangeOf, session_create]
  exact keeps_watch
    (fun exchange session => Exchanges exchange session.situation)
    (fun _ _ event exchanges => exchanges.after event)
    (exchanges_idle (Settings.stepOctets_clamp_le settings)) events

/--
Every step is sent threefold: in three datagrams in a row, or in fewer if the
server says that it has the step, and in no more.
-/
structure Threefold (exchange : Exchange) (session : Session) : Prop where
  atMost : ∀ id, exchange.timesSent id ≤ Redundancy.copies
  passed : ∀ id, exchange.anchor ≤ id →
    id < session.outbound.redundancy.cursor →
      exchange.timesSent id = Redundancy.copies ∨ id ∈ exchange.discarded
  counted : ∀ step ∈ session.outbound.predicted.steps,
    session.outbound.countOf step.id = exchange.timesSent step.id
  failed : ∀ now failure, ∀ step ∈ session.outbound.predicted.steps,
    (session.endTick now (some failure)).outcome.session.outbound.countOf
        step.id =
      session.outbound.countOf step.id
  next : ∀ now refusal,
    (session.endTick now refusal).outcome.session.stage = .synced →
      ∃ datagram,
        (session.endTick now refusal).offered = some datagram ∧
          exchange.Continues session.outbound.predicted.steps
            (stepsOf datagram)

/--
After any events, a synced session whose predicted ids have not wrapped around
has sent, and goes on sending, every predicted step threefold.
-/
theorem threefold
    (settings : Settings)
    (events : List Event)
    (synced : ((create settings).1.afterAll events).stage = .synced)
    (inRange : (exchangeOf settings events).InRange) :
    Threefold (exchangeOf settings events)
      ((create settings).1.afterAll events) := by
  have exchanges := exchanges_afterAll settings events
  generalize (create settings).1.afterAll events = session at *
  generalize exchangeOf settings events = exchange at *
  obtain ⟨gone, passed, aligned⟩ := exchanges.aligned synced inRange
  obtain ⟨connection, connected, named⟩ := exchanges.connected synced
  have ready := exchanges.ready synced
  constructor
  · exact aligned.timesSent_le
  · intro id since before
    exact aligned.passed_spec inRange since before
  · intro step member
    exact aligned.countOf_eq inRange member
  · intro now failure step member
    rcases endTick_of_synced connected named synced ready now
        (some failure) with
      ⟨_, disconnected⟩ | ⟨_, _, _, _, composed⟩
    · have same :
          (session.endTick now (some failure)).outcome.session.outbound =
            session.outbound :=
        congrArg Situation.outbound disconnected
      rw [same]
    · have same :
          (session.endTick now (some failure)).outcome.session.outbound =
            composedRun session.outbound :=
        congrArg Situation.outbound composed
      have still := Exchanges.aligned_composedRun aligned inRange
      rw [same]
      exact (still.countOf_eq inRange member).trans
        (aligned.countOf_eq inRange member).symm
  · intro now refusal stillSynced
    rcases endTick_of_synced connected named synced ready now refusal with
      ⟨_, disconnected⟩ | ⟨datagram, _, offered, steps, _⟩
    · have gone :
          (session.endTick now refusal).outcome.session.stage =
            .disconnected :=
        congrArg Situation.stage disconnected
      rw [gone] at stillSynced
      cases stillSynced
    · refine ⟨datagram, offered, ?_⟩
      obtain ⟨covers, run⟩ := Exchanges.nextRun_eq aligned inRange
      have continues := (aligned.skip inRange).continues inRange
        (Nat.le_max_right _ _) covers
      rw [← run] at continues
      rw [steps]
      exact continues

/--
Two steps are predicted and sent; one sending fails, and the server says that it
has the first step.
-/
def sendingTwice : List Event :=
  eventsOf syncing ++
    [.asked (.predict [19]),
      .asked (.predict [23]),
      .tickEnded 20 none,
      .tickEnded 40 (some "would block"),
      .received
        (numberedMessage 3
          (StepReport.fields ⟨1, 0, 20, 5⟩ ++ StepRun.fields 5 [])),
      .tickEnded 60 none]

theorem threefold_sendingTwice :
    (exchangeOf Settings.standard sendingTwice).timesSent 5 = 1 ∧
      (exchangeOf Settings.standard sendingTwice).timesSent 6 = 2 ∧
      Threefold (exchangeOf Settings.standard sendingTwice)
        ((create Settings.standard).1.afterAll sendingTwice) := by
  have synced :
      ((create Settings.standard).1.afterAll sendingTwice).stage =
        .synced := by
    decide +kernel
  have inRange : (exchangeOf Settings.standard sendingTwice).InRange := by
    unfold Exchange.InRange
    decide +kernel
  refine ⟨?_, ?_, threefold _ _ synced inRange⟩
  · decide +kernel
  · decide +kernel

end Session

end StepSync
