import StepSync.Proofs.Session.Capacity
import StepSync.Proofs.Session.Predicted
import StepSync.Proofs.Steps.PredictionLog

namespace StepSync

/-!
# What is in the queue of predicted steps

Predicted steps are written by the application, taken by what the server
acknowledges, and dropped when they are anchored anew: at the start, when a
snapshot is announced, and when it is complete.  Nothing else touches the queue
(`Session.predicted_after`).  So in every run the queue is what the log of the run
says, the written steps that no later acknowledgement covers
(`Session.predicted_queue`).
-/

namespace Situation

/-- The event has made a snapshot known that is on its way. -/
def Announces (before after : Situation) : Prop :=
  before.stage ≠ .downloadingState ∧ after.stage = .downloadingState

instance (before after : Situation) : Decidable (Announces before after) := by
  unfold Announces
  infer_instance

/--
The step of the snapshot that the session has, or is getting; the first of
all without one.
-/
def anchor (situation : Situation) : StepId :=
  match situation.stage with
  | .synced => situation.snapshot.elim 0 Snapshot.stepId
  | _ => situation.download.elim 0 Download.stepId

/--
What a delivery does to the predicted steps: anchor them, acknowledge
some, or nothing.
-/
theorem outbound_accept (situation : Situation) (delivery : Delivery) :
    let after := situation.accept delivery
    ((situation.Syncs after ∨ situation.Announces after) ∧
        after.outbound = situation.outbound.restart after.anchor) ∨
      ¬(situation.Syncs after ∨ situation.Announces after) ∧
        after.outbound =
          delivery.report?.elim situation.outbound fun report =>
            situation.outbound.acknowledge report.lastPredicted := by
  have stays {after : Situation} (same : after.stage = situation.stage) :
      ¬(situation.Syncs after ∨ situation.Announces after) := by
    unfold Syncs Announces
    rw [same]
    rintro (⟨other, here⟩ | ⟨other, here⟩)
    · exact other here
    · exact other here
  have finishes (downloading : Situation)
      (cleared : ∀ first, downloading.outbound.restart first =
        situation.outbound.restart first)
      (unsynced : downloading.stage ≠ .synced → situation.stage ≠ .synced) :
      downloading.finishDownload = downloading ∨
        situation.Syncs downloading.finishDownload ∧
          downloading.finishDownload.outbound =
            situation.outbound.restart downloading.finishDownload.anchor := by
    rcases downloading.finishDownload_cases with
      same | ⟨⟨before, synced⟩, snapshot, anchored⟩
    · exact .inl same
    · refine .inr ⟨⟨unsynced before, synced⟩, ?_⟩
      rw [anchored.outbound, cleared, anchor, synced, anchored.taken]
      rfl
  cases delivery with
  | nothing => exact .inr ⟨stays rfl, rfl⟩
  | outOfSlots => exact .inr ⟨stays rfl, rfl⟩
  | report report => exact .inr ⟨stays rfl, rfl⟩
  | steps report steps => exact .inr ⟨stays rfl, rfl⟩
  | membership response =>
      simp only [accept, acceptMembership]
      split
      · exact .inr ⟨stays rfl, rfl⟩
      · exact .inr ⟨stays rfl, rfl⟩
  | connection response =>
      simp only [accept, acceptConnection]
      split
      · exact .inr ⟨by simp [Syncs, Announces], rfl⟩
      · exact .inr ⟨stays rfl, rfl⟩
  | download response =>
      simp only [accept, acceptDownload]
      split
      case isFalse => exact .inr ⟨stays rfl, rfl⟩
      case isTrue awaits =>
        have requesting := awaits.2.1
        left
        rcases finishes (situation.startDownload response)
            (fun _ => rfl) (fun _ => by rw [requesting]; decide) with
          same | ⟨syncs, restarted⟩
        · rw [same]
          exact ⟨.inr ⟨by rw [requesting]; decide, rfl⟩, rfl⟩
        · exact ⟨.inl syncs, restarted⟩
  | part channel chunk =>
      simp only [accept, acceptPart]
      split
      · exact .inr ⟨stays rfl, rfl⟩
      · split
        · exact .inr ⟨stays rfl, rfl⟩
        · split
          · exact .inr ⟨stays rfl, rfl⟩
          · rename_i download _ _ stored _ assembly _
            rcases finishes { situation with
                download := some { download with assembly := assembly } }
                (fun _ => rfl) id with
              same | ⟨syncs, restarted⟩
            · rw [same]
              exact .inr ⟨stays rfl, rfl⟩
            · exact .inl ⟨.inl syncs, restarted⟩

/-- A report acknowledges, whatever comes behind it. -/
theorem outbound_accept_report
    (situation : Situation)
    {delivery : Delivery}
    {report : StepReport}
    (reports : delivery.report? = some report) :
    (situation.accept delivery).outbound =
      situation.outbound.acknowledge report.lastPredicted := by
  cases delivery <;> cases reports <;> rfl

end Situation

namespace Session

/-- The event anchors the predicted steps. -/
def AnchorsPredicted (session : Session) : Event → Prop
  | .received datagram =>
      let after := (session.receive datagram).session.situation
      session.situation.Syncs after ∨ session.situation.Announces after
  | .asked request => request = .reset
  | .tickBegun _ | .tickEnded _ _ => False

instance (session : Session) (event : Event) :
    Decidable (session.AnchorsPredicted event) := by
  cases event <;> unfold AnchorsPredicted <;> infer_instance

/-- What else the event does that concerns the predicted steps. -/
def prediction? (session : Session) : Event → Option PredictionEntry
  | .received datagram =>
      (session.delivery datagram).report?.map fun report =>
        .acknowledged report.lastPredicted
  | .asked (.predict payload) =>
      (Action.predict payload session).result.toOption.map fun id =>
        .written ⟨id, payload⟩
  | _ => none

/-- What somebody notes who keeps a log of the predicted steps. -/
def notePrediction
    (log : PredictionLog)
    (session : Session)
    (event : Event) :
    PredictionLog :=
  if session.AnchorsPredicted event then
    .anchoredAt (session.after event).situation.anchor
  else
    match session.prediction? event with
    | none => log
    | some entry => log.add entry

/-- The log of the predicted steps of a run. -/
def predictionLogOf
    (settings : Settings)
    (events : List Event) :
    PredictionLog :=
  watch notePrediction (.anchoredAt 0) (create settings).1 events

/-- The payload is not too long, and there is room for one more step. -/
def Fits (session : Session) (payload : Octets) : Prop :=
  payload.length ≤ session.settings.stepOctets ∧
    session.outbound.predicted.steps.length <
      session.outbound.predicted.capacity

theorem predict_of_fits
    {session : Session}
    {payload : Octets}
    (fits : session.Fits payload) :
    (Action.predict payload session).result =
        .ok session.outbound.predicted.nextId ∧
      (Action.predict payload session).session =
        { session with
          outbound := { session.outbound with
            predicted := session.outbound.predicted.extend [payload] } } := by
  have short : ¬session.settings.stepOctets < payload.length :=
    Nat.not_lt.mpr fits.1
  have free : session.outbound.predicted.isFull = false :=
    decide_eq_false (Nat.not_le.mpr fits.2)
  have writes :
      session.outbound.predicted.write session.outbound.predicted.nextId
          payload =
        .ok (session.outbound.predicted.extend [payload]) := by
    have room : session.outbound.predicted.room ≠ 0 :=
      Nat.sub_ne_zero_of_lt fits.2
    rw [StepQueue.write_nextId, if_neg room]
  simp [Action.predict, Action.result_bind, Action.session_bind, short,
    canPredict, free, writes]

theorem predict_of_not_fits
    {session : Session}
    {payload : Octets}
    (tooMuch : ¬session.Fits payload) :
    (∃ refusal,
        (Action.predict payload session).result = .error refusal) ∧
      (Action.predict payload session).session = session := by
  by_cases long : session.settings.stepOctets < payload.length
  · simp [Action.predict, Action.result_bind, Action.session_bind, long]
  · have full : session.outbound.predicted.isFull = true :=
      decide_eq_true (Nat.not_lt.mp fun room =>
        tooMuch ⟨Nat.not_lt.mp long, room⟩)
    simp [Action.predict, Action.result_bind, Action.session_bind, long,
      canPredict, full]

/-- Only the next step is ever written. -/
theorem id_of_written
    {session : Session}
    {event : Event}
    {step : Step}
    (writes : session.prediction? event = some (.written step)) :
    step = ⟨session.outbound.predicted.nextId, step.payload⟩ := by
  cases event with
  | tickBegun now => cases writes
  | tickEnded now refusal => cases writes
  | received datagram =>
      rw [prediction?] at writes
      cases reported : (session.delivery datagram).report? with
      | none =>
          rw [reported] at writes
          cases writes
      | some report =>
          rw [reported] at writes
          cases writes
  | asked request =>
      cases request with
      | requestConnect => cases writes
      | beginJoin => cases writes
      | assignJoinRequest request => cases writes
      | readStep => cases writes
      | disconnect => cases writes
      | reset => cases writes
      | predict payload =>
          rw [prediction?] at writes
          by_cases fits : session.Fits payload
          · rw [(predict_of_fits fits).1] at writes
            cases writes
            rfl
          · obtain ⟨refusal, refused⟩ := (predict_of_not_fits fits).1
            rw [refused] at writes
            cases writes

/-- What an event does to the queue of predicted steps. -/
theorem predicted_after
    {taken : List Octets}
    {session : Session}
    (numbers : Numbers taken session)
    (event : Event) :
    (session.after event).outbound.predicted =
      if session.AnchorsPredicted event then
        session.outbound.predicted.restart
          (session.after event).situation.anchor
      else
        (session.prediction? event).elim session.outbound.predicted
          (PredictionEntry.apply session.outbound.predicted) := by
  cases event with
  | tickBegun now =>
      exact congrArg (fun situation => situation.outbound.predicted)
        (situation_beginTick now session)
  | tickEnded now refusal =>
      exact (endTick_cases numbers.composable numbers.coherent now refusal).1
  | received datagram =>
      have receives := situation_receive session datagram
      have becomes :=
        session.situation.outbound_accept (session.delivery datagram)
      rw [← receives] at becomes
      rcases becomes with ⟨anchors, restarted⟩ | ⟨stays, goesOn⟩
      · have anchoring : session.AnchorsPredicted (.received datagram) :=
          anchors
        rw [if_pos anchoring]
        exact congrArg Outbound.predicted restarted
      · have staying : ¬session.AnchorsPredicted (.received datagram) := stays
        rw [if_neg staying]
        refine (congrArg Outbound.predicted goesOn).trans ?_
        rw [prediction?]
        cases (session.delivery datagram).report? <;> rfl
  | asked request =>
      have asks :
          (session.after (.asked request)).outbound =
            (session.situation.ask request).outbound :=
        congrArg Situation.outbound (situation_ask session request)
      by_cases startsOver : request = .reset
      · rw [startsOver]
        rfl
      · have stays : ¬session.AnchorsPredicted (.asked request) := startsOver
        rw [if_neg stays]
        cases request with
        | reset => exact absurd rfl startsOver
        | assignJoinRequest request => rfl
        | disconnect => exact congrArg Outbound.predicted asks
        | requestConnect =>
            rw [asks]
            simp only [Situation.ask]
            split <;> rfl
        | beginJoin =>
            rw [asks]
            simp only [Situation.ask]
            split <;> rfl
        | readStep =>
            rw [asks, Situation.ask, Situation.readStep_frame]
            rfl
        | predict payload =>
            rw [prediction?]
            by_cases fits : session.Fits payload
            · obtain ⟨succeeds, writes⟩ := predict_of_fits fits
              rw [succeeds]
              exact congrArg (fun session => session.outbound.predicted) writes
            · obtain ⟨⟨refusal, refused⟩, same⟩ := predict_of_not_fits fits
              rw [refused]
              exact congrArg (fun session => session.outbound.predicted) same

/-- The queue of predicted steps is what its log says. -/
structure Logged (log : PredictionLog) (session : Session) : Prop where
  numbers : ∃ taken, Numbers taken session
  kept : log.Kept session.outbound.predicted

theorem Logged.after
    {log : PredictionLog}
    {session : Session}
    (logged : Logged log session)
    (event : Event) :
    Logged (notePrediction log session event) (session.after event) := by
  obtain ⟨taken, numbers⟩ := logged.numbers
  refine ⟨⟨_, numbers.after event⟩, ?_⟩
  rw [predicted_after numbers event, notePrediction]
  by_cases anchors : session.AnchorsPredicted event
  · rw [if_pos anchors, if_pos anchors]
    exact .anchored _ _
  · rw [if_neg anchors, if_neg anchors]
    cases found : session.prediction? event with
    | none => exact logged.kept
    | some entry =>
        cases entry with
        | acknowledged last => exact logged.kept.acknowledge last
        | written step =>
            have written := logged.kept.write step.payload
            rwa [← id_of_written found] at written

theorem logged_afterAll (settings : Settings) (events : List Event) :
    Logged (predictionLogOf settings events)
      ((create settings).1.afterAll events) := by
  refine keeps_watch Logged (fun _ _ event logged => logged.after event)
    ⟨⟨_, numbers_afterAll settings []⟩, ?_⟩ events
  rw [session_create]
  exact .anchored 0 _

/--
The queue of predicted steps told from its log, and what can happen to it next.
-/
structure Queued (log : PredictionLog) (session : Session) : Prop where
  consecutive :
    log.written = StepRun.number log.anchor (log.written.map Step.payload)
  held : session.outbound.predicted.steps = log.outstanding
  suffix : session.outbound.predicted.steps <:+ log.written
  succeeds :
    ∀ payload,
      (∃ id, (Action.predict payload session).result = .ok id) ↔
        payload.length ≤ session.settings.stepOctets ∧
          session.outbound.predicted.steps.length <
            session.settings.predictedSteps.toNat
  written :
    ∀ payload id, (Action.predict payload session).result = .ok id →
      id = log.anchor + UInt32.ofNat log.written.length ∧
        (Action.predict payload session).session.outbound.predicted =
          { session.outbound.predicted with
            steps := session.outbound.predicted.steps ++ [⟨id, payload⟩]
            nextId := id + 1 }
  refused :
    ∀ payload refusal,
      (Action.predict payload session).result = .error refusal →
        (Action.predict payload session).session = session
  acknowledged :
    ∀ datagram report,
      (session.delivery datagram).report? = some report →
        report.lastPredicted ≠ 0xFFFFFFFF →
          (session.receive datagram).session.outbound.predicted =
            { session.outbound.predicted with
              steps := session.outbound.predicted.steps.filter fun step =>
                ¬step.id ≤ report.lastPredicted }
  unacknowledged :
    ∀ datagram report,
      (session.delivery datagram).report? = some report →
        report.lastPredicted = 0xFFFFFFFF →
          (session.receive datagram).session.outbound.predicted =
            session.outbound.predicted
  anchored :
    ∀ event, session.AnchorsPredicted event →
      (session.after event).outbound.predicted =
        session.outbound.predicted.restart
          (session.after event).situation.anchor
  stays :
    ∀ event, ¬session.AnchorsPredicted event →
      (∀ last, session.prediction? event ≠ some (.acknowledged last)) →
        session.outbound.predicted.steps <+:
          (session.after event).outbound.predicted.steps

/-- A report takes what it covers, and nothing else. -/
theorem predicted_of_report
    {log : PredictionLog}
    {session : Session}
    (kept : log.Kept session.outbound.predicted)
    (inRange : log.InRange)
    {datagram : Octets}
    {report : StepReport}
    (reports : (session.delivery datagram).report? = some report) :
    (session.receive datagram).session.outbound.predicted =
      { session.outbound.predicted with
        steps := session.outbound.predicted.steps.filter fun step =>
          ¬(report.lastPredicted ≠ 0xFFFFFFFF ∧
            step.id ≤ report.lastPredicted) } := by
  have acknowledges :
      (session.receive datagram).session.outbound.predicted =
        session.outbound.predicted.discardBelow (report.lastPredicted + 1) :=
    congrArg Outbound.predicted
      ((congrArg Situation.outbound (situation_receive session datagram)).trans
        (session.situation.outbound_accept_report reports))
  have left := kept.steps_acknowledge inRange report.lastPredicted
  rw [acknowledges]
  exact congrArg (fun steps : List Step =>
    { session.outbound.predicted with steps := steps }) left

/-- The queue holds as many steps as the settings say. -/
theorem capacity_predicted (settings : Settings) (events : List Event) :
    let session := (create settings).1.afterAll events
    session.outbound.predicted.capacity =
      session.settings.predictedSteps.toNat := by
  have capacities := capacities_afterAll settings events
  rw [← settings_afterAll settings events] at capacities
  generalize (create settings).1.afterAll events = session at capacities ⊢
  exact congrArg Prod.fst capacities

theorem Logged.queued
    {log : PredictionLog}
    {session : Session}
    (logged : Logged log session)
    (inRange : log.InRange)
    (capacity :
      session.outbound.predicted.capacity =
        session.settings.predictedSteps.toNat) :
    Queued log session := by
  have kept := logged.kept
  constructor
  case consecutive => exact kept.numbered
  case held => exact kept.outstanding inRange
  case suffix => exact kept.suffix
  case succeeds =>
    intro payload
    rw [← capacity]
    by_cases fits : session.Fits payload
    · exact iff_of_true ⟨_, (predict_of_fits fits).1⟩ fits
    · obtain ⟨refusal, refused⟩ := (predict_of_not_fits fits).1
      refine iff_of_false ?_ fits
      rintro ⟨id, succeeds⟩
      cases refused.symm.trans succeeds
  case written =>
    intro payload id succeeds
    by_cases fits : session.Fits payload
    · obtain ⟨result, writes⟩ := predict_of_fits fits
      obtain rfl := Except.ok.inj (result.symm.trans succeeds)
      refine ⟨kept.next, ?_⟩
      rw [writes]
      rfl
    · obtain ⟨refusal, refused⟩ := (predict_of_not_fits fits).1
      cases refused.symm.trans succeeds
  case refused =>
    intro payload refusal refused
    by_cases fits : session.Fits payload
    · cases (predict_of_fits fits).1.symm.trans refused
    · exact (predict_of_not_fits fits).2
  case acknowledged =>
    intro datagram report reports counts
    rw [predicted_of_report kept inRange reports]
    simp only [counts, ne_eq, not_false_eq_true, true_and]
  case unacknowledged =>
    intro datagram report reports nothing
    have all :
        (session.outbound.predicted.steps.filter fun step =>
          ¬(report.lastPredicted ≠ 0xFFFFFFFF ∧
            step.id ≤ report.lastPredicted)) =
          session.outbound.predicted.steps :=
      List.filter_eq_self.mpr fun step _ => by simp [nothing]
    rw [predicted_of_report kept inRange reports, all]
  case anchored =>
    intro event anchors
    obtain ⟨taken, numbers⟩ := logged.numbers
    rw [predicted_after numbers event, if_pos anchors]
  case stays =>
    intro event goesOn silent
    obtain ⟨taken, numbers⟩ := logged.numbers
    rw [predicted_after numbers event, if_neg goesOn]
    cases found : session.prediction? event with
    | none => exact List.prefix_rfl
    | some entry =>
        cases entry with
        | acknowledged last => exact absurd found (silent last)
        | written step => exact List.prefix_append _ _

/--
In every run, as long as the ids stay below the largest of all, the queue of
predicted steps holds those that were written since they were anchored and that no
later acknowledgement covers.
-/
theorem predicted_queue
    (settings : Settings)
    (events : List Event)
    (inRange : (predictionLogOf settings events).InRange) :
    Queued (predictionLogOf settings events)
      ((create settings).1.afterAll events) :=
  (logged_afterAll settings events).queued inRange
    (capacity_predicted settings events)

/-- Of the two steps that are sent twice, the server has the first. -/
theorem predicted_queue_sendingTwice :
    let log := predictionLogOf Settings.standard sendingTwice
    let session := (create Settings.standard).1.afterAll sendingTwice
    log =
        ⟨5, [.written ⟨5, [19]⟩, .written ⟨6, [23]⟩, .acknowledged 5]⟩ ∧
      session.outbound.predicted.steps = [⟨6, [23]⟩] ∧
      log.InRange ∧ Queued log session := by
  intro log session
  have inRange : log.InRange := by
    unfold PredictionLog.InRange
    decide +kernel
  refine ⟨by decide +kernel, by decide +kernel, inRange, ?_⟩
  exact predicted_queue Settings.standard sendingTwice inRange

end Session

end StepSync
