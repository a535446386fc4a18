import StepSync.Proofs.Session.Lifecycle
import StepSync.Proofs.Steps.Stream

namespace StepSync

/-!
# Reading authoritative steps

The application reads authoritative steps from a session between ticks, while
datagrams come in any order, repeated, or not at all.  `Session.noteStream` looks
on: it starts again when the session is reset and when a download is finished,
and notes which fragments came in reach and which steps were read.  What the
session holds stays faithful to these notes, so what is read is the stream.
-/

namespace Situation

/-- The event has made a session synced. -/
def Syncs (before after : Situation) : Prop :=
  before.stage ≠ .synced ∧ after.stage = .synced

instance (before after : Situation) : Decidable (Syncs before after) := by
  unfold Syncs
  infer_instance

/-- Both buffers go on from the step of a snapshot. -/
structure AnchoredAt
    (before after : Situation)
    (snapshot : Snapshot) :
    Prop where
  taken : after.snapshot = some snapshot
  inbound : after.inbound = before.inbound.restart snapshot.stepId
  outbound : after.outbound = before.outbound.restart snapshot.stepId
  waits : after.waitTicks = 0

/--
A finished download anchors the buffers, and nothing else makes a
session synced.
-/
theorem finishDownload_cases (situation : Situation) :
    situation.finishDownload = situation ∨
      situation.Syncs situation.finishDownload ∧
        ∃ snapshot, situation.AnchoredAt situation.finishDownload snapshot := by
  unfold finishDownload
  split
  · exact .inl rfl
  · split
    case isTrue => exact .inl rfl
    case isFalse unsynced =>
      exact .inr ⟨⟨unsynced, rfl⟩, _, rfl, rfl, rfl, rfl⟩

/--
What a delivery does to the authoritative steps: anchor them, add to
them, or nothing.
-/
theorem inbound_accept (situation : Situation) (delivery : Delivery) :
    (situation.Syncs (situation.accept delivery) ∧
        ∃ snapshot,
          situation.AnchoredAt (situation.accept delivery) snapshot) ∨
      ¬situation.Syncs (situation.accept delivery) ∧
        (situation.accept delivery).inbound =
          match delivery with
          | .steps _ steps => situation.inbound.takeAll steps
          | _ => situation.inbound := by
  have stays {after : Situation}
      (same : after.stage = situation.stage) :
      ¬situation.Syncs after :=
    fun ⟨unsynced, synced⟩ => unsynced (same.symm.trans synced)
  have elsewhere {after : Situation} (other : after.stage ≠ .synced) :
      ¬situation.Syncs after :=
    fun syncs => other syncs.2
  cases delivery with
  | nothing => exact .inr ⟨stays rfl, rfl⟩
  | outOfSlots => exact .inr ⟨stays rfl, rfl⟩
  | report report => exact .inr ⟨stays rfl, rfl⟩
  | steps report steps => exact .inr ⟨stays rfl, rfl⟩
  | connection response =>
      right
      simp only [accept, acceptConnection]
      split
      · exact ⟨elsewhere (by simp), rfl⟩
      · exact ⟨stays rfl, rfl⟩
  | membership response =>
      right
      simp only [accept, acceptMembership]
      split
      · exact ⟨stays rfl, rfl⟩
      · exact ⟨stays rfl, rfl⟩
  | download response =>
      simp only [accept, acceptDownload]
      split
      case isTrue awaits =>
        have requesting := awaits.2.1
        rcases (situation.startDownload response).finishDownload_cases with
          same | ⟨⟨_, synced⟩, snapshot, anchored⟩
        · right
          rw [same]
          exact ⟨elsewhere (by simp [startDownload]), rfl⟩
        · left
          refine ⟨⟨by rw [requesting]; decide, synced⟩, snapshot, ?_⟩
          exact
            ⟨anchored.taken, anchored.inbound, anchored.outbound,
              anchored.waits⟩
      case isFalse => exact .inr ⟨stays rfl, rfl⟩
  | part channel chunk =>
      simp only [accept, acceptPart]
      split
      · exact .inr ⟨stays rfl, rfl⟩
      · split
        · exact .inr ⟨stays rfl, rfl⟩
        · split
          · exact .inr ⟨stays rfl, rfl⟩
          · rename_i download _ _ stored _ assembly _
            rcases finishDownload_cases { situation with
                download := some { download with assembly := assembly } } with
              same | ⟨⟨unsynced, synced⟩, snapshot, anchored⟩
            · right
              rw [same]
              exact ⟨stays rfl, rfl⟩
            · left
              refine ⟨⟨unsynced, synced⟩, snapshot, ?_⟩
              exact
                ⟨anchored.taken, anchored.inbound, anchored.outbound,
                  anchored.waits⟩

/-- Reading moves on by the step that is ready. -/
theorem inbound_readStep (situation : Situation) :
    situation.readStep.inbound =
      situation.inbound.read.elim situation.inbound
        Inbound.Reading.inbound := by
  unfold readStep
  cases situation.inbound.read with
  | none => rfl
  | some reading => rfl

end Situation

namespace Session

/-- What somebody notes who looks on at the authoritative steps of a session. -/
def noteStream (stream : StepStream) (session : Session) :
    Event → StepStream
  | .received datagram =>
      let after := (session.receive datagram).session
      if session.situation.Syncs after.situation then
        .anchoredAt (after.snapshot.elim 0 Snapshot.stepId)
      else
        match session.delivery datagram with
        | .steps _ steps => stream.see session.inbound.window.expected steps
        | _ => stream
  | .asked .reset => .anchoredAt 0
  | .asked request =>
      match (session.ask request).1 with
      | .stepRead (.ok (some step)) => stream.read [step]
      | _ => stream
  | .tickBegun _ | .tickEnded _ _ => stream

/-- The stream of authoritative steps that a run of calls shows. -/
def streamOf (settings : Settings) (calls : List Call) : StepStream :=
  watch noteStream (.anchoredAt 0) (create settings).1 (eventsOf calls)

theorem faithful_restart (inbound : Inbound) (first : StepId) :
    Inbound.Faithful (.anchoredAt first) (inbound.restart first) :=
  Inbound.faithful_anchored first rfl rfl

/-- Reading gives the step that is ready, whether or not another takes its place. -/
theorem result_readStep (session : Session) :
    (Action.readStep session).result =
      .ok (session.inbound.read.map Inbound.Reading.step) := by
  rw [Action.readStep, Action.current_bind]
  cases session.inbound.read with
  | none => rfl
  | some reading =>
      rw [Action.result_bind]
      cases reading.refused <;> rfl

/-- The event anchors the buffers of authoritative steps. -/
def Anchors (session : Session) : Event → Prop
  | .received datagram =>
      session.situation.Syncs (session.receive datagram).session.situation
  | .asked request => request = .reset
  | .tickBegun _ | .tickEnded _ _ => False

instance (session : Session) (event : Event) :
    Decidable (session.Anchors event) :=
  match event with
  | .received datagram =>
      inferInstanceAs (Decidable (session.situation.Syncs
        (session.receive datagram).session.situation))
  | .asked request => inferInstanceAs (Decidable (request = .reset))
  | .tickBegun _ => inferInstanceAs (Decidable False)
  | .tickEnded _ _ => inferInstanceAs (Decidable False)

/--
What an event does to the authoritative steps and to what was seen of them,
unless it anchors them.
-/
inductive Passes (stream : StepStream) (inbound : Inbound) :
    StepStream → Inbound → Prop where
  | unchanged : Passes stream inbound stream inbound
  | taken (steps : List Step) :
      Passes stream inbound (stream.see inbound.window.expected steps)
        (inbound.takeAll steps)
  | read (reading : Inbound.Reading) :
      inbound.read = some reading →
        Passes stream inbound (stream.read [reading.step]) reading.inbound

/-- What passes on stays faithful to what was seen. -/
theorem Passes.faithful
    {stream laterStream : StepStream}
    {inbound later : Inbound}
    (passes : Passes stream inbound laterStream later)
    (before : Inbound.Faithful stream inbound) :
    Inbound.Faithful laterStream later := by
  cases passes with
  | unchanged => exact before
  | taken steps => exact before.takeAll steps
  | read reading found => exact before.read found

/-- The end of a tick has nothing to do with authoritative steps. -/
theorem inbound_tickEnded
    (session : Session)
    (now : Nat)
    (refusal : Option String) :
    (session.after (.tickEnded now refusal)).inbound = session.inbound := by
  rcases situation_endTick session now refusal with
    ⟨_, _, disconnected⟩ | sends
  · exact congrArg Situation.inbound disconnected
  · exact congrArg Situation.inbound sends.frame

/--
Receiving anchors the authoritative steps, takes some, or has nothing
to do with them.
-/
theorem passes_received
    (stream : StepStream)
    (session : Session)
    (datagram : Octets) :
    let event := Event.received datagram
    (session.Anchors event ∧
        ∃ first,
          noteStream stream session event = .anchoredAt first ∧
            (session.after event).inbound = session.inbound.restart first) ∨
      ¬session.Anchors event ∧
        Passes stream session.inbound (noteStream stream session event)
          (session.after event).inbound := by
  have receives := situation_receive session datagram
  have inbound :
      (session.after (.received datagram)).inbound =
        (session.situation.accept (session.delivery datagram)).inbound :=
    congrArg Situation.inbound receives
  simp only [Anchors, noteStream, receives]
  rw [inbound]
  rcases session.situation.inbound_accept (session.delivery datagram) with
    ⟨syncs, snapshot, anchored⟩ | ⟨stays, same⟩
  · have taken :
        (session.receive datagram).session.snapshot = some snapshot :=
      (congrArg Situation.snapshot receives).trans anchored.taken
    refine .inl ⟨syncs, snapshot.stepId, ?_, anchored.inbound⟩
    rw [if_pos syncs, taken]
    rfl
  · refine .inr ⟨stays, ?_⟩
    rw [if_neg stays, same]
    cases session.delivery datagram with
    | steps report steps => exact .taken steps
    | nothing => exact .unchanged
    | outOfSlots => exact .unchanged
    | report report => exact .unchanged
    | connection response => exact .unchanged
    | membership response => exact .unchanged
    | download response => exact .unchanged
    | part channel chunk => exact .unchanged

/-- Of the requests, only starting over and reading concern authoritative steps. -/
theorem passes_asked
    (stream : StepStream)
    (session : Session)
    {request : Request}
    (goesOn : request ≠ .reset) :
    Passes stream session.inbound
      (noteStream stream session (.asked request))
      (session.after (.asked request)).inbound := by
  have asks :
      (session.after (.asked request)).inbound =
        (session.situation.ask request).inbound :=
    congrArg Situation.inbound (situation_ask session request)
  rw [asks]
  cases request with
  | reset => exact absurd rfl goesOn
  | requestConnect =>
      simp only [Situation.ask]
      split <;> exact .unchanged
  | beginJoin =>
      simp only [Situation.ask]
      split <;> exact .unchanged
  | assignJoinRequest request => exact .unchanged
  | disconnect => exact .unchanged
  | predict payload =>
      rw [Situation.ask, Situation.predict_frame]
      exact .unchanged
  | readStep =>
      have result :
          (session.ask .readStep).1 =
            .stepRead
              (.ok (session.inbound.read.map Inbound.Reading.step)) :=
        congrArg Answer.stepRead (result_readStep session)
      have moves :
          (session.situation.ask .readStep).inbound =
            session.inbound.read.elim session.inbound
              Inbound.Reading.inbound :=
        session.situation.inbound_readStep
      simp only [noteStream, result, moves]
      cases found : session.inbound.read with
      | none => exact .unchanged
      | some reading => exact .read reading found

/-- An event anchors the authoritative steps, or passes some of them on. -/
theorem passes_after
    (stream : StepStream)
    (session : Session)
    (event : Event) :
    (session.Anchors event ∧
        ∃ first,
          noteStream stream session event = .anchoredAt first ∧
            (session.after event).inbound = session.inbound.restart first) ∨
      ¬session.Anchors event ∧
        Passes stream session.inbound (noteStream stream session event)
          (session.after event).inbound := by
  cases event with
  | received datagram => exact passes_received stream session datagram
  | asked request =>
      by_cases startsOver : request = .reset
      · subst startsOver
        exact .inl ⟨rfl, 0, rfl, rfl⟩
      · exact .inr ⟨startsOver, passes_asked stream session startsOver⟩
  | tickBegun now =>
      have same :
          (session.after (.tickBegun now)).inbound = session.inbound :=
        congrArg Situation.inbound (situation_beginTick now session)
      rw [same]
      exact .inr ⟨id, .unchanged⟩
  | tickEnded now refusal =>
      rw [inbound_tickEnded]
      exact .inr ⟨id, .unchanged⟩

/-- What a session holds stays faithful to what was seen. -/
theorem faithful_after
    {stream : StepStream}
    {session : Session}
    (faithful : Inbound.Faithful stream session.inbound)
    (event : Event) :
    Inbound.Faithful (noteStream stream session event)
      (session.after event).inbound := by
  rcases passes_after stream session event with
    ⟨_, first, noted, anchored⟩ | ⟨_, passes⟩
  · rw [noted, anchored]
    exact faithful_restart _ _
  · exact passes.faithful faithful

/--
Whatever the datagrams and the order of calls, the steps that are read count up
from where the buffers were anchored last, and each is the first fragment of its
id that came in reach.
-/
theorem authoritative_stream (settings : Settings) (calls : List Call) :
    let stream := streamOf settings calls
    ∀ index : Fin stream.reads.length,
      let step := stream.reads[index]
      step.id = stream.anchor + UInt32.ofNat index ∧
        (index.val < UInt32.size →
          stream.fragments.find? (fun fragment => fragment.id == step.id) =
            some step) := by
  intro stream index
  have faithful :
      Inbound.Faithful stream
        ((create settings).1.afterAll (eventsOf calls)).inbound :=
    keeps_watch
      (fun stream session => Inbound.Faithful stream session.inbound)
      (fun _ _ event faithful => faithful_after faithful event)
      (by rw [session_create]; exact Inbound.faithful_anchored 0 rfl rfl)
      (eventsOf calls)
  exact faithful.reads (List.getElem?_eq_getElem index.isLt)

/-- The second step comes first, and another time with another payload. -/
def reordered : List Call :=
  let report := StepReport.fields ⟨1, 0, 20, 4⟩
  syncing ++
    [.receive (numberedMessage 3 (report ++ StepRun.fields 6 [[23]])),
      .ask .readStep,
      .receive (numberedMessage 4 (report ++ StepRun.fields 5 [[19], [29]])),
      .ask .readStep,
      .ask .readStep,
      .ask .readStep]

theorem authoritative_stream_reordered :
    let stream := streamOf Settings.standard reordered
    stream.reads = [⟨5, [19]⟩, ⟨6, [23]⟩] ∧
      stream.fragments.find? (fun fragment => fragment.id == 6) =
        some ⟨6, [23]⟩ := by
  intro stream
  have reads : stream.reads = [⟨5, [19]⟩, ⟨6, [23]⟩] := by
    decide +kernel
  have within : 1 < stream.reads.length := by
    rw [reads]
    decide
  have second : stream.reads[1] = ⟨6, [23]⟩ := by
    simp only [reads]
    rfl
  obtain ⟨_, first⟩ :=
    authoritative_stream Settings.standard reordered ⟨1, within⟩
  have small : 1 < UInt32.size := by decide
  have found := first small
  simp only [Fin.getElem_fin] at found
  rw [second] at found
  exact ⟨reads, found⟩

end Session

end StepSync
