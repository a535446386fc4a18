import StepSync.Proofs.Session.Outgoing
import StepSync.Proofs.Session.Phase

namespace StepSync

/-!
# One beat

A tick whose receiving does not fail is a beat of the session.  It goes on with
what is received (`Situation.Proceeds`), then the link is judged, and then the
message that is due is offered to the transport, if the countdown is over
(`Session.Ends`).  A request of the handshake begins the countdown anew, whether
or not the transport takes it.
-/

namespace ClientMessage

/-- The command of a message. -/
def command : ClientMessage → Command
  | connect _ => .connectRequest
  | join _ => .joinGameRequest
  | requestState _ => .downloadGameStateRequest
  | downloadStatus .. => .downloadGameStateStatus
  | steps .. => .gameStep

end ClientMessage

namespace Situation

variable {situation : Situation}

/-- The message that is due is the one that the phase calls for. -/
theorem command?_of_due
    {message : ClientMessage}
    (due : situation.dueMessage? = some message) :
    situation.phase.command? = some message.command := by
  unfold dueMessage? at due
  unfold phase
  cases stage : situation.stage with
  | idle => simp [stage] at due
  | connected => simp [stage] at due
  | disconnected => simp [stage] at due
  | requestingConnect =>
      simp only [stage, Option.some.injEq] at due
      subst due
      rfl
  | requestingState =>
      cases progress : situation.progress with
      | outOfSlots => simp [stage, progress] at due
      | joined =>
          simp only [stage, progress, Option.some.injEq] at due
          subst due
          rfl
      | joining =>
          simp only [stage, progress, Option.map_eq_some_iff] at due
          obtain ⟨request, _, rfl⟩ := due
          rfl
  | downloadingState =>
      simp only [stage, Option.map_eq_some_iff] at due
      obtain ⟨download, _, rfl⟩ := due
      rfl
  | synced =>
      simp only [stage, Option.some.injEq] at due
      subst due
      rfl

/-- A repeated request is due, unless it is that to join and nobody is to join. -/
theorem due_of_repeats
    (repeats : situation.phase.Repeats)
    (asks : situation.phase = .joining →
      situation.joinRequest.isSome = true) :
    ∃ message, situation.dueMessage? = some message := by
  unfold dueMessage?
  rcases Phase.stage_of_repeats repeats with
    stage | ⟨stage, progress⟩ | ⟨stage, progress⟩
  · rw [stage]
    exact ⟨_, rfl⟩
  · have joining : situation.phase = .joining := by
      rw [phase, stage, progress]
      rfl
    obtain ⟨request, requested⟩ :=
      Option.isSome_iff_exists.mp (asks joining)
    rw [stage, progress, requested]
    exact ⟨.join request, rfl⟩
  · rw [stage, progress]
    exact ⟨_, rfl⟩

/-- The request to join is due only if somebody is to join. -/
theorem asks_of_due
    {message : ClientMessage}
    (due : situation.dueMessage? = some message)
    (joining : situation.phase = .joining) :
    situation.joinRequest.isSome = true := by
  have repeats : situation.phase.Repeats := .inr (.inl joining)
  rcases Phase.stage_of_repeats repeats with
    stage | ⟨stage, progress⟩ | ⟨stage, progress⟩
  · rw [phase, stage] at joining
    cases joining
  · simp only [dueMessage?, stage, progress, Option.map_eq_some_iff] at due
    obtain ⟨request, requested, _⟩ := due
    rw [requested]
    rfl
  · rw [phase, stage, progress] at joining
    cases joining

end Situation

namespace Session

/-- A repeated request that is due sets the countdown. -/
theorem dueWait_of_due
    {session : Session}
    (repeats : session.situation.phase.Repeats)
    {message : ClientMessage}
    (due : session.situation.dueMessage? = some message) :
    session.dueWait = handshakeWait := by
  unfold dueWait
  rcases Phase.stage_of_repeats repeats with
    stage | ⟨stage, progress⟩ | ⟨stage, progress⟩
  · rw [show session.stage = _ from stage]
  · have joining : session.situation.phase = .joining := by
      rw [Situation.phase, stage, progress]
      rfl
    obtain ⟨request, requested⟩ :=
      Option.isSome_iff_exists.mp (Situation.asks_of_due due joining)
    rw [show session.stage = _ from stage,
      show session.progress = _ from progress,
      show session.joinRequest = _ from requested]
    rfl
  · rw [show session.stage = _ from stage,
      show session.progress = _ from progress]

/-- The session once its link is judged. -/
def judged (session : Session) : Session :=
  (Action.judgeLink session).session

/--
Judging the link leaves the situation, or does as if the application
had disconnected.
-/
theorem of_judged
    {session : Session}
    {Holds : Situation → Prop}
    (same : Holds session.situation)
    (gone : Holds (session.situation.ask .disconnect)) :
    Holds session.judged.situation := by
  rcases Action.judgeLink_spec session with
    ⟨_, unchanged⟩ | ⟨_, _, disconnected⟩
  · rw [judged, unchanged]
    exact same
  · rw [judged, disconnected]
    exact gone

theorem coherent_judged
    {session : Session}
    (coherent : session.situation.Coherent) :
    session.judged.situation.Coherent :=
  of_judged coherent (coherent.ask .disconnect)

theorem composable_judged
    {session : Session}
    (composable : session.situation.Composable) :
    session.judged.situation.Composable :=
  of_judged composable (composable.ask .disconnect)

theorem unwaiting_judged
    {session : Session}
    (unwaiting : session.situation.Unwaiting) :
    session.judged.situation.Unwaiting :=
  of_judged unwaiting (unwaiting.ask .disconnect)

theorem proceeds_judged (session : Session) :
    session.situation.Proceeds session.judged.situation :=
  of_judged (.refl _) (session.situation.proceeds_ask nofun)

/--
The countdown after a beat: begun anew if the request was offered, and
else one less.
-/
def nextWait (session : Session) : Nat :=
  if session.waitTicks - 1 = 0 then (session.waiting 0).dueWait
  else session.waitTicks - 1

/--
What a beat comes to for a session whose link is judged.  What is due is offered
once the countdown is over, whether or not the transport takes it.
-/
structure Ends
    (sending : Session)
    (refusal : Option String)
    (ended : Tick) :
    Prop where
  offered : ended.offered = sending.dueNow?.map sending.datagramOf
  stage : ended.outcome.session.stage = sending.stage
  progress : ended.outcome.session.progress = sending.progress
  joinRequest : ended.outcome.session.joinRequest = sending.joinRequest
  waits : sending.situation.phase.Repeats →
    ended.outcome.session.waitTicks = sending.nextWait
  unwaiting : sending.situation.Unwaiting →
    ended.outcome.session.situation.Unwaiting
  sendSequence :
    ended.outcome.session.sendSequence =
      if ended.offered.isSome = true ∧ refusal = none then
        sending.sendSequence.advance
      else sending.sendSequence

/--
The transport's answer changes the time to wait in the game only,
where it is none.
-/
theorem waitTicks_concludeSending
    (datagram : Octets)
    (refusal : Option String)
    (session : Session) :
    (Action.concludeSending datagram refusal session).session.waitTicks =
      if session.stage = .synced ∧ refusal = none then 0
      else session.waitTicks := by
  cases refusal with
  | some failure => simp [Action.concludeSending, Action.session_bind]
  | none =>
      by_cases synced : session.stage = .synced <;>
        simp [Action.concludeSending, Action.session_bind,
          Action.countSent, Action.commitSteps, synced]

/--
What is prepared keeps the stage and the joining, and counts down
or begins anew.
-/
theorem prepared_frame (session : Session) (now : Nat) :
    (session.prepared now).stage = session.stage ∧
      (session.prepared now).progress = session.progress ∧
      (session.prepared now).joinRequest = session.joinRequest ∧
      (session.prepared now).sendSequence = session.sendSequence ∧
      (session.prepared now).waitTicks = session.nextWait := by
  unfold prepared nextWait
  split <;> exact ⟨rfl, rfl, rfl, rfl, rfl⟩

/-- Where no tick is waited, none will be. -/
theorem nextWait_of_unwaiting
    {session : Session}
    (unwaiting : session.situation.Unwaiting)
    (later : session.stage = .downloadingState ∨ session.stage = .synced) :
    session.nextWait = 0 := by
  have ready : session.waitTicks = 0 := unwaiting later
  rw [nextWait, ready, if_pos rfl, dueWait]
  rcases later with downloading | synced
  · rw [show (session.waiting 0).stage = _ from downloading]
  · rw [show (session.waiting 0).stage = _ from synced]
    rfl

/--
A datagram that was prepared is offered, and the transport's answer
ends the beat.
-/
theorem ends_of_prepared
    {sending prepared : Session}
    (stage : prepared.stage = sending.stage)
    (progress : prepared.progress = sending.progress)
    (joinRequest : prepared.joinRequest = sending.joinRequest)
    (sendSequence : prepared.sendSequence = sending.sendSequence)
    (waits : prepared.waitTicks = sending.nextWait)
    {message : ClientMessage}
    (due : sending.dueNow? = some message)
    (notices : List Notice)
    (refusal : Option String) :
    let datagram := sending.datagramOf message
    let concluded := Action.concludeSending datagram refusal prepared
    Ends sending refusal
      ⟨{ concluded with notices := notices ++ concluded.notices }, [],
        some datagram⟩ := by
  intro datagram concluded
  have sends := Action.Sends.concludeSending datagram refusal prepared
  have waitTicks := waitTicks_concludeSending datagram refusal prepared
  have numbering :=
    (concluded_concludeSending datagram refusal prepared).1
  have sameStage : concluded.session.stage = prepared.stage := sends.stage
  constructor
  case offered => rw [due]; rfl
  case stage => exact sameStage.trans stage
  case progress =>
    exact (congrArg Situation.progress sends.frame).trans progress
  case joinRequest =>
    exact (congrArg Situation.joinRequest sends.frame).trans joinRequest
  case waits =>
    intro repeats
    have unsynced : prepared.stage ≠ .synced := by
      rw [stage]
      rcases Phase.stage_of_repeats repeats with
        other | ⟨other, _⟩ | ⟨other, _⟩ <;>
        · rw [show sending.stage = _ from other]
          nofun
    rw [if_neg fun both => unsynced both.1] at waitTicks
    exact waitTicks.trans waits
  case unwaiting =>
    intro unwaiting later
    have laterBefore :
        sending.stage = .downloadingState ∨ sending.stage = .synced := by
      rw [← stage, ← sameStage]
      exact later
    rw [waits, nextWait_of_unwaiting unwaiting laterBefore, ite_self]
      at waitTicks
    exact waitTicks
  case sendSequence =>
    rw [← sendSequence]
    cases refusal with
    | none => exact numbering.2
    | some failure => exact numbering.2

/--
A session whose link is good offers what is due, and does as the
transport's answer says.
-/
theorem ends_of_good
    {session : Session}
    (composable : session.judged.situation.Composable)
    (coherent : session.judged.situation.Coherent)
    (good : (Action.judgeLink session).result = .ok true)
    (now : Nat)
    (refusal : Option String) :
    Ends session.judged refusal (session.endTick now refusal) := by
  have gives :
      Action.Gives (Action.prepareSending now) session
        (session.judged.prepared now)
        (session.judged.dueNow?.map session.judged.datagramOf) :=
    .bind ⟨rfl, good⟩ (Action.gives_prepared composable coherent now)
  obtain ⟨stage, progress, joinRequest, sendSequence, waits⟩ :=
    session.judged.prepared_frame now
  unfold endTick
  dsimp only
  rw [gives.result, gives.session]
  cases due : session.judged.dueNow? with
  | some message =>
      exact ends_of_prepared stage progress joinRequest sendSequence waits
        due _ refusal
  | none =>
      refine
        ⟨by rw [due]; rfl, stage, progress, joinRequest, fun _ => waits,
          fun unwaiting later => ?_, sendSequence⟩
      have laterBefore :
          session.judged.stage = .downloadingState ∨
            session.judged.stage = .synced := by
        rw [← stage]
        exact later
      exact waits.trans (nextWait_of_unwaiting unwaiting laterBefore)

/-- A beat ends as the session that is about to send lets it end. -/
theorem ends_endTick
    {session : Session}
    (composable : session.situation.Composable)
    (coherent : session.situation.Coherent)
    (now : Nat)
    (refusal : Option String) :
    Ends session.judged refusal (session.endTick now refusal) := by
  rcases Action.judgeLink_spec session with
    ⟨good, _⟩ | ⟨givenUp, _, gone⟩
  · exact ends_of_good (composable_judged composable)
      (coherent_judged coherent) good now refusal
  · obtain ⟨nothing, leaves⟩ := endTick_of_givenUp givenUp now refusal
    have disconnected : session.judged.stage = .disconnected :=
      congrArg Situation.stage gone
    have quiet : session.judged.dueNow? = none := by
      rw [dueNow?, Situation.dueMessage?_of_quiet
        (.inr (.inr disconnected)), ite_self]
    refine ⟨?_, ?_, ?_, ?_, ?_, ?_, ?_⟩
    · rw [nothing, quiet]
      rfl
    · rw [leaves]
      rfl
    · rw [leaves]
      rfl
    · rw [leaves]
      rfl
    · intro repeats
      rcases Phase.stage_of_repeats repeats with
        other | ⟨other, _⟩ | ⟨other, _⟩ <;>
        cases disconnected.symm.trans other
    · rw [leaves]
      exact id
    · rw [nothing, leaves]
      rfl

/--
A session that is paced: what is due can be composed, and nothing waits
that must not.
-/
structure Paced (session : Session) : Prop where
  numbers : ∃ taken, Numbers taken session
  unwaiting : session.situation.Unwaiting

/-- An event that neither sends nor resets. -/
def Event.Passive : Event → Prop
  | .tickEnded .. | .asked .reset => False
  | _ => True

/-- Without sending and without a reset, a session goes on. -/
theorem Paced.after
    {session : Session}
    (paced : Paced session)
    {event : Event}
    (passive : event.Passive) :
    Paced (session.after event) ∧
      session.situation.Proceeds (session.after event).situation := by
  obtain ⟨taken, numbers⟩ := paced.numbers
  have numbersAfter : ∃ taken, Numbers taken (session.after event) :=
    ⟨_, numbers.after event⟩
  cases event with
  | tickBegun now =>
      have same : (session.after (.tickBegun now)).situation = _ :=
        situation_beginTick now session
      refine ⟨⟨numbersAfter, ?_⟩, ?_⟩
      · rw [same]
        exact paced.unwaiting
      · rw [same]
        exact .refl _
  | received datagram =>
      have accepts : (session.after (.received datagram)).situation = _ :=
        situation_receive session datagram
      refine ⟨⟨numbersAfter, ?_⟩, proceeds_receive numbers.coherent datagram⟩
      rw [accepts]
      exact paced.unwaiting.accept _
  | tickEnded now refusal => exact passive.elim
  | asked request =>
      have asks : (session.after (.asked request)).situation = _ :=
        situation_ask session request
      refine ⟨⟨numbersAfter, ?_⟩, ?_⟩
      · rw [asks]
        exact paced.unwaiting.ask request
      · rw [asks]
        refine session.situation.proceeds_ask ?_
        rintro rfl
        exact passive

theorem Paced.afterAll
    {session : Session}
    (paced : Paced session)
    {events : List Event}
    (passive : ∀ event ∈ events, event.Passive) :
    Paced (session.afterAll events) ∧
      session.situation.Proceeds (session.afterAll events).situation := by
  induction events generalizing session with
  | nil => exact ⟨paced, .refl _⟩
  | cons event events inductionHypothesis =>
      obtain ⟨next, proceeds⟩ :=
        paced.after (passive event List.mem_cons_self)
      obtain ⟨last, goesOn⟩ :=
        inductionHypothesis next fun event member =>
          passive event (List.mem_cons_of_mem _ member)
      exact ⟨last, proceeds.trans goesOn⟩

/-- Receiving neither sends nor resets. -/
theorem passive_receiving
    (now : Nat)
    (arrivals : List Arrival) :
    ∀ event ∈ .tickBegun now :: (datagrams arrivals).map Event.received,
      event.Passive := by
  intro event member
  rcases List.mem_cons.mp member with rfl | member
  · trivial
  · obtain ⟨datagram, _, rfl⟩ := List.mem_map.mp member
    trivial

/-- A tick whose receiving does not fail, and the session that it finds. -/
structure Beat where
  session : Session
  now : Nat
  wire : Wire
  received : failure? wire.arrivals = none

namespace Beat

/-- What the tick comes to. -/
def tick (beat : Beat) : Tick :=
  beat.session.tick beat.now beat.wire

/-- The events before the end of the tick. -/
def receiving (beat : Beat) : List Event :=
  .tickBegun beat.now :: (datagrams beat.wire.arrivals).map Event.received

/--
The session that is about to send: everything was received, and the
link is judged.
-/
def sending (beat : Beat) : Session :=
  (beat.session.afterAll beat.receiving).judged

/-- The session that the tick leaves. -/
def left (beat : Beat) : Session :=
  beat.tick.outcome.session

/--
The command in the datagram that is offered to the transport, if one is offered.
-/
def command? (beat : Beat) : Option Command :=
  (beat.tick.offered.bind ClientMessage.ofDatagram?).map
    ClientMessage.command

variable {beat : Beat}

/-- What is received leaves a paced session, and lets it go on. -/
theorem receives (paced : Paced beat.session) :
    Paced (beat.session.afterAll beat.receiving) ∧
      beat.session.situation.Proceeds
        (beat.session.afterAll beat.receiving).situation :=
  paced.afterAll (passive_receiving beat.now beat.wire.arrivals)

/-- A beat ends as the session that is about to send lets it end. -/
theorem ends (paced : Paced beat.session) :
    Ends beat.sending beat.wire.refusal beat.tick := by
  obtain ⟨received, _⟩ := receives paced
  obtain ⟨_, numbers⟩ := received.numbers
  have ended :=
    ends_endTick numbers.composable numbers.coherent beat.now
      beat.wire.refusal
  obtain ⟨leaves, _, offers⟩ :=
    tick_of_received beat.received beat.session beat.now
  constructor
  case offered => exact offers.trans ended.offered
  case stage => exact (congrArg Session.stage leaves).trans ended.stage
  case progress =>
    exact (congrArg Session.progress leaves).trans ended.progress
  case joinRequest =>
    exact (congrArg Session.joinRequest leaves).trans ended.joinRequest
  case waits =>
    exact fun repeats =>
      (congrArg Session.waitTicks leaves).trans (ended.waits repeats)
  case unwaiting =>
    intro unwaiting
    rw [tick, leaves]
    exact ended.unwaiting unwaiting
  case sendSequence =>
    rw [tick, leaves, offers]
    exact ended.sendSequence

/--
What is received lets a session go on to the sending, and it can
compose what is due.
-/
theorem proceeds (paced : Paced beat.session) :
    beat.session.situation.Proceeds beat.sending.situation :=
  (receives paced).2.trans (proceeds_judged _)

theorem coherent_sending (paced : Paced beat.session) :
    beat.sending.situation.Coherent := by
  obtain ⟨_, numbers⟩ := (receives paced).1.numbers
  exact coherent_judged numbers.coherent

theorem unwaiting_sending (paced : Paced beat.session) :
    beat.sending.situation.Unwaiting :=
  unwaiting_judged (receives paced).1.unwaiting

/-- What is offered can be read: it is the message that is due. -/
theorem command?_eq (paced : Paced beat.session) :
    beat.command? = beat.sending.dueNow?.map ClientMessage.command := by
  obtain ⟨_, numbers⟩ := (receives paced).1.numbers
  have coherent := beat.coherent_sending paced
  have composable : beat.sending.situation.Composable :=
    composable_judged numbers.composable
  rw [command?, (ends paced).offered]
  cases offered : beat.sending.dueNow? with
  | none => rfl
  | some message =>
      have due : beat.sending.situation.dueMessage? = some message := by
        unfold dueNow? at offered
        split at offered
        · exact offered
        · cases offered
      have read :
          ClientMessage.ofDatagram? (beat.sending.datagramOf message) =
            some message :=
        ofDatagram?_framed (named_of_coherent coherent (present_of_due due))
          (composable.fits due).1 _ _
      rw [Option.map_some, Option.bind_some, read]

/-- What is offered is what the phase calls for. -/
theorem command?_phase
    (paced : Paced beat.session)
    {command : Command}
    (offered : beat.command? = some command) :
    beat.sending.situation.phase.command? = some command := by
  rw [command?_eq paced, Option.map_eq_some_iff] at offered
  obtain ⟨message, dueNow, rfl⟩ := offered
  unfold dueNow? at dueNow
  split at dueNow
  · exact Situation.command?_of_due dueNow
  · cases dueNow

/-- Something is offered exactly if something is due and not waited for. -/
theorem isSome_offered (paced : Paced beat.session) :
    beat.tick.offered.isSome = beat.command?.isSome := by
  rw [command?_eq paced, (ends paced).offered, Option.isSome_map,
    Option.isSome_map]

/-- As long as the countdown is not over, nothing is offered. -/
theorem command?_of_waiting
    (paced : Paced beat.session)
    (waits : beat.sending.waitTicks - 1 ≠ 0) :
    beat.command? = none := by
  rw [command?_eq paced, dueNow?, if_neg waits]
  rfl

/-- Once it is over, the message that is due is offered. -/
theorem command?_of_ready
    (paced : Paced beat.session)
    (ready : beat.sending.waitTicks - 1 = 0)
    {message : ClientMessage}
    (due : beat.sending.situation.dueMessage? = some message) :
    beat.command? = beat.sending.situation.phase.command? := by
  rw [command?_eq paced, dueNow?, if_pos ready, due,
    Situation.command?_of_due due]
  rfl

/-- Sending leaves the phase. -/
theorem phase_left (paced : Paced beat.session) :
    beat.left.situation.phase = beat.sending.situation.phase := by
  have ended := ends paced
  have stage : beat.left.situation.stage = _ := ended.stage
  have progress : beat.left.situation.progress = _ := ended.progress
  rw [Situation.phase, stage, progress]
  rfl

/-- A beat leaves a session that is paced. -/
theorem paced_left (paced : Paced beat.session) : Paced beat.left := by
  obtain ⟨received, _⟩ := receives paced
  obtain ⟨_, numbers⟩ := received.numbers
  have leaves := (tick_of_received beat.received beat.session beat.now).1
  have next := numbers.after (.tickEnded beat.now beat.wire.refusal)
  rw [after, receiving, ← leaves] at next
  exact
    ⟨⟨_, next⟩, (ends paced).unwaiting (unwaiting_sending paced)⟩

end Beat

end Session

namespace Situation

/-- A request is repeated once so many beats have passed. -/
structure Counts (situation : Situation) (beats : Nat) : Prop where
  repeats : situation.phase.Repeats
  asks : situation.phase = .joining → situation.joinRequest.isSome = true
  waits : situation.waitTicks = beats + 1

/-- The countdown goes on as long as the phase does. -/
theorem Counts.proceeds
    {first second : Situation}
    {beats : Nat}
    (counts : first.Counts beats)
    (proceeds : first.Proceeds second)
    (same : second.phase = first.phase) :
    second.Counts beats where
  repeats := same ▸ counts.repeats
  asks := fun joining => proceeds.asks (counts.asks (same ▸ joining))
  waits := (proceeds.waits same counts.repeats).trans counts.waits

end Situation

namespace Session.Beat

variable {beat : Beat}

/-- A beat of the countdown. -/
theorem counts_left
    (paced : Paced beat.session)
    {beats : Nat}
    (counts : beat.sending.situation.Counts (beats + 1)) :
    beat.command? = none ∧ beat.left.situation.Counts beats := by
  have waits : beat.sending.waitTicks = beats + 1 + 1 := counts.waits
  have notOver : beat.sending.waitTicks - 1 ≠ 0 := by omega
  have same := beat.phase_left paced
  refine ⟨command?_of_waiting paced notOver, ?_, ?_, ?_⟩
  · rw [same]
    exact counts.repeats
  · intro joining
    have asks := counts.asks (same ▸ joining)
    have kept : beat.left.situation.joinRequest = _ :=
      (ends paced).joinRequest
    rw [kept]
    exact asks
  · have left : beat.left.situation.waitTicks = _ :=
      (ends paced).waits counts.repeats
    rw [left, nextWait, if_neg notOver]
    omega

/-- The last beat of the countdown, in which the request is offered. -/
theorem command?_of_counted
    (paced : Paced beat.session)
    (counts : beat.sending.situation.Counts 0) :
    beat.command? = beat.sending.situation.phase.command? := by
  obtain ⟨message, due⟩ :=
    Situation.due_of_repeats counts.repeats counts.asks
  have waits : beat.sending.waitTicks = 1 := counts.waits
  exact command?_of_ready paced (by omega) due

/-- A repeated request that is offered begins the countdown. -/
theorem counts_of_offered
    (paced : Paced beat.session)
    (repeats : beat.sending.situation.phase.Repeats)
    {command : Command}
    (offered : beat.command? = some command) :
    beat.left.situation.Counts 3 := by
  rw [command?_eq paced, Option.map_eq_some_iff] at offered
  obtain ⟨message, dueNow, rfl⟩ := offered
  have same := beat.phase_left paced
  unfold dueNow? at dueNow
  split at dueNow
  case isFalse => cases dueNow
  case isTrue ready =>
    refine ⟨same ▸ repeats, fun joining => ?_, ?_⟩
    · have kept : beat.left.situation.joinRequest = _ :=
        (ends paced).joinRequest
      rw [kept]
      exact Situation.asks_of_due dueNow (same ▸ joining)
    · have left : beat.left.situation.waitTicks = _ :=
        (ends paced).waits repeats
      have wait : (beat.sending.waiting 0).dueWait = handshakeWait :=
        dueWait_of_due repeats dueNow
      rw [left, nextWait, if_pos ready, wait]
      rfl

end Session.Beat

end StepSync
