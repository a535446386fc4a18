import StepSync.Proofs.Session.Clock
import StepSync.Proofs.Session.Composing

namespace StepSync

/-!
# Datagrams on their way out

The end of a tick offers the datagram with the message that is due, or nothing.  The
transport may refuse it; then its number is used again.  So the number that a
datagram bears counts the datagrams that were taken before it
(`Session.outgoing_datagram`).
-/

namespace Session

/-- The session once the waiting is over, and the rates are brought up to date. -/
def rated (session : Session) (now : Nat) : Session :=
  { session.waiting 0 with metrics := session.metrics.updateRates now }

/--
The session once a tick has passed, and the message that is due is composed if
it has not to wait.
-/
def prepared (session : Session) (now : Nat) : Session :=
  if session.waitTicks - 1 = 0 then (session.rated now).composed
  else session.waiting (session.waitTicks - 1)

/-- The message that is due, if it has not to wait for more than one tick. -/
def dueNow? (session : Session) : Option ClientMessage :=
  if session.waitTicks - 1 = 0 then session.situation.dueMessage? else none

namespace Action

variable {session : Session}

/--
An action that may offer the message that is due, and nothing else, and changes
neither the numbering nor the predicted steps.
-/
def OffersDue (action : Action (Option Octets)) (session : Session) : Prop :=
  ∃ prepared, ∃ message? : Option ClientMessage,
    (∀ message ∈ message?, session.situation.dueMessage? = some message) ∧
      Gives action session prepared (message?.map session.datagramOf) ∧
      prepared.sendSequence = session.sendSequence ∧
      prepared.outbound.predicted = session.outbound.predicted

/-- What follows once the link of a session is judged to be good. -/
theorem gives_prepared
    (composable : session.situation.Composable)
    (coherent : session.situation.Coherent)
    (now : Nat) :
    Gives
      (do
        if ← passWaiting then
          updateMetrics now
          compose
        else return none)
      session (session.prepared now)
      (session.dueNow?.map session.datagramOf) := by
  have waits :
      Gives passWaiting session (session.waiting (session.waitTicks - 1))
        (session.waitTicks - 1 == 0) :=
    ⟨rfl, (passWaiting_spec session).1⟩
  refine .bind waits ?_
  unfold prepared dueNow?
  by_cases isOver : session.waitTicks - 1 = 0
  · rw [isOver, if_pos rfl, if_pos rfl]
    have updated :
        Gives (updateMetrics now) (session.waiting 0) (session.rated now) () :=
      ⟨rfl, rfl⟩
    have composableThen : (session.rated now).situation.Composable :=
      composable.frame rfl rfl rfl
    have coherentThen : (session.rated now).situation.Coherent :=
      coherent.frame _ _ _ _ (Nat.zero_le _)
    exact .bind updated (gives_composed composableThen coherentThen)
  · have waiting : (session.waitTicks - 1 == 0) = false :=
      beq_eq_false_iff_ne.mpr isOver
    rw [waiting, if_neg isOver, if_neg isOver]
    exact .pure none

/-- Once the waiting is over, the message that is due is offered. -/
theorem offersDue_afterJudging
    (composable : session.situation.Composable)
    (coherent : session.situation.Coherent)
    (now : Nat) :
    OffersDue
      (do
        if ← passWaiting then
          updateMetrics now
          compose
        else return none)
      session := by
  refine ⟨session.prepared now, session.dueNow?, fun message due => ?_,
    gives_prepared composable coherent now, ?_, ?_⟩
  · unfold dueNow? at due
    split at due
    · exact due
    · cases due
  · unfold prepared
    split <;> rfl
  · unfold prepared
    split
    · exact predicted_composed _
    · rfl

/--
A session that has the same situation and time says the same in the
same datagram.
-/
theorem datagramOf_congr
    {other : Session}
    (same : other.situation = session.situation)
    (sameTime : other.now = session.now) :
    other.datagramOf = session.datagramOf := by
  have sameConnection : other.connection = session.connection :=
    congrArg Situation.connection same
  have sameSequence : other.sendSequence = session.sendSequence :=
    congrArg Situation.sendSequence same
  funext message
  rw [datagramOf, datagramOf, sameConnection, sameSequence, sameTime]

/-- What is prepared for sending is nothing, or the message that is due. -/
theorem offersDue_prepareSending
    (composable : session.situation.Composable)
    (coherent : session.situation.Coherent)
    (now : Nat) :
    OffersDue (prepareSending now) session := by
  rcases judgeLink_spec session with
    ⟨good, same⟩ | ⟨givenUp, _, disconnected⟩
  · have sameTime : (judgeLink session).session.now = session.now :=
      Keeps.judgeLink session
    generalize judged : (judgeLink session).session = begun at *
    rw [← same] at composable coherent
    obtain ⟨prepared, message?, due, gives, sequence, predicted⟩ :=
      offersDue_afterJudging composable coherent now
    rw [same] at due
    rw [datagramOf_congr same sameTime] at gives
    refine ⟨prepared, message?, due, .bind ⟨judged, good⟩ gives, ?_, ?_⟩
    · exact sequence.trans (congrArg Situation.sendSequence same)
    · exact predicted.trans
        (congrArg (fun situation => situation.outbound.predicted) same)
  · refine ⟨(judgeLink session).session, none, by simp, ?_, ?_, ?_⟩
    · exact .bind ⟨rfl, givenUp⟩ (.pure none)
    · exact congrArg Situation.sendSequence disconnected
    · exact congrArg (fun situation => situation.outbound.predicted)
        disconnected

end Action

/--
What the transport's answer comes to: only a datagram that is taken uses
up its number.
-/
def Concluded
    (before : Session)
    (refusal : Option String)
    (outcome : Outcome Unit) :
    Prop :=
  match refusal with
  | none =>
      outcome.result = .ok () ∧
        outcome.session.sendSequence = before.sendSequence.advance
  | some failure =>
      outcome.result = .error (.transport failure) ∧
        outcome.session.sendSequence = before.sendSequence

/-- The only refusal is that of the transport. -/
theorem Concluded.isTransport
    {before : Session}
    {refusal : Option String}
    {outcome : Outcome Unit}
    (concluded : Concluded before refusal outcome)
    {failure : Refusal}
    (fails : outcome.result = .error failure) :
    failure.isTransport = true := by
  cases refusal with
  | none =>
      rw [concluded.1] at fails
      cases fails
  | some message =>
      rw [concluded.1] at fails
      obtain rfl := Except.error.inj fails
      rfl

theorem concluded_concludeSending
    (datagram : Octets)
    (refusal : Option String)
    (session : Session) :
    Concluded session refusal
        (Action.concludeSending datagram refusal session) ∧
      (Action.concludeSending datagram refusal
          session).session.outbound.predicted =
        session.outbound.predicted := by
  cases refusal with
  | some failure => exact ⟨⟨rfl, rfl⟩, rfl⟩
  | none =>
      simp only [Concluded, Action.concludeSending, Action.countSent,
        Action.session_bind, Action.result_bind, Action.modify_apply,
        Action.current_apply, Action.ite_apply]
      split
      · exact ⟨⟨rfl, rfl⟩, rfl⟩
      · exact ⟨⟨rfl, rfl⟩, rfl⟩

/--
The end of a tick offers nothing, or the datagram with the message that is due.
-/
theorem endTick_cases
    {session : Session}
    (composable : session.situation.Composable)
    (coherent : session.situation.Coherent)
    (now : Nat)
    (refusal : Option String) :
    let ended := session.endTick now refusal
    ended.outcome.session.outbound.predicted =
        session.outbound.predicted ∧
      ((ended.offered = none ∧ ended.outcome.result = .ok () ∧
          ended.outcome.session.sendSequence = session.sendSequence) ∨
        ∃ message,
          session.situation.dueMessage? = some message ∧
            ended.offered = some (session.datagramOf message) ∧
            Concluded session refusal ended.outcome) := by
  obtain ⟨prepared, message?, due, gives, sequence, predicted⟩ :=
    Action.offersDue_prepareSending composable coherent now
  unfold endTick
  dsimp only
  rw [gives.result, gives.session]
  cases message? with
  | none => exact ⟨predicted, .inl ⟨rfl, rfl, sequence⟩⟩
  | some message =>
      obtain ⟨concluded, keeps⟩ :=
        concluded_concludeSending (session.datagramOf message) refusal
          prepared
      refine ⟨keeps.trans predicted, .inr ⟨message, due message rfl, rfl, ?_⟩⟩
      unfold Concluded at concluded ⊢
      rw [sequence] at concluded
      exact concluded

/-- What somebody notes who looks on at the datagrams that the transport takes. -/
def noteTaken (taken : List Octets) (session : Session) :
    Event → List Octets
  | .tickEnded now none => taken ++ (session.endTick now none).offered.toList
  | .asked .reset => []
  | _ => taken

/--
The datagrams that the transport has taken since the session last started over.
-/
def takenOf (settings : Settings) (calls : List Call) : List Octets :=
  watch noteTaken [] (create settings).1 (eventsOf calls)

/-- The next number counts the datagrams that were taken. -/
structure Numbers (taken : List Octets) (session : Session) : Prop where
  coherent : session.situation.Coherent
  composable : session.situation.Composable
  number : session.sendSequence.next = UInt16.ofNat taken.length

namespace Numbers

variable {taken : List Octets} {session : Session}

theorem after_tickEnded
    (numbers : Numbers taken session)
    (now : Nat)
    (refusal : Option String) :
    Numbers (noteTaken taken session (.tickEnded now refusal))
      (session.after (.tickEnded now refusal)) := by
  obtain ⟨predicted, offers⟩ :=
    endTick_cases numbers.composable numbers.coherent now refusal
  refine
    ⟨(coherent_after numbers.coherent (.tickEnded now refusal)).1, ?_, ?_⟩
  · rcases situation_endTick session now refusal with
      ⟨_, _, disconnected⟩ | sends
    · rw [after, disconnected]
      exact numbers.composable.frame rfl rfl rfl
    · have joinRequest := congrArg Situation.joinRequest sends.frame
      have download := congrArg Situation.download sends.frame
      exact numbers.composable.frame joinRequest download predicted
  · rw [after]
    rcases offers with ⟨nothing, _, same⟩ | ⟨message, _, offered, concluded⟩
    · rw [same, numbers.number]
      cases refusal with
      | none => rw [noteTaken, nothing, Option.toList_none, List.append_nil]
      | some failure => rfl
    · cases refusal with
      | none =>
          rw [concluded.2, noteTaken, offered, Option.toList_some,
            List.length_append, UInt16.ofNat_add, ← numbers.number]
          rfl
      | some failure =>
          rw [concluded.2, numbers.number]
          rfl

theorem after_asked
    (numbers : Numbers taken session)
    (request : Request) :
    Numbers (noteTaken taken session (.asked request))
      (session.after (.asked request)) := by
  have asks := situation_ask session request
  refine ⟨(coherent_after numbers.coherent (.asked request)).1, ?_, ?_⟩
  · rw [after, asks]
    exact numbers.composable.ask request
  · have sequence := congrArg Situation.sendSequence asks
    rw [after, show (session.ask request).2.sendSequence = _ from sequence]
    cases request with
    | reset => rfl
    | disconnect => exact numbers.number
    | assignJoinRequest request => exact numbers.number
    | requestConnect =>
        simp only [Situation.ask]
        split <;> exact numbers.number
    | beginJoin =>
        simp only [Situation.ask]
        split <;> exact numbers.number
    | predict payload =>
        rw [Situation.ask, Situation.predict_frame]
        exact numbers.number
    | readStep =>
        rw [Situation.ask, Situation.readStep_frame]
        exact numbers.number

theorem after (numbers : Numbers taken session) (event : Event) :
    Numbers (noteTaken taken session event) (session.after event) := by
  cases event with
  | tickBegun now =>
      have same := situation_beginTick now session
      have sequence := congrArg Situation.sendSequence same
      refine ⟨?_, ?_, ?_⟩
      · rw [Session.after, same]
        exact numbers.coherent
      · rw [Session.after, same]
        exact numbers.composable
      · exact (congrArg SendSequence.next sequence).trans numbers.number
  | received datagram =>
      have receives := situation_receive session datagram
      have sequence := congrArg Situation.sendSequence receives
      refine
        ⟨(coherent_after numbers.coherent (.received datagram)).1, ?_, ?_⟩
      · rw [Session.after, receives]
        exact numbers.composable.accept _
      · rw [Situation.accept_frame] at sequence
        exact (congrArg SendSequence.next sequence).trans numbers.number
  | tickEnded now refusal => exact numbers.after_tickEnded now refusal
  | asked request => exact numbers.after_asked request

/-- What a tick receives is not sent. -/
theorem afterReceiving
    (numbers : Numbers taken session)
    (now : Nat)
    (received : List Octets) :
    Numbers taken
      (session.afterAll
        (.tickBegun now :: received.map Event.received)) := by
  have begun : Numbers taken (session.after (.tickBegun now)) :=
    numbers.after (.tickBegun now)
  rw [afterAll_cons]
  generalize session.after (.tickBegun now) = session at begun
  induction received generalizing session with
  | nil => exact begun
  | cons datagram received inductionHypothesis =>
      exact inductionHypothesis _ (begun.after (.received datagram))

end Numbers

theorem numbers_afterAll (settings : Settings) (events : List Event) :
    Numbers (watch noteTaken [] (create settings).1 events)
      ((create settings).1.afterAll events) := by
  refine keeps_watch Numbers (fun _ _ event numbers => numbers.after event)
    ?_ events
  rw [session_create]
  exact
    ⟨coherent_idle settings.clamp.1,
      ⟨by simp [idle, situation], by simp [idle, situation],
        StepQueue.countsUp_empty _ _⟩,
      rfl⟩

/--
The datagram is well formed: it bears its number and time, and says what is due.
-/
structure WellFormed
    (sending : Session)
    (number now : Nat)
    (message : ClientMessage)
    (datagram : Octets) :
    Prop where
  due : sending.situation.dueMessage? = some message
  named : Named sending.connection
  octets :
    datagram =
      framed sending.connection
        (covered (UInt16.ofNat number) now message.octets)
  length : datagram.length ≤ mostDatagramOctets
  readBack :
    ClientMessage.decode (Reader.ofOctets message.octets) =
      (.ok (some message), ⟨message.octets.length, []⟩)

theorem present_of_due
    {sending : Session}
    {message : ClientMessage}
    (due : sending.situation.dueMessage? = some message) :
    sending.stage ≠ .disconnected := by
  intro gone
  rw [Situation.dueMessage?_of_quiet (.inr (.inr gone))] at due
  cases due

/-- The datagram with the message that is due is well formed. -/
theorem Numbers.wellFormed
    {taken : List Octets}
    {sending : Session}
    (numbers : Numbers taken sending)
    {message : ClientMessage}
    (due : sending.situation.dueMessage? = some message) :
    WellFormed sending taken.length sending.now message
      (sending.datagramOf message) := by
  obtain ⟨writable, short⟩ := numbers.composable.fits due
  constructor
  · exact due
  · exact named_of_coherent numbers.coherent (present_of_due due)
  · rw [datagramOf, numbers.number]
  · have room := length_blank_le sending.connection
    rw [datagramOf, length_framed, length_covered]
    omega
  · have reads := ClientMessage.reads_octets writable 0 []
    rw [List.append_nil, Nat.zero_add] at reads
    exact reads

/--
What a tick offers, if it offers anything, is well formed once everything that
came was received.
-/
theorem Numbers.offered
    {taken : List Octets}
    {session : Session}
    (numbers : Numbers taken session)
    (now : Nat)
    (wire : Wire)
    {datagram : Octets}
    (offered : (session.tick now wire).offered = some datagram) :
    ∃ message,
      WellFormed
        (session.afterAll
          (.tickBegun now ::
            (datagrams wire.arrivals).map Event.received))
        taken.length now message datagram := by
  have sendingNumbers :=
    numbers.afterReceiving now (datagrams wire.arrivals)
  have sendingTime := now_received session now (datagrams wire.arrivals)
  cases received : failure? wire.arrivals with
  | some message =>
      have nothing := (tick_of_failure received session now).2.2
      cases nothing.symm.trans offered
  | none =>
      have offers := (tick_of_received received session now).2.2
      rw [offers] at offered
      generalize session.afterAll (.tickBegun now ::
        (datagrams wire.arrivals).map Event.received) = sending at *
      obtain ⟨_, ⟨nothing, _, _⟩ | ⟨message, due, offersDue, _⟩⟩ :=
        endTick_cases sendingNumbers.composable sendingNumbers.coherent now
          wire.refusal
      · cases nothing.symm.trans offered
      · obtain rfl := Option.some.inj (offersDue.symm.trans offered)
        have wellFormed := sendingNumbers.wellFormed due
        rw [sendingTime] at wellFormed
        exact ⟨message, wellFormed⟩

/--
Whatever a session has been through and whatever the transport does, a tick fails
only with the transport.  The datagram that it offers, if it offers one, bears the
count of those taken since the session started over, and the time of the tick, and
says what the stage calls for once everything that came was received.
-/
theorem outgoing_datagram
    (settings : Settings)
    (calls : List Call)
    (now : Nat)
    (wire : Wire) :
    let session := reached settings calls
    let tick := session.tick now wire
    (∀ refusal, tick.outcome.result = .error refusal →
        refusal.isTransport = true) ∧
      ∀ datagram, tick.offered = some datagram →
        ∃ message,
          WellFormed
            (session.afterAll
              (.tickBegun now ::
                (datagrams wire.arrivals).map Event.received))
            (takenOf settings calls).length now message datagram := by
  dsimp only
  have numbers :
      Numbers (takenOf settings calls) (reached settings calls) := by
    rw [reached, run_eq_afterAll]
    exact numbers_afterAll settings (eventsOf calls)
  generalize reached settings calls = session at numbers ⊢
  refine ⟨fun refusal fails => ?_,
    fun datagram offered => numbers.offered now wire offered⟩
  cases received : failure? wire.arrivals with
  | some message =>
      rw [(tick_of_failure received session now).2.1] at fails
      obtain rfl := Except.error.inj fails
      rfl
  | none =>
      have sending :=
        numbers.afterReceiving now (datagrams wire.arrivals)
      rw [(tick_of_received received session now).2.1] at fails
      obtain ⟨_, ⟨_, succeeds, _⟩ | ⟨_, _, _, concluded⟩⟩ :=
        endTick_cases sending.composable sending.coherent now wire.refusal
      · cases succeeds.symm.trans fails
      · exact concluded.isTransport fails

/-- Two steps are sent once, after the transport has refused them once. -/
def refusedOnce : List Call :=
  syncing ++
    [.ask (.predict [19]),
      .ask (.predict [23]),
      .tick 20 ⟨[], some "would block"⟩,
      .tick 40 ⟨[], none⟩]

theorem outgoing_datagram_refusedOnce :
    let session := reached Settings.standard refusedOnce
    ∃ datagram message,
      (session.tick 60 ⟨[], none⟩).offered = some datagram ∧
        WellFormed (session.after (.tickBegun 60)) 1 60 message datagram := by
  dsimp only
  have offers :
      ((reached Settings.standard refusedOnce).tick 60
        ⟨[], none⟩).offered.isSome = true := by
    decide +kernel
  have count : (takenOf Settings.standard refusedOnce).length = 1 := by
    decide +kernel
  obtain ⟨datagram, offered⟩ := Option.isSome_iff_exists.mp offers
  obtain ⟨message, wellFormed⟩ :=
    (outgoing_datagram Settings.standard refusedOnce 60 ⟨[], none⟩).2
      datagram offered
  rw [count] at wellFormed
  exact ⟨datagram, message, offered, wellFormed⟩

end Session

end StepSync
