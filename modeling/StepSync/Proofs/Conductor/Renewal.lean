import Mathlib.Data.List.Forall2
import StepSync.Proofs.Conductor.Run
import StepSync.Proofs.Session.Capacity
import StepSync.Proofs.Session.PairedTicks

namespace StepSync.Conductor

/-!
# Starting over is as good as new

A conductor that has started over does what a new one does.  It is `Tied` to a new
one: it is ahead by a shift of the nonce and the request id, and has a clock and
rates of its own.  Every call keeps that, if what the server says is adapted, and
both give the same answers (`reinit_like_new`).

Both clocks agree from the first tick on.  A datagram may be fed to a session
before, and the time that it echoes is then measured against different clocks; so
what echoed times have told is the same only if a run is `Timely`.
-/

/-- One conductor is the other one, ahead by the shift of a bond. -/
structure Tied
    (bond : Session.Bond)
    (first second : Conductor) :
    Prop where
  session : bond.Ties first.session second.session
  goal : first.goal = second.goal
  standing : first.standing = second.standing ∨
    first.standing = .renewed ∧ second.standing = .fresh
  nonce : first.nextNonce = second.nextNonce + bond.shift.nonce

/-- A call as it is made to the other conductor: what the server says is adapted. -/
def adaptCall (shift : Shift) (conductor : Conductor) : Call → Call
  | .update now wire =>
      if conductor.Idles then .update now wire
      else .update now (Session.adaptWire shift conductor.session now wire)
  | .deed (.receive datagram) =>
      .deed (.receive (shift.adapt conductor.session.connection datagram))
  | call => call

/-- Calls as they are made to the other conductor, one after the other. -/
def adaptCalls (shift : Shift) : Conductor → List Call → List Call
  | _, [] => []
  | conductor, call :: calls =>
      adaptCall shift conductor call ::
        adaptCalls shift (conductor.call call).2 calls

/-- The same answer, but for the nonce and the request id in what is sent. -/
inductive SameAnswer (shift : Shift) : Answer → Answer → Prop where
  | done : SameAnswer shift .done .done
  | updated
      (result : Except Refusal Unit)
      (left : List Session.Arrival)
      {offered otherOffered : Option Octets}
      (alike : Session.Offered shift offered otherOffered) :
      SameAnswer shift (.updated result left offered)
        (.updated result left otherOffered)
  | deed (answer : Session.Answer) :
      SameAnswer shift (.deed answer) (.deed answer)

theorem SameAnswer.deed_of_eq
    {shift : Shift}
    {answer other : Session.Answer}
    (same : answer = other) :
    SameAnswer shift (.deed answer) (.deed other) := by
  rw [same]
  exact .deed other

/-- The answers to the calls of a run. -/
def answers : Conductor → List Call → List Answer
  | _, [] => []
  | conductor, call :: calls =>
      (conductor.call call).1 :: answers (conductor.call call).2 calls

/-- The call is an update that ticks the session. -/
def Ticks (conductor : Conductor) : Call → Prop
  | .update _ _ => ¬conductor.Idles
  | _ => False

/-- The call does not feed a datagram to a session within a connection. -/
def Unfed (conductor : Conductor) : Call → Prop
  | .deed (.receive _) => conductor.session.connection = none
  | _ => True

/-- Before the first tick no datagram is fed to a session within a connection. -/
def Timely : Conductor → List Call → Prop
  | _, [] => True
  | conductor, call :: calls =>
      conductor.Ticks call ∨
        conductor.Unfed call ∧ Timely (conductor.call call).2 calls

variable {bond : Session.Bond} {first second : Conductor}

namespace Tied

/-- Less need be known. -/
theorem weaken
    (tied : Tied bond first second)
    {clocked measured : Prop}
    (clock : clocked → bond.clocked)
    (latencies : measured → bond.measured) :
    Tied ⟨bond.shift, clocked, measured⟩ first second :=
  ⟨tied.session.weaken clock latencies, tied.goal, tied.standing, tied.nonce⟩

theorem stage (tied : Tied bond first second) :
    first.session.stage = second.session.stage := by
  obtain ⟨own, same, _⟩ := tied.session
  rw [same]
  rfl

/--
Only a conductor that was just made stands elsewhere than one that
has started over.
-/
theorem standing_iff
    (tied : Tied bond first second)
    (standing : Standing)
    (notRenewed : standing ≠ .renewed)
    (notFresh : standing ≠ .fresh) :
    first.standing = standing ↔ second.standing = standing := by
  rcases tied.standing with same | ⟨renewed, fresh⟩
  · rw [same]
  · rw [renewed, fresh]
    exact ⟨fun found => absurd found.symm notRenewed,
      fun found => absurd found.symm notFresh⟩

theorem idles_iff (tied : Tied bond first second) :
    first.Idles ↔ second.Idles := by
  unfold Idles
  rw [tied.stage, tied.goal,
    tied.standing_iff .cleared (by decide) (by decide)]

/-- Both do the same to their sessions. -/
theorem perform
    (tied : Tied bond first second)
    {action other : Session.Action Unit}
    (paired : Session.Action.Paired bond Eq action other) :
    Tied bond (first.perform action).1 (second.perform other).1 :=
  ⟨(paired _ _ tied.session).1, tied.goal, tied.standing, tied.nonce⟩

/-- Both come to stand at the same place, with the same goal. -/
theorem stand
    (tied : Tied bond first second)
    (goal standing : Standing) :
    Tied bond { first with goal := goal, standing := standing }
      { second with goal := goal, standing := standing } :=
  ⟨tied.session, rfl, .inl rfl, tied.nonce⟩

/-- Both take the same step towards their goal. -/
theorem advance (tied : Tied bond first second) :
    Tied bond first.advance.1 second.advance.1 := by
  have sameStanding (standing : Standing) := tied.standing_iff standing
  unfold Conductor.advance
  rw [tied.goal]
  cases second.goal with
  | synced =>
      have same := sameStanding .synced (by decide) (by decide)
      dsimp only
      by_cases arrived : second.standing = .synced
      · rw [if_pos arrived, if_pos (same.mpr arrived)]
        exact tied
      · rw [if_neg arrived, if_neg (mt same.mp arrived), tied.stage]
        cases second.session.stage with
        | idle => exact tied.perform .requestConnect
        | connected => exact tied.perform .beginJoin
        | synced => exact tied.stand .synced .synced
        | requestingConnect => exact tied
        | requestingState => exact tied
        | downloadingState => exact tied
        | disconnected => exact tied
  | cleared =>
      have same := sameStanding .cleared (by decide) (by decide)
      dsimp only
      by_cases arrived : second.standing = .cleared
      · rw [if_pos arrived, if_pos (same.mpr arrived)]
        exact tied
      · rw [if_neg arrived, if_neg (mt same.mp arrived)]
        exact tied.stand .cleared .cleared
  | fresh =>
      dsimp only
      split <;> split <;> exact tied
  | renewed =>
      dsimp only
      split <;> split <;> exact tied
  | disconnected =>
      dsimp only
      split <;> split <;> exact tied

/--
An update that does not tick the session does the same to both,
whatever arrives.
-/
theorem update_of_idles
    (tied : Tied bond first second)
    (idles : second.Idles)
    (now : Nat)
    (wire : Session.Wire) :
    SameAnswer bond.shift (first.call (.update now wire)).1
        (second.call (.update now wire)).1 ∧
      Tied bond (first.update now wire).conductor
        (second.update now wire).conductor := by
  have nothing : Session.Offered bond.shift none none :=
    ⟨none, 0, 0, none, rfl, rfl⟩
  dsimp only [Conductor.call]
  by_cases gone : second.session.stage = .disconnected
  · obtain ⟨left, remains, offered, result⟩ :=
      update_of_disconnected (tied.stage.trans gone) now wire
    obtain ⟨otherLeft, otherRemains, otherOffered, otherResult⟩ :=
      update_of_disconnected gone now wire
    rw [left, remains, offered, result, otherLeft, otherRemains, otherOffered,
      otherResult]
    exact ⟨.updated _ _ nothing, tied.session, tied.goal, .inl rfl, tied.nonce⟩
  · have still := idles.resolve_left gone
    have alsoPresent : first.session.stage ≠ .disconnected := by
      rw [tied.stage]
      exact gone
    have alsoStill := (tied.idles_iff.mpr idles).resolve_left alsoPresent
    obtain ⟨left, remains, offered, result⟩ :=
      update_of_unticked alsoPresent alsoStill now wire
    obtain ⟨otherLeft, otherRemains, otherOffered, otherResult⟩ :=
      update_of_unticked gone still now wire
    rw [left, remains, offered, result, otherLeft, otherRemains, otherOffered,
      otherResult]
    exact ⟨.updated _ _ nothing, tied.advance⟩

/-- An update that ticks the session does the same to both, and sets both clocks. -/
theorem update_of_ticks
    (tied : Tied bond first second)
    {firstTaken secondTaken : List Octets}
    (firstNumbers : Session.Numbers firstTaken first.session)
    (secondNumbers : Session.Numbers secondTaken second.session)
    (active : ¬second.Idles)
    (now : Nat)
    (wire : Session.Wire) :
    let adapted := Session.adaptWire bond.shift second.session now wire
    SameAnswer bond.shift (first.call (.update now adapted)).1
        (second.call (.update now wire)).1 ∧
      Tied ⟨bond.shift, True, bond.measured⟩
        (first.update now adapted).conductor
        (second.update now wire).conductor := by
  obtain ⟨ties, sameResult, sameLeft, alike⟩ :=
    tied.session.tick firstNumbers secondNumbers now wire
  have alsoActive : ¬first.Idles := mt tied.idles_iff.mp active
  generalize Session.adaptWire bond.shift second.session now wire = adapted at *
  obtain ⟨remains, offered, result, left⟩ :=
    update_of_ticked alsoActive now adapted
  obtain ⟨otherRemains, otherOffered, otherResult, otherLeft⟩ :=
    update_of_ticked active now wire
  have ticked :
      Tied ⟨bond.shift, True, bond.measured⟩ (first.ticked now adapted)
        (second.ticked now wire) :=
    ⟨ties, tied.goal, tied.standing, tied.nonce⟩
  dsimp only [Conductor.call]
  rw [left, remains, offered, result, otherLeft, otherRemains, otherOffered,
    otherResult, sameResult, sameLeft]
  refine ⟨.updated _ _ alike, ?_⟩
  cases (second.session.tick now wire).outcome.result with
  | error refusal => exact ticked
  | ok _ => exact ticked.advance

/-- Between two updates the application does the same to both. -/
theorem deed
    (tied : Tied bond first second)
    (deed : Deed)
    (timely : bond.measured → bond.clocked ∨ second.Unfed (.deed deed)) :
    SameAnswer bond.shift
        (first.call (adaptCall bond.shift second (.deed deed))).1
        (second.call (.deed deed)).1 ∧
      Tied bond (first.call (adaptCall bond.shift second (.deed deed))).2
        (second.call (.deed deed)).2 := by
  cases deed with
  | receive datagram =>
      obtain ⟨ties, sameResult⟩ := tied.session.receive timely datagram
      have same := congrArg Session.Answer.done sameResult
      exact ⟨.deed_of_eq same, ties, tied.goal, tied.standing, tied.nonce⟩
  | predict payload =>
      obtain ⟨ties, agree⟩ :=
        Session.Action.Paired.predict payload _ _ tied.session
      have same := congrArg Session.Answer.predicted
        (Session.agree_eq_iff.mp agree)
      exact ⟨.deed_of_eq same, ties, tied.goal, tied.standing, tied.nonce⟩
  | readStep =>
      obtain ⟨ties, agree⟩ := Session.Action.Paired.readStep _ _ tied.session
      have same := congrArg Session.Answer.stepRead
        (Session.agree_eq_iff.mp agree)
      exact ⟨.deed_of_eq same, ties, tied.goal, tied.standing, tied.nonce⟩

/-- What the application wishes it wishes of both, and their nonces count on. -/
theorem joinGame
    (tied : Tied bond first second)
    (localIndices : Octets) :
    Tied bond (first.joinGame localIndices).1
      (second.joinGame localIndices).1 := by
  have assigns :=
    tied.perform (.assignJoinRequest ⟨second.nextNonce, localIndices⟩)
  have counted :
      second.nextNonce + bond.shift.nonce + 1 =
        second.nextNonce + 1 + bond.shift.nonce := by
    rw [UInt64.add_assoc, UInt64.add_comm bond.shift.nonce, UInt64.add_assoc]
  have same := tied.standing_iff .cleared (by decide) (by decide)
  unfold Conductor.joinGame
  dsimp only
  rw [tied.nonce, counted]
  refine ⟨assigns.session, rfl, ?_, rfl⟩
  dsimp only
  by_cases rests : second.standing = .cleared
  · rw [if_pos rests, if_pos (same.mpr rests)]
    exact .inl rfl
  · rw [if_neg rests, if_neg (mt same.mp rests)]
    exact tied.standing

/-- One call keeps two conductors tied, and gives the same answer. -/
theorem call
    (tied : Tied bond first second)
    {firstTaken secondTaken : List Octets}
    (firstNumbers : Session.Numbers firstTaken first.session)
    (secondNumbers : Session.Numbers secondTaken second.session)
    (call : Call)
    (timely : bond.measured →
      bond.clocked ∨ second.Ticks call ∨ second.Unfed call) :
    let adapted := adaptCall bond.shift second call
    SameAnswer bond.shift (first.call adapted).1 (second.call call).1 ∧
      Tied ⟨bond.shift, bond.clocked ∨ second.Ticks call, bond.measured⟩
        (first.call adapted).2 (second.call call).2 := by
  cases call with
  | joinGame localIndices =>
      exact ⟨.done, (tied.joinGame localIndices).weaken (Or.resolve_right · id) id⟩
  | quitGame =>
      have left := tied.perform .disconnect
      have aims : Tied bond first.quitGame.1 second.quitGame.1 :=
        ⟨left.session, rfl, left.standing, left.nonce⟩
      exact ⟨.done, aims.weaken (Or.resolve_right · id) id⟩
  | reset =>
      have cleared := (tied.perform .reset).stand second.goal .cleared
      have rests : Tied bond first.reset.1 second.reset.1 :=
        ⟨cleared.session, tied.goal, .inl rfl, cleared.nonce⟩
      exact ⟨.done, rests.weaken (Or.resolve_right · id) id⟩
  | reinit =>
      have renewed := (tied.perform .reset).stand .fresh .renewed
      exact ⟨.done, renewed.weaken (Or.resolve_right · id) id⟩
  | update now wire =>
      by_cases idles : second.Idles
      · obtain ⟨same, stillTied⟩ := tied.update_of_idles idles now wire
        have adapts :
            adaptCall bond.shift second (.update now wire) = .update now wire :=
          if_pos idles
        dsimp only
        rw [adapts]
        exact ⟨same, stillTied.weaken
          (Or.resolve_right · fun ticks => ticks idles) id⟩
      · obtain ⟨same, stillTied⟩ :=
          tied.update_of_ticks firstNumbers secondNumbers idles now wire
        have adapts :
            adaptCall bond.shift second (.update now wire) =
              .update now
                (Session.adaptWire bond.shift second.session now wire) :=
          if_neg idles
        dsimp only
        rw [adapts]
        exact ⟨same, stillTied.weaken (fun _ => trivial) id⟩
  | deed deed =>
      obtain ⟨same, stillTied⟩ := tied.deed deed fun measured =>
        (timely measured).imp_right (Or.resolve_left · id)
      exact ⟨same, stillTied.weaken (Or.resolve_right · id) id⟩

end Tied

/--
Whatever is called, the next number still counts the datagrams that were taken.
-/
theorem exists_numbers_call
    {conductor : Conductor}
    (numbered : ∃ taken, Session.Numbers taken conductor.session)
    (call : Call) :
    ∃ taken, Session.Numbers taken (conductor.call call).2.session := by
  rw [session_call]
  exact Session.keeps_afterAll
    (fun session => ∃ taken, Session.Numbers taken session)
    (fun _ event ⟨_, numbers⟩ => ⟨_, numbers.after event⟩) numbered _

/--
Calls keep two conductors tied, and give the same answers.  The induction is on
the calls; it carries whether a tick has set both clocks.
-/
theorem Tied.run
    {shift : Shift}
    {clocked measured : Prop}
    (tied : Tied ⟨shift, clocked, measured⟩ first second)
    (firstNumbered : ∃ taken, Session.Numbers taken first.session)
    (secondNumbered : ∃ taken, Session.Numbers taken second.session)
    (calls : List Call)
    (timely : measured → clocked ∨ second.Timely calls) :
    List.Forall₂ (SameAnswer shift)
        (first.answers (adaptCalls shift second calls))
        (second.answers calls) ∧
      Tied ⟨shift, False, measured⟩
        (first.run (adaptCalls shift second calls)) (second.run calls) := by
  induction calls generalizing first second clocked with
  | nil => exact ⟨.nil, tied.weaken False.elim id⟩
  | cons call calls inductionHypothesis =>
      obtain ⟨firstTaken, firstNumbers⟩ := firstNumbered
      obtain ⟨secondTaken, secondNumbers⟩ := secondNumbered
      obtain ⟨same, stillTied⟩ :=
        tied.call firstNumbers secondNumbers call fun known =>
          (timely known).imp_right fun later => later.imp_right And.left
      obtain ⟨sameLater, tiedLater⟩ :=
        inductionHypothesis stillTied
          (exists_numbers_call ⟨firstTaken, firstNumbers⟩ _)
          (exists_numbers_call ⟨secondTaken, secondNumbers⟩ call)
          fun known => by
            rcases timely known with clocked | ticks | ⟨_, later⟩
            · exact .inl (.inl clocked)
            · exact .inl (.inr ticks)
            · exact .inr later
      exact ⟨.cons same sameLater, tiedLater⟩

/--
A session that has started over is a new one, but for the request id
and the clock.
-/
theorem exists_forget_eq_ahead
    (settings : Settings)
    (events : List Session.Event)
    (nonce : UInt64) :
    let renewed := ((Session.create settings).1.afterAll events).forget
    ∃ own,
      renewed =
          (Session.create settings).1.ahead ⟨nonce, renewed.requestId⟩ own ∧
        own.latencies = (Session.create settings).1.latencies := by
  have sameSettings := Session.settings_afterAll settings events
  have capacities := Session.capacities_afterAll settings events
  have sameTrace := Session.traceCapacity_afterAll settings events
  generalize (Session.create settings).1.afterAll events = session at *
  rw [Session.session_create] at *
  obtain ⟨predicted, ready⟩ := Prod.mk.inj capacities
  have outbound :
      session.outbound.restart 0 =
        Outbound.startingAt 0 settings.clamp.1.predictedSteps.toNat := by
    rw [← predicted]
    rfl
  have inbound : session.inbound.restart 0 = Inbound.startingAt 0 := by
    rw [Inbound.startingAt, ← ready]
    rfl
  have trace :
      session.lagTrace.clear =
        LagTrace.ofCapacity LagTrace.standardCapacity :=
    congrArg (LagTrace.mk []) sameTrace
  refine
    ⟨{ now := session.now
       datagramsIn := Rate.startingAt session.now Metrics.ratePeriod
       datagramsOut := Rate.startingAt session.now Metrics.ratePeriod
       stepsIn := Rate.startingAt session.now Metrics.ratePeriod
       latencies := (Session.idle settings.clamp.1).latencies }, ?_, rfl⟩
  simp only [Session.forget, Session.ahead, Session.idle, outbound, inbound,
    trace, sameSettings, UInt8.zero_add]
  rfl

/-- A conductor that has started over is tied to a new one. -/
theorem tied_reinit (settings : Settings) (calls : List Call) :
    let first := (reached settings calls).reinit.1
    let second := (create settings).1
    Tied
      ⟨⟨first.nextNonce - second.nextNonce, first.session.requestId⟩, False,
        True⟩
      first second := by
  obtain ⟨events, same⟩ := exists_events settings calls
  have renewed :
      (reached settings calls).reinit.1.session =
        ((Session.create settings).1.afterAll events).forget :=
    congrArg Session.forget same
  obtain ⟨own, made, learnt⟩ := exists_forget_eq_ahead settings events
    ((reached settings calls).reinit.1.nextNonce -
      (create settings).1.nextNonce)
  rw [← renewed] at made
  have counted :
      (reached settings calls).reinit.1.nextNonce =
        (create settings).1.nextNonce +
          ((reached settings calls).reinit.1.nextNonce -
            (create settings).1.nextNonce) := by
    rw [UInt64.add_comm, UInt64.sub_add_cancel]
  refine ⟨⟨own, ?_, False.elim, fun _ => ?_⟩, ?_, .inr ⟨rfl, ?_⟩, counted⟩
  · rw [create_fst] at *
    dsimp only at *
    exact made
  · rw [create_fst]
    dsimp only
    exact learnt
  · rw [create_fst]
    rfl
  · rw [create_fst]

/--
A conductor that has started over does what a new one does, whatever is called
from then on.  If what the server says is adapted to the nonce and the request id,
both give the same answers, and send the same messages at the same updates, but
for that nonce and that id.  What they come to is the same but for these, the
clock and the rates; what echoed times have told is the same too, unless they were
told before the first tick.
-/
theorem reinit_like_new
    (settings : Settings)
    (calls later : List Call) :
    let first := (reached settings calls).reinit.1
    let second := (create settings).1
    let shift : Shift :=
      ⟨first.nextNonce - second.nextNonce, first.session.requestId⟩
    let adapted := adaptCalls shift second later
    List.Forall₂ (SameAnswer shift) (first.answers adapted)
        (second.answers later) ∧
      Tied ⟨shift, False, second.Timely later⟩ (first.run adapted)
        (second.run later) := by
  have tied := tied_reinit settings calls
  have firstNumbered :
      ∃ taken, Session.Numbers taken
        (reached settings calls).reinit.1.session := by
    obtain ⟨events, same⟩ := exists_events settings (calls ++ [.reinit])
    rw [reached, run_append] at same
    exact ⟨_, (show (reached settings calls).reinit.1.session = _ from same) ▸
      Session.numbers_afterAll settings events⟩
  have secondNumbered :
      ∃ taken, Session.Numbers taken (create settings).1.session := by
    rw [create_fst]
    exact ⟨_, Session.numbers_afterAll settings []⟩
  exact (tied.weaken id fun _ => trivial).run firstNumbered secondNumbered later
    .inr

/-- A conductor that has started over five milliseconds after it was made. -/
def startedOver : Conductor :=
  (reached Settings.standard [.joinGame [0], .update 5 ⟨[], none⟩]).reinit.1

/--
The first update comes when the first period of a new conductor's rates is over.
-/
def lateStart : List Call :=
  [.joinGame [0], .update 1000 ⟨[], none⟩]

/--
Two datagrams are fed to the session of a conductor at rest; the second one
echoes the time 3.
-/
def fedAtRest : List Call :=
  [.joinGame [0],
    .reset,
    .update 7 ⟨[], none⟩,
    .deed (.receive
      (Session.unsealedMessage
        (ConnectResponse.fields ⟨7, ConnectFlags.none, 11⟩))),
    .deed (.receive
      (Session.sealedDatagram 7 11
        (Octets.ofWord16 1 ++ Octets.ofEcho (some 3) ++
          (OutOfSlots.fields ⟨1⟩).flatten)))]

/--
Starting over keeps the clock.  It shows in when rates are first taken, and in a
latency that is measured before the first tick.
-/
theorem not_like_new :
    let new := (create Settings.standard).1
    let shift : Shift :=
      ⟨startedOver.nextNonce - new.nextNonce, startedOver.session.requestId⟩
    let fed := adaptCalls shift new fedAtRest
    ((startedOver.run lateStart).session.metrics.datagramsIn.perSecond.isSome =
          false ∧
        (new.run lateStart).session.metrics.datagramsIn.perSecond.isSome =
          true) ∧
      (startedOver.run fed).session.latency = some 2 ∧
        (new.run fedAtRest).session.latency = none := by
  decide +kernel

end StepSync.Conductor
