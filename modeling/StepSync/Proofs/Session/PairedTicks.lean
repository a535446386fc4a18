import StepSync.Proofs.Session.Outgoing
import StepSync.Proofs.Session.PairedReceiving

namespace StepSync

/-!
# Ticks and requests of two tied sessions

What the application asks of both has the same result.  A tick sets both clocks to
the same time.  From then on tied sessions do not only wait and give up alike:
they send the same messages in the same frames, but for the nonce and the request
id (`Session.Bond.Ties.tick`).
-/

/-- The other client's message. -/
def Shift.clientMessage (shift : Shift) : ClientMessage → ClientMessage
  | .join request => .join (shift.joinRequest request)
  | .requestState request =>
      .requestState ⟨request.requestId + shift.requestId⟩
  | message => message

/-- The message of the client ahead is as long. -/
theorem Shift.length_clientMessage (shift : Shift) (message : ClientMessage) :
    (shift.clientMessage message).octets.length = message.octets.length := by
  cases message <;> simp only [ClientMessage.length_octets] <;> rfl

namespace Health

/-- A bad tick is blamed alike, whatever was learnt of latencies. -/
theorem blame_learning (health : Health) (latencies : Latencies) :
    (health.learning latencies).blame.1 =
      health.blame.1.learning
        ((health.learning latencies).blame.1.learnt latencies) := by
  unfold blame
  by_cases final :
    toleratedBadTicks < health.badTicks + 1 ∧ health.verdict = .keep
  · have alsoFinal :
        toleratedBadTicks < (health.learning latencies).badTicks + 1 ∧
          (health.learning latencies).verdict = .keep :=
      final
    dsimp only
    rw [if_pos final, if_pos alsoFinal]
    rfl
  · have notFinal :
        ¬(toleratedBadTicks < (health.learning latencies).badTicks + 1 ∧
          (health.learning latencies).verdict = .keep) :=
      final
    dsimp only
    rw [if_neg final, if_neg notFinal]
    rfl

/-- A tick of the link judges by other things than latencies. -/
theorem tick_learning (health : Health) (latencies : Latencies) :
    (health.learning latencies).tick.1 =
      health.tick.1.learning
        ((health.learning latencies).tick.1.learnt latencies) := by
  have assessed :
      (health.learning latencies).age.assess =
        health.age.assess.learning
          ((health.learning latencies).age.assess.learnt latencies) :=
    rfl
  have sameVerdict :
      (health.learning latencies).age.assess.lastVerdict =
        health.age.assess.lastVerdict :=
    rfl
  unfold tick
  dsimp only
  rw [sameVerdict]
  cases health.age.assess.lastVerdict with
  | keep => rfl
  | noSteps =>
      dsimp only
      rw [assessed]
      exact blame_learning _ _
  | noDatagrams =>
      dsimp only
      rw [assessed]
      exact blame_learning _ _

end Health

namespace Session

variable {bond : Bond}

namespace Action.Paired

/-- How late a tick comes goes to the journal only. -/
theorem measureTick (now : Nat) :
    Paired bond Eq (Action.measureTick now) (Action.measureTick now) := by
  refine currentSame (fun _ _ _ => rfl) fun session => ?_
  split
  · exact pure rfl
  · exact bindSame (modify fun _ _ _ => rfl) fun _ => noteAll _ _

/-- Both links are given up in the same tick. -/
theorem judgeLink : Paired bond Eq Action.judgeLink Action.judgeLink := by
  refine currentSame (fun _ _ _ => rfl) fun session => ?_
  split
  · refine bindSame (updateHealth Health.tick_learning) fun _ => ?_
    refine currentSame (fun _ _ _ => rfl) fun judged => ?_
    split
    · refine bindSame (note _ _) fun _ => ?_
      exact bindSame (modify fun _ _ _ => rfl) fun _ => pure rfl
    · exact pure rfl
  · exact pure rfl

/-- The transport's answer is taken alike, if both datagrams are of one length. -/
theorem concludeSending
    {datagram other : Octets}
    (sameLength : other.length = datagram.length)
    (refusal : Option String) :
    Paired bond Eq (Action.concludeSending other refusal)
      (Action.concludeSending datagram refusal) := by
  cases refusal with
  | some failure => exact bindSame (note _ _) fun _ => refuse _
  | none =>
      have counted : Action.countSent other = Action.countSent datagram := by
        rw [Action.countSent, sameLength]
        rfl
      unfold Action.concludeSending
      dsimp only
      rw [counted]
      refine bindSame (modifyOwn
        (fun _ own =>
          { own with datagramsOut := own.datagramsOut.add 1 })
        fun _ _ _ => ⟨rfl, rfl, rfl, id⟩)
        fun _ => ?_
      refine currentSame (fun _ _ _ => rfl) fun session => ?_
      split
      · exact modify fun _ _ _ => rfl
      · exact pure rfl

end Action.Paired

/--
What two clients offer to the transport: nothing, or the same message in the same
frame, but for the nonce and the request id.
-/
def Offered (shift : Shift) (first second : Option Octets) : Prop :=
  ∃ connection? number now, ∃ message? : Option ClientMessage,
    first = message?.map (fun message =>
        framed connection?
          (covered number now (shift.clientMessage message).octets)) ∧
      second = message?.map fun message =>
        framed connection? (covered number now message.octets)

/-- Either nothing is offered, or datagrams of one length. -/
theorem Offered.length
    {shift : Shift}
    {first second : Option Octets}
    (offered : Offered shift first second) :
    (first = none ∧ second = none) ∨
      ∃ datagram other,
        first = some other ∧ second = some datagram ∧
          other.length = datagram.length := by
  obtain ⟨connection?, number, now, message?, rfl, rfl⟩ := offered
  cases message? with
  | none => exact .inl ⟨rfl, rfl⟩
  | some message =>
      refine .inr ⟨_, _, rfl, rfl, ?_⟩
      rw [length_framed, length_framed, length_covered, length_covered,
        Shift.length_clientMessage]

theorem result_measureTick (now : Nat) (session : Session) :
    (Action.measureTick now session).result = .ok () := by
  unfold Action.measureTick
  rw [Action.current_bind]
  cases session.lastTick <;> rfl

namespace Bond

/-- Once a tick has begun, the clocks agree. -/
theorem Ties.beginTick
    {first second : Session}
    (ties : bond.Ties first second)
    (now : Nat) :
    Bond.Ties ⟨bond.shift, True, bond.measured⟩
      (Action.beginTick now first).session
      (Action.beginTick now second).session := by
  obtain ⟨⟨own, made, _, same⟩, _⟩ :=
    Action.Paired.measureTick now first second ties
  rw [Action.beginTick, Action.session_bind, Action.session_bind,
    result_measureTick, result_measureTick]
  dsimp only [Action.modify_apply]
  rw [made]
  exact ⟨{ own with now := now }, rfl, fun _ => rfl, same⟩

/-- Tied sessions compose alike. -/
theorem Ties.composed
    {first second : Session}
    (ties : bond.Ties first second) :
    bond.Ties first.composed second.composed := by
  have keeps (shift : Shift) (session : Session) (own : Private) :
      (session.ahead shift own).composed =
        session.composed.ahead shift own := by
    have sameWait :
        (session.ahead shift own).dueWait = session.dueWait := by
      unfold dueWait ahead
      cases session.joinRequest <;> rfl
    unfold Session.composed
    rw [sameWait]
    rfl
  exact ties.change (.of_keeps keeps)

/-- What a tick prepares to send ties both as before. -/
theorem Ties.prepared
    {first second : Session}
    (ties : bond.Ties first second)
    (now : Nat) :
    bond.Ties (first.prepared now) (second.prepared now) := by
  have sameWait : first.waitTicks = second.waitTicks := by
    obtain ⟨own, rfl, _⟩ := ties
    rfl
  unfold Session.prepared
  rw [sameWait]
  split
  · have rates : Common (fun session => session.rated now) fun _ own =>
        { own with
          datagramsIn := own.datagramsIn.update now
          datagramsOut := own.datagramsOut.update now
          stepsIn := own.stepsIn.update now } :=
      fun _ _ _ => ⟨rfl, rfl, rfl, id⟩
    exact (ties.change rates).composed
  · have waits :
        Common (fun session => session.waiting (second.waitTicks - 1))
          fun _ own => own :=
      .of_keeps fun _ _ _ => rfl
    exact ties.change waits

/-- The same message is due, but for the nonce and the request id. -/
theorem Ties.dueNow?
    {first second : Session}
    (ties : bond.Ties first second) :
    first.dueNow? = second.dueNow?.map bond.shift.clientMessage := by
  obtain ⟨own, rfl, _⟩ := ties
  have due :
      (second.ahead bond.shift own).situation.dueMessage? =
        second.situation.dueMessage?.map bond.shift.clientMessage := by
    unfold Situation.dueMessage? situation ahead
    dsimp only
    cases second.stage with
    | requestingState =>
        dsimp only
        cases second.progress with
        | joining => cases second.joinRequest <;> rfl
        | joined => rfl
        | outOfSlots => rfl
    | downloadingState => cases second.download <;> rfl
    | idle => rfl
    | connected => rfl
    | disconnected => rfl
    | requestingConnect => rfl
    | synced => rfl
  unfold Session.dueNow?
  rw [due]
  change (if second.waitTicks - 1 = 0 then _ else none) = _
  split <;> rfl

/-- What is due is put in the same frame, if the clocks agree. -/
theorem Ties.datagramOf
    {first second : Session}
    (ties : bond.Ties first second)
    (clocked : bond.clocked)
    (message : ClientMessage) :
    first.datagramOf message =
      framed second.connection
        (covered second.sendSequence.next second.now message.octets) := by
  obtain ⟨own, rfl, sameTime, _⟩ := ties
  rw [← sameTime clocked]
  rfl

/-- What the end of a tick needs: the message that is due can be composed. -/
structure Ready (session : Session) : Prop where
  composable : session.situation.Composable
  coherent : session.situation.Coherent

/-- A link that is judged good leaves the session ready. -/
theorem Ready.judged
    {session : Session}
    (ready : Ready session)
    (good : (Action.judgeLink session).result = .ok true) :
    Ready (Action.judgeLink session).session := by
  rcases Action.judgeLink_spec session with ⟨_, same⟩ | ⟨givenUp, _⟩
  · exact ⟨same ▸ ready.composable, same ▸ ready.coherent⟩
  · rw [good] at givenUp
    cases givenUp

/--
What tied sessions prepare for sending is the same, but for the nonce and
the request id.
-/
theorem Ties.prepareSending
    {first second : Session}
    (ties : bond.Ties first second)
    (clocked : bond.clocked)
    (firstReady : Ready first)
    (secondReady : Ready second)
    (now : Nat) :
    ∃ prepared other offered otherOffered,
      Action.Gives (Action.prepareSending now) first prepared offered ∧
        Action.Gives (Action.prepareSending now) second other otherOffered ∧
        bond.Ties prepared other ∧
        Offered bond.shift offered otherOffered := by
  obtain ⟨judged, agree⟩ := Action.Paired.judgeLink first second ties
  have sameResult := agree_eq_iff.mp agree
  rcases Action.judgeLink_spec second with ⟨good, same⟩ | ⟨givenUp, _, _⟩
  · have alsoGood := sameResult.trans good
    have firstJudged := firstReady.judged alsoGood
    have secondJudged := secondReady.judged good
    refine ⟨_, _, _, _,
      .bind ⟨rfl, alsoGood⟩
        (Action.gives_prepared firstJudged.composable firstJudged.coherent
          now),
      .bind ⟨rfl, good⟩
        (Action.gives_prepared secondJudged.composable secondJudged.coherent
          now),
      judged.prepared now, ?_⟩
    refine ⟨_, _, _, (Action.judgeLink second).session.dueNow?, ?_, rfl⟩
    rw [judged.dueNow?, Option.map_map]
    congr 1
    funext message
    exact judged.datagramOf clocked (bond.shift.clientMessage message)
  · have alsoGivenUp := sameResult.trans givenUp
    refine ⟨_, _, none, none, .bind ⟨rfl, alsoGivenUp⟩ (.pure none),
      .bind ⟨rfl, givenUp⟩ (.pure none), judged, ?_⟩
    exact ⟨none, 0, 0, none, rfl, rfl⟩

/-- The end of a tick is the same, but for the nonce and the request id. -/
theorem Ties.endTick
    {first second : Session}
    (ties : bond.Ties first second)
    (clocked : bond.clocked)
    (firstReady : Ready first)
    (secondReady : Ready second)
    (now : Nat)
    (refusal : Option String) :
    let ended := first.endTick now refusal
    let other := second.endTick now refusal
    bond.Ties ended.outcome.session other.outcome.session ∧
      ended.outcome.result = other.outcome.result ∧
      Offered bond.shift ended.offered other.offered := by
  obtain ⟨prepared, otherPrepared, offered, otherOffered, gives, otherGives,
    stillTied, alike⟩ :=
      ties.prepareSending clocked firstReady secondReady now
  unfold Session.endTick
  dsimp only
  rw [gives.result, gives.session, otherGives.result, otherGives.session]
  rcases alike.length with ⟨rfl, rfl⟩ | ⟨datagram, other, rfl, rfl, sameLength⟩
  · exact ⟨stillTied, rfl, alike⟩
  · obtain ⟨concluded, agree⟩ :=
      Action.Paired.concludeSending sameLength refusal _ _ stillTied
    exact ⟨concluded, agree_eq_iff.mp agree, alike⟩

end Bond

/--
What arrives in a tick, as the other client is to find it; the session is the
one that ticks here.
-/
def adaptWire (shift : Shift) (session : Session) (now : Nat) (wire : Wire) :
    Wire :=
  { wire with
    arrivals :=
      adaptArrivals shift wire.arrivals (Action.beginTick now session).session }

/-- A tick looks at arrivals until one fails. -/
theorem left_tick (session : Session) (now : Nat) (wire : Wire) :
    (session.tick now wire).left =
      (receiveAll wire.arrivals (Action.beginTick now session).session).left := by
  unfold tick
  dsimp only
  split
  · rfl
  · split <;> rfl

/--
A tick of tied sessions comes to the same: what is refused, what is left, and what
is offered, but for the nonce and the request id.
-/
theorem Bond.Ties.tick
    {first second : Session}
    (ties : bond.Ties first second)
    {firstTaken secondTaken : List Octets}
    (firstNumbers : Numbers firstTaken first)
    (secondNumbers : Numbers secondTaken second)
    (now : Nat)
    (wire : Wire) :
    let tick := first.tick now (adaptWire bond.shift second now wire)
    let other := second.tick now wire
    Bond.Ties ⟨bond.shift, True, bond.measured⟩ tick.outcome.session
        other.outcome.session ∧
      tick.outcome.result = other.outcome.result ∧
      tick.left = other.left ∧
      Offered bond.shift tick.offered other.offered := by
  obtain ⟨received, sameLeft⟩ :=
    (ties.beginTick now).receiveAll trivial wire.arrivals
  have firstReady := firstNumbers.afterReceiving now
    (datagrams (adaptWire bond.shift second now wire).arrivals)
  have secondReady := secondNumbers.afterReceiving now
    (datagrams wire.arrivals)
  have sameFailure :
      failure? (adaptWire bond.shift second now wire).arrivals =
        failure? wire.arrivals :=
    failure?_adaptArrivals _ _ _
  rw [session_receiveAll, session_receiveAll] at received
  dsimp only
  rw [left_tick, left_tick]
  cases failed : failure? wire.arrivals with
  | some message =>
      obtain ⟨left, result, offered⟩ :=
        tick_of_failure (sameFailure.trans failed) first now
      obtain ⟨otherLeft, otherResult, otherOffered⟩ :=
        tick_of_failure failed second now
      rw [left, otherLeft, result, otherResult, offered, otherOffered]
      exact ⟨received, rfl, sameLeft, none, 0, 0, none, rfl, rfl⟩
  | none =>
      obtain ⟨left, result, offered⟩ :=
        tick_of_received (sameFailure.trans failed) first now
      obtain ⟨otherLeft, otherResult, otherOffered⟩ :=
        tick_of_received failed second now
      obtain ⟨ended, sameResult, alike⟩ := received.endTick trivial
        ⟨firstReady.composable, firstReady.coherent⟩
        ⟨secondReady.composable, secondReady.coherent⟩ now wire.refusal
      rw [left, otherLeft, result, otherResult, offered, otherOffered]
      exact ⟨ended, sameResult, sameLeft, alike⟩

/-! ## Requests -/

namespace Action.Paired

/-- Both call the server, or neither does. -/
theorem requestConnect :
    Paired bond Eq Action.requestConnect Action.requestConnect := by
  refine currentSame (fun _ _ _ => rfl) fun session => ?_
  split
  · exact bindSame (note _ _) fun _ => modify fun _ _ _ => rfl
  · exact pure rfl

/-- Both ask to join, or neither does. -/
theorem beginJoin : Paired bond Eq Action.beginJoin Action.beginJoin := by
  refine currentSame (fun _ _ _ => rfl) fun session => ?_
  split
  · exact bindSame (note _ _) fun _ => modify fun _ _ _ => rfl
  · exact pure rfl

/-- Each session gets the nonce that is its own. -/
theorem assignJoinRequest (request : JoinRequest) :
    Paired bond Eq
      (Action.assignJoinRequest (bond.shift.joinRequest request))
      (Action.assignJoinRequest request) := by
  refine bindSame (noteAll _ _) fun _ => bindSame (note _ _) fun _ => ?_
  intro first second ties
  obtain ⟨own, rfl, same⟩ := ties
  exact ⟨⟨own, rfl, same⟩, .ok rfl⟩

/-- Both predict the step under the same id, or refuse it for the same reason. -/
theorem predict (payload : Octets) :
    Paired bond Eq (Action.predict payload) (Action.predict payload) := by
  refine currentSame (fun _ _ _ => rfl) fun session => ?_
  dsimp only
  split
  · exact refuse _
  · split
    · split
      · exact refuse _
      · refine bindSame (modify fun _ _ _ => rfl) fun _ => ?_
        exact bindSame (note _ _) fun _ => pure rfl
    · exact refuse _

/-- Both read the same step. -/
theorem readStep : Paired bond Eq Action.readStep Action.readStep := by
  refine currentSame (fun _ _ _ => rfl) fun session => ?_
  split
  · exact pure rfl
  · refine bindSame (modify fun _ _ _ => rfl) fun _ => ?_
    split
    · exact pure rfl
    · exact bindSame (note _ _) fun _ => pure rfl

theorem disconnect : Paired bond Eq Action.disconnect Action.disconnect := by
  refine currentSame (fun _ _ _ => rfl) fun session => ?_
  split
  · exact pure rfl
  · exact bindSame (note _ _) fun _ => modify fun _ _ _ => rfl

/-- Starting over leaves each session its clock, and counts the request id on. -/
theorem reset : Paired bond Eq Action.reset Action.reset := by
  refine current fun _ _ _ => bindSame (note _ _) fun _ => ?_
  refine modifyOwn
    (fun session own =>
      { now := own.now
        datagramsIn := Rate.startingAt own.now Metrics.ratePeriod
        datagramsOut := Rate.startingAt own.now Metrics.ratePeriod
        stepsIn := Rate.startingAt own.now Metrics.ratePeriod
        latencies := session.forget.latencies })
    fun shift session own => ⟨?_, rfl, rfl, fun _ => rfl⟩
  have counted :
      session.requestId + shift.requestId + 1 =
        session.requestId + 1 + shift.requestId := by
    rw [UInt8.add_assoc, UInt8.add_comm shift.requestId, UInt8.add_assoc]
  unfold forget ahead
  dsimp only
  rw [counted]
  rfl

end Action.Paired

end Session

end StepSync
