import StepSync.Proofs.Session.Bond
import StepSync.Proofs.Session.Delivery
import StepSync.Proofs.Session.Unchanged
import StepSync.Session.Tick

namespace StepSync

/-!
# Receiving in two tied sessions

A session and the one that is ahead of it receive the same, if what the latter
receives is adapted (`Session.Bond.Ties.receive`).  Only the measuring of a
latency needs clocks that agree, and only if the latencies are to agree; outside
any connection there is none.
-/

/-- Latencies after an echoed time was looked at. -/
def Latencies.measured
    (latencies : Latencies)
    (now : Nat)
    (bits : UInt16) :
    Latencies :=
  match Session.elapsedSince? now bits with
  | none => latencies
  | some latency =>
      { latencies with
        latest := some latency
        mean := latencies.mean.add (Metrics.timeSample latency)
        linkMean := latencies.linkMean.add (Metrics.timeSample latency) }

/-- Latencies with another sample of what became of datagrams. -/
def Latencies.sampled
    (latencies : Latencies)
    (samples : List LagSample) :
    Latencies :=
  { latencies with samples := samples }

/-- Losses are counted alike, whatever was learnt of latencies. -/
theorem Health.dropped_learning
    (count : Nat)
    (health : Health)
    (latencies : Latencies) :
    ((health.learning latencies).dropped count).1 =
      (health.dropped count).1.learning
        (((health.learning latencies).dropped count).1.learnt
          latencies) := by
  unfold dropped
  split <;> rfl

namespace LagTrace

/-- Nothing but the samples depends on the samples. -/
theorem dropped_with
    (trace : LagTrace)
    (samples : List LagSample)
    (count : Nat) :
    LagTrace.dropped ⟨samples, trace.capacity⟩ count =
      ⟨(LagTrace.dropped ⟨samples, trace.capacity⟩ count).samples,
        (trace.dropped count).capacity⟩ := by
  rw [capacity_dropped trace]
  exact congrArg (LagTrace.mk _) (capacity_dropped ⟨samples, _⟩ count)

end LagTrace

namespace Session

variable {bond : Bond}

/-- Measuring a latency is learning it. -/
theorem session_measureLatency (bits : UInt16) (session : Session) :
    (Action.measureLatency bits session).session =
      session.learning (session.latencies.measured session.now bits) := by
  unfold Action.measureLatency Latencies.measured
  rw [Action.current_bind]
  cases elapsedSince? session.now bits <;> rfl

theorem result_measureLatency (bits : UInt16) (session : Session) :
    (Action.measureLatency bits session).result = .ok () := by
  unfold Action.measureLatency
  rw [Action.current_bind]
  cases elapsedSince? session.now bits <;> rfl

/-- A seal that belongs to the octets behind it is taken. -/
theorem checkSeal_make
    (secret : UInt64)
    (position : Nat)
    (covered : Octets) :
    Action.checkSeal secret
        ⟨position,
          Octets.ofWord32 (Seal.make secret covered) ++ covered⟩ =
      Pure.pure ⟨position + 4, covered⟩ := by
  have taken := Decoder.Reads.word32 (Seal.make secret covered) position covered
  have good : Seal.verifies secret (Seal.make secret covered) covered = true :=
    beq_self_eq_true _
  funext session
  rw [Action.checkSeal, Action.decoded_bind_ok taken]
  dsimp only
  rw [if_pos good]
  rfl

namespace Action.Paired

/--
To measure the latency is to learn something, and the same if the clocks agree.
-/
theorem measureLatency
    (clocked : bond.measured → bond.clocked)
    (bits : UInt16) :
    Paired bond Eq (Action.measureLatency bits)
      (Action.measureLatency bits) := by
  intro first second ties
  rw [session_measureLatency, session_measureLatency, result_measureLatency,
    result_measureLatency]
  refine ⟨ties.learning fun measured => ?_, .ok rfl⟩
  obtain ⟨own, rfl, sameTime, same⟩ := ties
  rw [show (second.ahead bond.shift own).latencies = second.latencies from
      same measured,
    show (second.ahead bond.shift own).now = second.now from
      sameTime (clocked measured)]

/-- A change of the health is paired if it leaves alone what was learnt. -/
theorem updateHealth
    {change : Health → Health × List Health.Notice}
    (keeps : ∀ (health : Health) (latencies : Latencies),
      (change (health.learning latencies)).1 =
        (change health).1.learning
          ((change (health.learning latencies)).1.learnt latencies)) :
    Paired bond Eq (Action.updateHealth change)
      (Action.updateHealth change) :=
  fun _ _ ties =>
    ⟨ties.change
      (@Bond.Common.health (fun health => (change health).1) keeps),
      .ok rfl⟩

/-! ## Messages -/

/-- Both take a connection, or neither does. -/
theorem acceptConnection (response : ConnectResponse) :
    Paired bond Eq (Action.acceptConnection response)
      (Action.acceptConnection response) := by
  refine currentSame (fun _ _ _ => rfl) fun session => ?_
  split
  · exact note _ _
  · split
    · exact refuse _
    · exact bindSame (modify fun _ _ _ => rfl) fun _ => note _ _

/-- The join response answers the request that has the nonce. -/
theorem acceptMembership (response : JoinResponse) :
    Paired bond Eq
      (Action.acceptMembership (bond.shift.joinResponse response))
      (Action.acceptMembership response) := by
  refine current fun first second ties => ?_
  obtain ⟨own, rfl, _⟩ := ties
  have sameNonce :
      (second.joinRequest.map bond.shift.joinRequest).map JoinRequest.nonce ≠
          some (response.nonce + bond.shift.nonce) ↔
        second.joinRequest.map JoinRequest.nonce ≠ some response.nonce := by
    cases second.joinRequest <;> simp [Shift.joinRequest]
  refine branch Iff.rfl (note _ _) (branch sameNonce (note _ _) ?_)
  refine branch Iff.rfl (refuse _) ?_
  refine bindSame (noteAll _ _) fun _ => ?_
  exact bindSame (modify fun _ _ _ => rfl) fun _ => note _ _

theorem acceptOutOfSlots (first second : OutOfSlots) :
    Paired bond Eq (Action.acceptOutOfSlots first)
      (Action.acceptOutOfSlots second) :=
  bindSame (note _ _) fun _ => modify fun _ _ _ => rfl

/-- Both become synced, or neither does. -/
theorem finishDownload :
    Paired bond Eq Action.finishDownload Action.finishDownload := by
  refine currentSame (fun _ _ _ => rfl) fun session => ?_
  split
  · exact pure rfl
  · split
    · split
      · exact pure rfl
      · split
        · exact pure rfl
        · exact bindSame
            (modifyOwn
              (fun _ own =>
                { own with
                  latencies := Health.unknown.learnt own.latencies })
              fun _ _ _ =>
                ⟨rfl, rfl, rfl, congrArg Health.unknown.learnt⟩)
            fun _ => note _ _
    · exact note _ _

/-- The announcement answers the request that has the id. -/
theorem acceptDownload (response : DownloadResponse) :
    Paired bond Eq
      (Action.acceptDownload (bond.shift.downloadResponse response))
      (Action.acceptDownload response) := by
  refine current fun first second ties => ?_
  obtain ⟨own, rfl, _⟩ := ties
  have sameId :
      response.requestId + bond.shift.requestId ≠
          second.requestId + bond.shift.requestId ↔
        response.requestId ≠ second.requestId := by
    simp
  refine branch Iff.rfl (note _ _) (branch Iff.rfl (note _ _) ?_)
  refine branch sameId (refuse _) (branch Iff.rfl ?_ ?_)
  · exact bindSame (note _ _) fun _ => refuse _
  · refine bindSame (note _ _) fun _ => ?_
    exact bindSame (modify fun _ _ _ => rfl) fun _ => finishDownload

/-- Parts bear no id that is shifted, so both take the same ones. -/
theorem acceptPart (reader : Reader) :
    Paired bond Eq (Action.acceptPart reader) (Action.acceptPart reader) := by
  refine bindSame (decoded _ _) fun (channel, reader) => ?_
  refine currentSame (fun _ _ _ => rfl) fun session => ?_
  split
  · exact refuse _
  · split
    · exact refuse _
    · split
      · exact refuse _
      · split
        · exact refuse _
        · refine bindSame (modify fun _ _ _ => rfl) fun _ => ?_
          refine bindSame (noteAll _ _) fun _ => ?_
          exact bindSame finishDownload fun _ => pure rfl

/-- A report is measured alike as long as both clocks agree. -/
theorem acceptReport
    (clocked : bond.measured → bond.clocked)
    (report : StepReport)
    (octets : Nat) :
    Paired bond Eq (Action.acceptReport report octets)
      (Action.acceptReport report octets) := by
  refine bindSame (modify fun _ _ _ => rfl) fun _ => ?_
  refine bindSame (measureLatency clocked _) fun _ => ?_
  refine current fun first second ties => ?_
  refine bindSame (modifyOwn
    (fun session own =>
      { own with
        latencies := own.latencies.sampled
          (LagTrace.received ⟨own.latencies.samples, session.lagTrace.capacity⟩
            own.latencies.latest octets).samples })
    fun _ _ _ => ⟨rfl, rfl, rfl, fun same => by dsimp only; rw [same]; rfl⟩)
    fun _ => note _ _

/-- Both store and release the same steps. -/
theorem acceptSteps (steps : List Step) :
    Paired bond Eq (Action.acceptSteps steps) (Action.acceptSteps steps) := by
  refine currentSame (fun _ _ _ => rfl) fun session => ?_
  refine bindSame (modify fun _ _ _ => rfl) fun _ => ?_
  refine bindSame (noteAll _ _) fun _ => ?_
  split
  · exact refuse _
  · refine bindSame ?_ fun _ => note _ _
    generalize (session.inbound.window.receiveAll steps).1.count .stored =
      stored
    refine modifyOwn
      (fun _ own => { own with stepsIn := own.stepsIn.add stored }) ?_
    cases stored with
    | zero => exact fun _ _ _ => ⟨rfl, rfl, rfl, id⟩
    | succ stored => exact fun _ _ _ => ⟨rfl, rfl, rfl, id⟩

/-- A step response is taken alike: its report, and then its steps. -/
theorem acceptStepResponse
    (clocked : bond.measured → bond.clocked)
    (reader : Reader) :
    Paired bond Eq (Action.acceptStepResponse reader)
      (Action.acceptStepResponse reader) := by
  refine bindSame (decoded _ _) fun (report, reader) => ?_
  refine bindSame (acceptReport clocked _ _) fun _ => ?_
  refine bindSame (decoded _ _) fun (steps, reader) => ?_
  exact bindSame (acceptSteps _) fun _ => pure rfl

/-- What an adapted message holds is acted on alike, if it is adapted to. -/
theorem acceptMessage
    {Message : Type}
    {decoder : Decoder Message}
    {change : Message → Message}
    {adapted octets : Octets}
    (adapts : decoder.Adapts change adapted octets)
    {accept : Message → Action Unit}
    (accepts : ∀ message,
      Paired bond Eq (accept (change message)) (accept message))
    (position : Nat) :
    Paired bond Eq (Action.acceptMessage decoder accept ⟨position, adapted⟩)
      (Action.acceptMessage decoder accept ⟨position, octets⟩) := by
  have moved := adapts position
  unfold Action.acceptMessage
  rcases taken : decoder ⟨position, octets⟩ with ⟨failure | message, rest⟩
  · rw [taken] at moved
    intro first second ties
    rw [decoded_bind_error taken, decoded_bind_error moved]
    exact ⟨ties, .error _⟩
  · rw [taken] at moved
    intro first second ties
    rw [decoded_bind_ok taken, decoded_bind_ok moved]
    have accepted : Paired bond Eq
        (do
          accept (change message)
          return rest)
        (do
          accept message
          return rest) :=
      bindSame (accepts message) fun _ => pure rfl
    exact accepted first second ties

/-- A command whose body is adapted does the same to the session ahead. -/
theorem acceptCommand
    (clocked : bond.measured → bond.clocked)
    (command : Command)
    (position : Nat)
    (body : Octets) :
    Paired bond Eq
      (Action.acceptCommand command
        ⟨position, bond.shift.body (some command) body⟩)
      (Action.acceptCommand command ⟨position, body⟩) := by
  cases command with
  | connectResponse =>
      exact acceptMessage (.refl _ _) acceptConnection position
  | joinGameResponse =>
      exact acceptMessage (bond.shift.adapts_joinResponse body)
        acceptMembership position
  | joinGameOutOfParticipantSlots =>
      exact acceptMessage (bond.shift.adapts_outOfSlots body)
        (fun _ => acceptOutOfSlots _ _) position
  | downloadGameStateResponse =>
      exact acceptMessage (bond.shift.adapts_downloadResponse body)
        acceptDownload position
  | gameStatePart => exact acceptPart _
  | gameStepResponse => exact acceptStepResponse clocked _
  | joinGameRequest => exact refuse _
  | gameStep => exact refuse _
  | downloadGameStateRequest => exact refuse _
  | downloadGameStateStatus => exact refuse _
  | connectRequest => exact refuse _

/-! ## Datagrams -/

/-- The same of a message with its command in front. -/
theorem takeCommand
    (clocked : bond.measured → bond.clocked)
    (position : Nat)
    (octets : Octets) :
    Paired bond Eq (Action.takeCommand ⟨position, bond.shift.message octets⟩)
      (Action.takeCommand ⟨position, octets⟩) := by
  cases octets with
  | nil =>
      exact misses (Decoder.map_number_of_short Nat.zero_lt_one UInt8.ofNat)
  | cons code body =>
      rw [Shift.message]
      refine reads (Decoder.Reads.octet code) ?_
      dsimp only
      cases Command.ofCode? code with
      | none => exact refuse _
      | some command =>
          refine bindSame (note _ _) fun _ => ?_
          refine bindSame (acceptCommand clocked command _ _) fun _ => ?_
          exact noteAll _ _

/--
The second reader stands where the first does, with octets that are yet
to be adapted.
-/
def Adapted (change : Octets → Octets) (first second : Reader) : Prop :=
  first = ⟨second.position, change second.rest⟩

/-- Behind a marker an echo is read and measured. -/
theorem takeEcho_marked (position : Nat) (rest : Octets) :
    Action.takeEcho ⟨position, pongMarker :: rest⟩ =
      (do
        let (_, reader) ←
          Action.decoded (Decoder.marker pongMarker)
            ⟨position, pongMarker :: rest⟩
        let (bits, reader) ← Action.decoded Decoder.word16 reader
        Action.measureLatency bits
        return reader) := by
  rw [Action.takeEcho]
  exact if_pos rfl

/-- Without a marker there is no echo to take. -/
theorem takeEcho_unmarked
    {octet : UInt8}
    (unmarked : octet ≠ pongMarker)
    (position : Nat)
    (rest : Octets) :
    Action.takeEcho ⟨position, octet :: rest⟩ =
      Pure.pure ⟨position, octet :: rest⟩ := by
  rw [Action.takeEcho]
  exact if_neg unmarked

/-- An echoed time is taken alike; the message behind it is yet to be read. -/
theorem takeEcho
    (clocked : bond.measured → bond.clocked)
    (position : Nat)
    (octets : Octets) :
    Paired bond (Adapted bond.shift.message)
      (Action.takeEcho ⟨position, bond.shift.echoed octets⟩)
      (Action.takeEcho ⟨position, octets⟩) := by
  cases octets with
  | nil => exact refuse _
  | cons octet rest =>
      by_cases marked : octet = pongMarker
      · subst marked
        rw [takeEcho_marked]
        by_cases short : rest.length < 2
        · rw [bond.shift.echoed_marker_of_short short, takeEcho_marked]
          refine reads (Decoder.Reads.marker pongMarker) ?_
          exact misses (Decoder.map_number_of_short short UInt16.ofNat)
        · obtain ⟨first, second, rest, rfl⟩ := Octets.exists_cons_cons short
          rw [bond.shift.echoed_marker, takeEcho_marked]
          refine reads (Decoder.Reads.marker pongMarker) ?_
          refine reads
            ((Decoder.Reads.number [first, second]).map UInt16.ofNat) ?_
          exact bindSame (measureLatency clocked _) fun _ => pure rfl
      · rw [bond.shift.echoed_unmarked marked, Shift.message,
          takeEcho_unmarked marked, takeEcho_unmarked marked]
        exact pure rfl

/-- Lost datagrams are counted alike. -/
theorem countLost (lost : Nat) :
    Paired bond Eq (Action.countLost lost) (Action.countLost lost) := by
  refine bindSame (updateHealth (Health.dropped_learning lost)) fun _ => ?_
  refine modifyOwn
    (fun session own =>
      { own with
        latencies := own.latencies.sampled
          (LagTrace.dropped ⟨own.latencies.samples, session.lagTrace.capacity⟩
            lost).samples })
    fun shift session own => ⟨?_, rfl, rfl, fun same => ?_⟩
  · dsimp only [ahead]
    rw [LagTrace.dropped_with]
    rfl
  · dsimp only
    rw [same]
    rfl

/-- Both find the same number, and behind it what is adapted. -/
theorem checkSequence
    (position : Nat)
    (octets : Octets) :
    Paired bond (Adapted bond.shift.echoed)
      (Action.checkSequence ⟨position, bond.shift.covered octets⟩)
      (Action.checkSequence ⟨position, octets⟩) := by
  by_cases short : octets.length < 2
  · rw [bond.shift.covered_of_short short]
    exact misses (Decoder.map_number_of_short short UInt16.ofNat)
  · obtain ⟨first, second, rest, rfl⟩ := Octets.exists_cons_cons short
    rw [Shift.covered]
    refine reads ((Decoder.Reads.number [first, second]).map UInt16.ofNat) ?_
    refine current fun here there ties => ?_
    obtain ⟨own, rfl, _⟩ := ties
    refine bindSame (modify fun _ _ _ => rfl) fun _ => ?_
    refine branch Iff.rfl (refuse _) ?_
    refine bindSame (countLost _) fun _ => ?_
    refine bindSame (modify fun _ _ _ => rfl) fun _ => pure ?_
    rfl

/-- A greeting bears no id that is shifted. -/
theorem acceptOutOfBand (reader : Reader) :
    Paired bond Eq (Action.acceptOutOfBand reader)
      (Action.acceptOutOfBand reader) := by
  refine bindSame (decoded _ _) fun (number, reader) => ?_
  refine bindSame (decoded _ _) fun (code, reader) => ?_
  refine branch Iff.rfl ?_ (refuse _)
  refine bindSame ?_ fun _ => noteAll _ _
  exact acceptMessage (.refl _ _) acceptConnection reader.position

/-- Without a good seal both refuse. -/
theorem checkSeal_of_broken
    {secret : UInt64}
    {reader : Reader}
    (broken : reader.afterSeal? secret = none) :
    Paired bond (fun _ _ => False) (Action.checkSeal secret reader)
      (Action.checkSeal secret reader) := by
  unfold Reader.afterSeal? at broken
  unfold Action.checkSeal
  rcases taken : Decoder.word32 reader with ⟨failure | claimed, rest⟩
  · exact misses taken
  · rw [taken] at broken
    intro first second ties
    rw [decoded_bind_ok taken, decoded_bind_ok taken]
    dsimp only at broken ⊢
    split at broken
    · cases broken
    · rename_i bad
      rw [if_neg bad]
      exact ⟨ties, .error _⟩

/--
The seal is good, and the number, the echoed time and the message are looked at.
-/
theorem acceptSealed
    (clocked : bond.measured → bond.clocked)
    (secret : UInt64)
    (position : Nat)
    (covered : Octets) :
    Paired bond Eq
      (Action.acceptSealed secret
        ⟨position,
          Octets.ofWord32 (Seal.make secret (bond.shift.covered covered)) ++
            bond.shift.covered covered⟩)
      (Action.acceptSealed secret
        ⟨position,
          Octets.ofWord32 (Seal.make secret covered) ++ covered⟩) := by
  have sealed :
      Paired bond (Adapted bond.shift.covered)
        (Pure.pure ⟨position + 4, bond.shift.covered covered⟩)
        (Pure.pure ⟨position + 4, covered⟩) :=
    pure rfl
  rw [← checkSeal_make secret position, ← checkSeal_make secret position]
    at sealed
  refine bind sealed ?_
  rintro _ ⟨position, covered⟩ rfl
  refine bind (checkSequence position covered) ?_
  rintro _ ⟨position, octets⟩ rfl
  refine bind (takeEcho clocked position octets) ?_
  rintro _ ⟨position, message⟩ rfl
  exact takeCommand clocked position message

end Action.Paired

namespace Bond

/-- A datagram that names a connection is acted on alike. -/
theorem Ties.acceptConnected
    {first second : Session}
    (ties : bond.Ties first second)
    (clocked : bond.measured → bond.clocked ∨ second.connection = none)
    (id : UInt8)
    (inBand : id ≠ noConnectionId)
    {rest adapted : Octets}
    (adapts :
      bond.shift.adapt second.connection (id :: rest) = id :: adapted) :
    bond.Ties (Action.acceptConnected id ⟨1, adapted⟩ first).session
        (Action.acceptConnected id ⟨1, rest⟩ second).session ∧
      Agree Eq (Action.acceptConnected id ⟨1, adapted⟩ first).result
        (Action.acceptConnected id ⟨1, rest⟩ second).result := by
  have sameConnection : first.connection = second.connection := by
    obtain ⟨own, rfl, _⟩ := ties
    rfl
  have sameStage : first.stage = second.stage := by
    obtain ⟨own, rfl, _⟩ := ties
    rfl
  rw [Action.acceptConnected, Action.acceptConnected, Action.current_bind,
    Action.current_bind, sameConnection, sameStage]
  cases assigned : second.connection with
  | none => exact Action.Paired.refuse _ _ _ ties
  | some connection =>
      have paired :
          Action.Paired bond Eq (Action.acceptSealed connection.secret ⟨1, adapted⟩)
            (Action.acceptSealed connection.secret ⟨1, rest⟩) := by
        have clocked (measured : bond.measured) : bond.clocked := by
          have := clocked measured
          rw [assigned] at this
          simpa using this
        rw [assigned, Shift.adapt, if_neg inBand] at adapts
        cases sealed : Reader.afterSeal? connection.secret ⟨1, rest⟩ with
        | none =>
          rw [sealed] at adapts
          obtain rfl := (List.cons.inj adapts).2
          exact (Action.Paired.checkSeal_of_broken sealed).bind
            fun _ _ never => never.elim
        | some reader =>
          rw [sealed] at adapts
          obtain rfl := (List.cons.inj adapts).2
          obtain ⟨_, parts⟩ := Reader.exists_of_afterSeal? sealed
          rw [parts]
          exact Action.Paired.acceptSealed clocked connection.secret 1 reader.rest
      dsimp only
      refine Action.Paired.branch Iff.rfl (Action.Paired.refuse _) ?_ _ _ ties
      exact Action.Paired.branch Iff.rfl (Action.Paired.refuse _) paired

/-- A datagram is acted on alike, if it is adapted. -/
theorem Ties.acceptDatagram
    {first second : Session}
    (ties : bond.Ties first second)
    (clocked : bond.measured → bond.clocked ∨ second.connection = none)
    (datagram : Octets) :
    bond.Ties
        (Action.acceptDatagram
          (bond.shift.adapt second.connection datagram) first).session
        (Action.acceptDatagram datagram second).session ∧
      Agree Eq
        (Action.acceptDatagram
          (bond.shift.adapt second.connection datagram) first).result
        (Action.acceptDatagram datagram second).result := by
  unfold Action.acceptDatagram
  rw [Shift.length_adapt]
  by_cases short : datagram.length < fewestDatagramOctets
  · rw [if_pos short, if_pos short]
    exact Action.Paired.refuse _ _ _ ties
  · rw [if_neg short, if_neg short]
    cases datagram with
    | nil => exact absurd (Nat.zero_lt_succ _) short
    | cons id rest =>
        obtain ⟨adapted, adapts⟩ :=
          bond.shift.exists_adapt second.connection id rest
        have read (rest : Octets) :
            Decoder.octet (Reader.ofOctets (id :: rest)) = (.ok id, ⟨1, rest⟩) :=
          Decoder.Reads.octet id 0 rest
        rw [adapts, Action.decoded_bind_ok (read adapted),
          Action.decoded_bind_ok (read rest)]
        dsimp only
        by_cases inBand : id = noConnectionId
        · rw [if_pos inBand, if_pos inBand]
          rw [bond.shift.adapt_outOfBand second.connection inBand] at adapts
          obtain rfl := (List.cons.inj adapts).2
          exact Action.Paired.acceptOutOfBand _ _ _ ties
        · rw [if_neg inBand, if_neg inBand]
          exact ties.acceptConnected clocked id inBand adapts

/-- Datagrams of the same length are counted alike. -/
theorem Ties.countArrival
    {first second : Session}
    (ties : bond.Ties first second)
    {datagram other : Octets}
    (sameLength : other.length = datagram.length) :
    bond.Ties (first.countArrival other) (second.countArrival datagram) := by
  have varies : Common (fun session => session.countArrival datagram)
      fun _ own => { own with datagramsIn := own.datagramsIn.add 1 } :=
    fun _ _ _ => ⟨rfl, rfl, rfl, id⟩
  rw [Session.countArrival, sameLength]
  exact ties.change varies

/-- A datagram is received alike, if it is adapted. -/
theorem Ties.receive
    {first second : Session}
    (ties : bond.Ties first second)
    (clocked : bond.measured → bond.clocked ∨ second.connection = none)
    (datagram : Octets) :
    let outcome :=
      first.receive (bond.shift.adapt second.connection datagram)
    let other := second.receive datagram
    bond.Ties outcome.session other.session ∧
      outcome.result = other.result := by
  have counted := ties.countArrival
    (bond.shift.length_adapt second.connection datagram)
  obtain ⟨stillTied, agree⟩ := counted.acceptDatagram clocked datagram
  rw [show (second.countArrival datagram).connection = second.connection
    from rfl] at stillTied agree
  unfold Session.receive
  dsimp only
  generalize Action.acceptDatagram (bond.shift.adapt _ datagram) _ = outcome
    at stillTied agree ⊢
  generalize Action.acceptDatagram datagram _ = other at stillTied agree ⊢
  rcases outcome with ⟨after, notices, result⟩
  rcases other with ⟨otherAfter, otherNotices, otherResult⟩
  cases agree with
  | ok same => exact ⟨stillTied, congrArg Except.ok same⟩
  | error refusal =>
      have common : Common countRefused fun _ own => own :=
        .of_keeps fun _ _ _ => rfl
      exact ⟨stillTied.change common, rfl⟩

end Bond

/-! ## What arrives in a tick -/

/--
What arrives, adapted one by one to what the session has made of
what came before.
-/
def adaptArrivals (shift : Shift) : List Arrival → Session → List Arrival
  | .datagram octets :: left, session =>
      let datagram := octets.take mostDatagramOctets
      if octets.isEmpty then .datagram octets :: left
      else
        .datagram (shift.adapt session.connection datagram) ::
          adaptArrivals shift left (session.receive datagram).session
  | arrivals, _ => arrivals

/-- An adapted datagram is as long as the one that is looked at. -/
theorem take_adapt
    (shift : Shift)
    (connection? : Option Connection)
    (octets : Octets) :
    (shift.adapt connection? (octets.take mostDatagramOctets)).take
        mostDatagramOctets =
      shift.adapt connection? (octets.take mostDatagramOctets) := by
  refine List.take_of_length_le ?_
  rw [Shift.length_adapt]
  exact List.length_take_le _ _

/-- What is adapted is as empty as before. -/
theorem isEmpty_adapt
    (shift : Shift)
    (connection? : Option Connection)
    (octets : Octets) :
    (shift.adapt connection? (octets.take mostDatagramOctets)).isEmpty =
      octets.isEmpty := by
  have sameLength :=
    shift.length_adapt connection? (octets.take mostDatagramOctets)
  generalize shift.adapt connection? (octets.take mostDatagramOctets) =
    adapted at sameLength
  cases octets with
  | nil => exact List.isEmpty_iff_length_eq_zero.mpr sameLength
  | cons octet rest =>
      cases adapted with
      | nil => cases sameLength
      | cons octet adapted => rfl

/-- The transport fails where it failed before. -/
theorem failure?_adaptArrivals
    (shift : Shift)
    (arrivals : List Arrival)
    (session : Session) :
    failure? (adaptArrivals shift arrivals session) = failure? arrivals := by
  induction arrivals generalizing session with
  | nil => rfl
  | cons arrival left inductionHypothesis =>
      cases arrival with
      | failure message => rfl
      | datagram octets =>
          have sameEmpty := isEmpty_adapt shift session.connection octets
          by_cases empty : octets.isEmpty
          · simp only [adaptArrivals, empty, ↓reduceIte]
          · simp only [adaptArrivals, failure?, sameEmpty, empty,
              Bool.false_eq_true, ↓reduceIte]
            exact inductionHypothesis _

/-- All that arrives in a tick is received alike, if it is adapted. -/
theorem Bond.Ties.receiveAll
    {first second : Session}
    (ties : bond.Ties first second)
    (clocked : bond.clocked)
    (arrivals : List Arrival) :
    let reception :=
      Session.receiveAll (adaptArrivals bond.shift arrivals second) first
    let other := Session.receiveAll arrivals second
    bond.Ties reception.outcome.session other.outcome.session ∧
      reception.left = other.left := by
  dsimp only
  induction arrivals generalizing first second with
  | nil => exact ⟨ties, rfl⟩
  | cons arrival left inductionHypothesis =>
      cases arrival with
      | failure message => exact ⟨ties, rfl⟩
      | datagram octets =>
          by_cases empty : octets.isEmpty
          · simp only [adaptArrivals, Session.receiveAll, empty, ↓reduceIte]
            exact ⟨ties, trivial⟩
          · have received := ties.receive (fun _ => .inl clocked)
              (octets.take mostDatagramOctets)
            have cut := take_adapt bond.shift second.connection octets
            have present := isEmpty_adapt bond.shift second.connection octets
            simp only [adaptArrivals, Session.receiveAll, empty, present, cut,
              Bool.false_eq_true, ↓reduceIte]
            exact inductionHypothesis received.1

end Session

end StepSync
