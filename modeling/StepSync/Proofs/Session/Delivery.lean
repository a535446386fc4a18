import StepSync.Proofs.Session.Situation

namespace StepSync.Session

/-!
# Receiving, seen from the situation

The checks around a message only measure: they leave the situation as it is, and
whether they pass is what `afterHeader?` and `afterEcho?` say.  So receiving a
datagram does to the situation what its delivery does (`situation_receive`).
-/

namespace Action

variable {First Result : Type}

/--
What an outcome leaves, as far as the situation and a success are concerned.
Actions that measure are taken apart by the rules below and not by evaluation.
-/
structure Leaves
    (outcome : Outcome Result)
    (situation : Situation)
    (found? : Option Result) :
    Prop where
  situation : outcome.session.situation = situation
  found : outcome.result.toOption = found?

namespace Leaves

variable {session : Session} {before after : Situation}

theorem pure (result : Result) :
    Leaves ((Pure.pure result : Action Result) session) session.situation
      (some result) :=
  ⟨rfl, rfl⟩

/-- A refusal leaves the situation and finds nothing. -/
theorem refuse (refusal : Refusal) :
    Leaves ((Action.refuse refusal : Action Result) session)
      session.situation none :=
  ⟨rfl, rfl⟩

/-- A notice leaves the situation. -/
theorem note (notice : Notice) :
    Leaves (Action.note notice session) session.situation (some ()) :=
  ⟨rfl, rfl⟩

/-- A change leaves the situation of the changed session. -/
theorem modify (change : Session → Session) :
    Leaves (Action.modify change session) (change session).situation
      (some ()) :=
  ⟨rfl, rfl⟩

/-- The authoritative steps that are left. -/
theorem inbound
    {outcome : Outcome Result}
    {situation : Situation}
    {found? : Option Result}
    (leaves : Leaves outcome situation found?) :
    outcome.session.inbound = situation.inbound :=
  congrArg Situation.inbound leaves.situation

/-- What follows a success goes on from what the success left. -/
theorem apply_bind
    {action : Action First}
    {found : First}
    (first : Leaves (action session) before (some found))
    (next : First → Action Result) :
    ((action >>= next) session).session =
        (next found (action session).session).session ∧
      ((action >>= next) session).result =
        (next found (action session).session).result := by
  have succeeds := first.found
  rw [session_bind, result_bind]
  cases shape : (action session).result with
  | error refusal => simp [shape, Except.toOption] at succeeds
  | ok other =>
      simp only [shape, Except.toOption, Option.some.injEq] at succeeds
      subst other
      exact ⟨rfl, rfl⟩

/-- One thing after another leaves what the second leaves after the first. -/
theorem bind
    {action : Action First}
    {next : First → Action Result}
    {found : First}
    {found? : Option Result}
    (first : Leaves (action session) before (some found))
    (second : ∀ middle : Session, middle.situation = before →
      Leaves (next found middle) after found?) :
    Leaves ((action >>= next) session) after found? := by
  obtain ⟨leaves, gives⟩ := first.apply_bind next
  have continued := second (action session).session first.situation
  exact ⟨by rw [leaves, continued.situation],
    by rw [gives, continued.found]⟩

/-- What follows a success decides the situation in the end. -/
theorem situation_bind
    {action : Action First}
    {next : First → Action Result}
    {found : First}
    (first : Leaves (action session) before (some found))
    (second : ∀ middle : Session, middle.situation = before →
      (next found middle).session.situation = after) :
    ((action >>= next) session).session.situation = after := by
  rw [(first.apply_bind next).1]
  exact second _ first.situation

/-- Nothing follows a refusal. -/
theorem bind_none
    {action : Action First}
    {next : First → Action Result}
    (first : Leaves (action session) before none) :
    Leaves ((action >>= next) session) before none := by
  have fails := first.found
  cases shape : (action session).result with
  | ok found => simp [shape, Except.toOption] at fails
  | error refusal =>
      constructor
      · rw [session_bind, shape]
        exact first.situation
      · rw [result_bind, shape]
        rfl

/-- Measuring the latency leaves the situation. -/
theorem measureLatency (bits : UInt16) :
    Leaves (Action.measureLatency bits session) session.situation
      (some ()) := by
  unfold Action.measureLatency
  rw [current_bind]
  cases elapsedSince? session.now bits with
  | none => exact note _
  | some latency => exact modify _

/-- A report takes acknowledged steps away, and is always taken. -/
theorem acceptReport (report : StepReport) (octets : Nat) :
    Leaves (Action.acceptReport report octets session)
      (session.situation.acceptReport report) (some ()) := by
  refine bind (modify _) fun counted same => ?_
  refine bind (measureLatency _) fun measured sameAgain => ?_
  rw [current_bind]
  refine bind (modify _) fun final acknowledged => ?_
  have unchanged : measured.situation = session.situation :=
    sameAgain.trans same
  have outcome : final.situation = session.situation.acceptReport report := by
    rw [acknowledged, ← unchanged]
    rfl
  rw [← outcome]
  exact note _

end Leaves

/-- Finishing a download does to the situation what is said of it. -/
theorem situation_finishDownload (session : Session) :
    (finishDownload session).session.situation =
      session.situation.finishDownload := by
  simp only [finishDownload, session_bind, current_apply,
    Situation.finishDownload]
  cases found : session.download with
  | none => simp [situation, found]
  | some download =>
      by_cases complete : download.assembly.isComplete
      · have snapshot :
            download.snapshot? =
              some ⟨download.stepId, download.assembly.joined⟩ := by
          simp [Download.snapshot?, Assembly.octets?, complete]
        by_cases synced : session.stage = .synced <;>
          simp [situation, found, complete, snapshot, synced, session_bind]
      · have missing : download.snapshot? = none := by
          simp [Download.snapshot?, Assembly.octets?, complete]
        simp [situation, found, complete, missing]

@[simp] theorem result_finishDownload (session : Session) :
    (finishDownload session).result = .ok () := by
  simp only [finishDownload, result_bind, current_apply]
  cases found : session.download with
  | none => rfl
  | some download =>
      by_cases complete : download.assembly.isComplete
      · cases snapshot : download.snapshot? <;>
          by_cases synced : session.stage = .synced <;>
            simp [complete, snapshot, synced, result_bind]
      · simp [complete]

/-- So does taking a connection, which is refused without a trace. -/
theorem situation_acceptConnection
    (response : ConnectResponse)
    (session : Session) :
    (acceptConnection response session).session.situation =
      session.situation.acceptConnection response := by
  by_cases requesting : session.stage = .requestingConnect <;>
    by_cases unnamed : response.connectionId = noConnectionId <;>
    simp [acceptConnection, Situation.acceptConnection, session_bind,
      situation, requesting, unnamed]

/-- So does taking participants. -/
theorem situation_acceptMembership
    (response : JoinResponse)
    (session : Session) :
    (acceptMembership response session).session.situation =
      session.situation.acceptMembership response := by
  simp only [acceptMembership, Situation.acceptMembership, session_bind,
    current_apply, ite_apply, situation]
  by_cases joining : session.progress = .joining
  · by_cases answers :
        session.joinRequest.map JoinRequest.nonce = some response.nonce
    · by_cases tooMany :
          mostLocalParticipants < response.participants.length ∨
            session.settings.participants.toNat <
              response.participants.length
      · simp [joining, answers, tooMany]
        omega
      · have fits :
            response.participants.length ≤
              min mostLocalParticipants
                session.settings.participants.toNat := by
          omega
        simp [joining, answers, tooMany, fits, session_bind]
    · simp [joining, answers]
  · simp [joining]

theorem situation_acceptOutOfSlots (answer : OutOfSlots) (session : Session) :
    (acceptOutOfSlots answer session).session.situation =
      { session.situation with progress := .outOfSlots } := by
  simp [acceptOutOfSlots, session_bind, situation]

/-- The session's own test for a channel it knows is that of `Situation.Awaits`. -/
theorem any_channel_iff (download : Option Download) (channel : UInt16) :
    (download.any fun download => download.channel == channel) = true ↔
      ¬∀ known ∈ download, known.channel ≠ channel := by
  cases download <;> simp

/-- So does beginning a download, which may be over at once. -/
theorem situation_acceptDownload
    (response : DownloadResponse)
    (session : Session) :
    (acceptDownload response session).session.situation =
      session.situation.acceptDownload response := by
  by_cases awaits : session.situation.Awaits response
  · have ⟨unknown, requesting, joined, answers, fits⟩ := awaits
    have isUnknown :
        (session.download.any fun download =>
          download.channel == response.channel) = false := by
      rw [← Bool.not_eq_true, any_channel_iff]
      exact not_not_intro unknown
    have notTooLarge :
        ¬session.settings.snapshotOctets.toNat <
          response.octetCount.toNat :=
      Nat.not_lt.mpr fits
    simp only [situation] at requesting joined answers
    simp only [Situation.acceptDownload, awaits, ↓reduceIte]
    simp only [acceptDownload, session_bind, current_apply, isUnknown,
      Bool.false_eq_true, requesting, joined, answers, notTooLarge,
      ne_eq, not_true_eq_false, or_self, ↓reduceIte, note_apply,
      modify_apply, situation_finishDownload]
    simp [situation, Situation.startDownload, requesting, joined]
  · simp only [Situation.acceptDownload, awaits, ↓reduceIte]
    simp only [Situation.Awaits, situation, not_and] at awaits
    by_cases known :
        session.download.any fun download =>
          download.channel == response.channel
    · simp [acceptDownload, session_bind, known]
    · have unknown := mt (any_channel_iff _ _).mpr known
      by_cases requesting : session.stage = .requestingState
      · by_cases joined : session.progress = .joined
        · by_cases answers : response.requestId = session.requestId
          · have tooLarge :=
              Nat.not_le.mp
                (awaits (Decidable.not_not.mp unknown) requesting joined answers)
            simp [acceptDownload, session_bind, known, requesting, joined,
              answers, tooLarge]
          · simp [acceptDownload, session_bind, known, requesting, joined,
              answers]
        · simp [acceptDownload, session_bind, known, requesting, joined]
      · simp [acceptDownload, session_bind, known, requesting]

/-- A part changes the situation if it can be read and is for the download. -/
theorem situation_acceptPart (reader : Reader) (session : Session) :
    (acceptPart reader session).session.situation =
      session.situation.accept (Delivery.ofPart reader) := by
  unfold acceptPart Delivery.ofPart
  rcases named : Decoder.word16 reader with ⟨failure | channel, reader⟩
  · rw [decoded_bind_error named]
    rfl
  · rw [decoded_bind_ok named]
    dsimp only
    rw [current_bind]
    cases found : session.download with
    | none =>
        rcases Chunk.decode reader with ⟨failure | chunk, reader⟩ <;>
          simp [Situation.accept, Situation.acceptPart, situation, found]
    | some download =>
        by_cases other : download.channel ≠ channel
        · rcases Chunk.decode reader with ⟨failure | chunk, reader⟩ <;>
            simp [Situation.accept, Situation.acceptPart, situation, found,
              other]
        · rcases Chunk.decode reader with ⟨failure | chunk, reader⟩
          · simp [Situation.accept, other]
          · cases inserted : download.assembly.insert chunk with
            | error failure =>
                simp [Situation.accept, Situation.acceptPart, situation,
                  found, other, inserted]
            | ok stored =>
                simp only [other, ↓reduceIte, inserted, session_bind,
                  modify_apply, noteAll_apply, result_finishDownload,
                  pure_apply, situation_finishDownload]
                simp [Situation.accept, Situation.acceptPart, situation,
                  found, other, inserted]

/-- Steps change the situation by what is stored and released. -/
theorem situation_acceptSteps (steps : List Step) (session : Session) :
    (acceptSteps steps session).session.situation =
      session.situation.acceptSteps steps := by
  simp only [acceptSteps, session_bind, current_apply, modify_apply,
    noteAll_apply]
  cases released :
      Inbound.release
        { session.inbound with
          window := (session.inbound.window.receiveAll steps).2 } with
  | error failure =>
      simp [Situation.acceptSteps, Inbound.takeAll, situation, released]
  | ok moved =>
      simp [Situation.acceptSteps, Inbound.takeAll, situation, released,
        session_bind]

/--
A step response changes the situation by its report, and by its steps if
these can be read.
-/
theorem situation_acceptStepResponse (reader : Reader) (session : Session) :
    (acceptStepResponse reader session).session.situation =
      session.situation.accept (Delivery.ofStepResponse reader) := by
  unfold acceptStepResponse Delivery.ofStepResponse
  rcases reported : StepReport.decode reader with
    ⟨failure | report, reader⟩
  · rw [decoded_bind_error reported]
    rfl
  · rw [decoded_bind_ok reported]
    refine Leaves.situation_bind (.acceptReport _ _) fun measured after => ?_
    dsimp only
    rcases run : StepRun.decode reader with ⟨failure | steps, rest⟩
    · rw [decoded_bind_error run]
      exact after
    · rw [decoded_bind_ok run, session_bind]
      have stored := situation_acceptSteps steps measured
      rw [after] at stored
      cases (acceptSteps steps measured).result <;> exact stored

/--
A message delivers nothing if it cannot be read, and else what
accepting it does.
-/
theorem situation_acceptMessage
    {Message : Type}
    {decoder : Decoder Message}
    {accept : Message → Action Unit}
    {deliver : Message → Delivery}
    (accepts : ∀ message session,
      (accept message session).session.situation =
        session.situation.accept (deliver message))
    (reader : Reader)
    (session : Session) :
    (acceptMessage decoder accept reader session).session.situation =
      session.situation.accept (Delivery.ofMessage decoder deliver reader) := by
  unfold acceptMessage Delivery.ofMessage
  rcases taken : decoder reader with ⟨failure | message, rest⟩
  · rw [decoded_bind_error taken]
    rfl
  · rw [decoded_bind_ok taken, session_bind]
    split <;> exact accepts message session

/-- A command does to the situation what the delivery behind it says. -/
theorem situation_acceptCommand
    (command : Command)
    (reader : Reader)
    (session : Session) :
    (acceptCommand command reader session).session.situation =
      session.situation.accept (Delivery.ofCommand command reader) := by
  cases command with
  | connectResponse =>
      exact situation_acceptMessage situation_acceptConnection reader session
  | joinGameResponse =>
      exact situation_acceptMessage situation_acceptMembership reader session
  | joinGameOutOfParticipantSlots =>
      exact situation_acceptMessage situation_acceptOutOfSlots reader session
  | downloadGameStateResponse =>
      exact situation_acceptMessage situation_acceptDownload reader session
  | gameStatePart => exact situation_acceptPart reader session
  | gameStepResponse => exact situation_acceptStepResponse reader session
  | joinGameRequest => rfl
  | gameStep => rfl
  | downloadGameStateRequest => rfl
  | downloadGameStateStatus => rfl
  | connectRequest => rfl

/-- A command and its message, whether or not octets are left behind it. -/
theorem situation_acceptCommand_noteUnread
    (command : Command)
    (reader : Reader)
    (session : Session) :
    ((acceptCommand command reader >>= noteUnread command)
        session).session.situation =
      session.situation.accept (Delivery.ofCommand command reader) := by
  rw [session_bind]
  split <;> exact situation_acceptCommand command reader session

/-- Behind an octet that is no command, nothing is delivered. -/
theorem situation_takeCommand (reader : Reader) (session : Session) :
    (takeCommand reader session).session.situation =
      session.situation.accept (Delivery.ofCommandOctet reader) := by
  unfold takeCommand Delivery.ofCommandOctet
  rcases taken : Decoder.octet reader with ⟨failure | code, rest⟩
  · rw [decoded_bind_error taken]
    rfl
  · rw [decoded_bind_ok taken]
    dsimp only
    cases Command.ofCode? code with
    | none => rfl
    | some command =>
        refine Leaves.situation_bind (.note _) fun noted same => ?_
        rw [← same]
        exact situation_acceptCommand_noteUnread command rest noted

/-- Outside the connection nothing but a greeting is delivered. -/
theorem situation_acceptOutOfBand (reader : Reader) (session : Session) :
    (acceptOutOfBand reader session).session.situation =
      session.situation.accept (Delivery.ofOutOfBand reader) := by
  unfold acceptOutOfBand Delivery.ofOutOfBand
  rcases numbered : Decoder.word16 reader with ⟨failure | number, rest⟩
  · rw [decoded_bind_error numbered]
    rfl
  · rw [decoded_bind_ok numbered]
    dsimp only
    rcases taken : Decoder.octet rest with ⟨failure | code, rest⟩
    · rw [decoded_bind_error taken]
      rfl
    · rw [decoded_bind_ok taken]
      dsimp only
      by_cases answers : Command.ofCode? code = some .connectResponse
      · rw [if_pos answers, if_pos answers]
        exact situation_acceptCommand_noteUnread .connectResponse rest session
      · rw [if_neg answers, if_neg answers]
        rfl

/-- Checking the seal changes nothing, and finds the place behind it. -/
theorem checkSeal_spec
    (secret : UInt64)
    (reader : Reader)
    (session : Session) :
    (checkSeal secret reader session).session = session ∧
      (checkSeal secret reader session).result.toOption =
        reader.afterSeal? secret := by
  unfold checkSeal Reader.afterSeal?
  rcases taken : Decoder.word32 reader with ⟨failure | claimed, rest⟩
  · rw [decoded_bind_error taken]
    exact ⟨rfl, rfl⟩
  · rw [decoded_bind_ok taken]
    dsimp only
    by_cases good : Seal.verifies secret claimed rest.rest
    · rw [if_pos good, if_pos good]
      exact ⟨rfl, rfl⟩
    · rw [if_neg good, if_neg good]
      exact ⟨rfl, rfl⟩

namespace Leaves

/-- Counting lost datagrams only measures. -/
theorem countLost (lost : Nat) (session : Session) :
    Leaves (Action.countLost lost session) session.situation
      (some ()) := by
  have counted :
      Leaves (updateHealth (fun health => health.dropped lost) session)
        session.situation (some ()) := by
    unfold updateHealth
    rw [current_bind]
    exact bind (modify _) fun changed same => ⟨same, rfl⟩
  refine counted.bind fun middle same => ?_
  rw [← same]
  exact modify _

/-- Checking the sequence finds the place behind a number that lies ahead. -/
theorem checkSequence (reader : Reader) (session : Session) :
    Leaves (Action.checkSequence reader session) session.situation
      (reader.afterNumber? session.receiveSequence) := by
  unfold Action.checkSequence Reader.afterNumber?
  rcases numbered : Decoder.word16 reader with ⟨failure | number, rest⟩
  · rw [decoded_bind_error numbered]
    exact ⟨rfl, rfl⟩
  · rw [decoded_bind_ok numbered]
    dsimp only
    rw [current_bind]
    refine bind (modify _) fun accepted same => ?_
    have unchanged : accepted.situation = session.situation := same
    by_cases ahead : 0 < session.receiveSequence.distance number
    · rw [if_pos ahead, if_neg (Int.not_le.mpr ahead)]
      refine bind (countLost _ accepted) fun counted again => ?_
      refine bind (modify _) fun final touched => ?_
      rw [← unchanged, ← again]
      exact ⟨touched, rfl⟩
    · rw [if_neg ahead, if_pos (Int.not_lt.mp ahead), ← unchanged]
      exact refuse _

/-- Taking an echo finds the place behind it. -/
theorem takeEcho (reader : Reader) (session : Session) :
    Leaves (Action.takeEcho reader session) session.situation
      reader.afterEcho? := by
  unfold Action.takeEcho Reader.afterEcho?
  cases reader.peek with
  | error failure => exact refuse _
  | ok octet =>
      dsimp only
      by_cases announced : octet = pongMarker
      · rw [if_pos announced, if_pos announced]
        rcases marked : Decoder.marker pongMarker reader with
          ⟨failure | found, rest⟩
        · rw [decoded_bind_error marked]
          exact ⟨rfl, rfl⟩
        · rw [decoded_bind_ok marked]
          dsimp only
          rcases echoed : Decoder.word16 rest with ⟨failure | bits, rest⟩
          · rw [decoded_bind_error echoed]
            exact ⟨rfl, rfl⟩
          · rw [decoded_bind_ok echoed]
            refine bind (measureLatency _) fun measured same => ?_
            rw [← same]
            exact pure _
      · rw [if_neg announced, if_neg announced]
        exact pure _

end Leaves

/--
A datagram of the session's own connection is looked at: the seal, the
number, and so on.
-/
def acceptSealed (secret : UInt64) (reader : Reader) : Action Unit := do
  let reader ← checkSeal secret reader
  let reader ← checkSequence reader
  let reader ← takeEcho reader
  takeCommand reader

/-- Behind the checks of seal, sequence and echo, the command decides. -/
theorem situation_acceptSealed
    (secret : UInt64)
    (reader : Reader)
    (session : Session) :
    (acceptSealed secret reader session).session.situation =
      session.situation.accept
        (match ((reader.afterSeal? secret).bind
            (Reader.afterNumber? session.receiveSequence)).bind
              Reader.afterEcho? with
        | none => .nothing
        | some reader => Delivery.ofCommandOctet reader) := by
  unfold acceptSealed
  obtain ⟨keeps, finds⟩ := checkSeal_spec secret reader session
  have sealed :
      Leaves (checkSeal secret reader session) session.situation
        (reader.afterSeal? secret) :=
    ⟨congrArg situation keeps, finds⟩
  cases sealPlace : reader.afterSeal? secret with
  | none =>
      rw [sealPlace] at sealed
      exact sealed.bind_none.situation
  | some reader =>
      rw [sealPlace] at sealed
      rw [(sealed.apply_bind _).1, keeps, Option.bind_some]
      have numbered := Leaves.checkSequence reader session
      cases numberPlace :
          reader.afterNumber? session.receiveSequence with
      | none =>
          rw [numberPlace] at numbered
          exact numbered.bind_none.situation
      | some reader =>
          rw [numberPlace] at numbered
          refine numbered.situation_bind fun accepted same => ?_
          rw [Option.bind_some, ← same]
          have echoed := Leaves.takeEcho reader accepted
          cases echoPlace : reader.afterEcho? with
          | none =>
              rw [echoPlace] at echoed
              exact echoed.bind_none.situation
          | some reader =>
              rw [echoPlace] at echoed
              refine echoed.situation_bind fun measured again => ?_
              rw [← again]
              exact situation_takeCommand reader measured

/--
Within the connection something is delivered behind a good seal,
number and echo.
-/
theorem situation_acceptConnected
    (id : UInt8)
    (reader : Reader)
    (session : Session) :
    (acceptConnected id reader session).session.situation =
      session.situation.accept
        (match (session.afterHeader? id reader).bind Reader.afterEcho? with
        | none => .nothing
        | some reader => Delivery.ofCommandOctet reader) := by
  unfold acceptConnected afterHeader?
  rw [current_bind]
  cases connected : session.connection with
  | none => rfl
  | some connection =>
      by_cases foreign : connection.id ≠ id
      · simp [foreign, Situation.accept]
      · by_cases gone : session.stage = .disconnected
        · simp [foreign, gone, Situation.accept]
        · simp only [foreign, gone, or_self, ↓reduceIte]
          exact situation_acceptSealed connection.secret reader session

end Action

/-- A datagram does to the situation what its delivery does. -/
theorem situation_receive (session : Session) (datagram : Octets) :
    (session.receive datagram).session.situation =
      session.situation.accept (session.delivery datagram) := by
  have counted :
      (session.receive datagram).session.situation =
        (Action.acceptDatagram datagram
          (session.countArrival datagram)).session.situation := by
    unfold receive
    dsimp only
    split <;> rfl
  rw [counted]
  simp only [Action.acceptDatagram, delivery]
  by_cases short : datagram.length < fewestDatagramOctets
  · simp [short, Situation.accept]
    rfl
  · simp only [short, ↓reduceIte]
    rcases named : Decoder.octet (Reader.ofOctets datagram) with
      ⟨failure | id, reader⟩
    · rw [Action.decoded_bind_error named]
      rfl
    · rw [Action.decoded_bind_ok named]
      dsimp only
      by_cases outOfBand : id = noConnectionId
      · rw [if_pos outOfBand, if_pos outOfBand]
        exact Action.situation_acceptOutOfBand reader _
      · rw [if_neg outOfBand, if_neg outOfBand]
        exact Action.situation_acceptConnected id reader _

/--
Outside a connection nothing but the answer to a connect request is delivered.
-/
theorem ofOutOfBand_cases (reader : Reader) :
    Delivery.ofOutOfBand reader = .nothing ∨
      ∃ response, Delivery.ofOutOfBand reader = .connection response := by
  unfold Delivery.ofOutOfBand
  rcases Decoder.word16 reader with ⟨failure | number, rest⟩
  · exact .inl rfl
  · dsimp only
    rcases Decoder.octet rest with ⟨failure | code, rest⟩
    · exact .inl rfl
    · dsimp only
      split
      · unfold Delivery.ofCommand Delivery.ofMessage
        rcases ConnectResponse.decode rest with ⟨failure | response, _⟩
        · exact .inl rfl
        · exact .inr ⟨response, rfl⟩
      · exact .inl rfl

/--
A session takes messages only with a connection, and until it is disconnected.
-/
theorem delivery_of_closed
    {session : Session}
    (closed : session.connection = none ∨ session.stage = .disconnected)
    (datagram : Octets) :
    session.delivery datagram = .nothing ∨
      ∃ response, session.delivery datagram = .connection response := by
  unfold delivery
  split
  · exact .inl rfl
  · rcases Decoder.octet (Reader.ofOctets datagram) with
      ⟨failure | id, reader⟩
    · exact .inl rfl
    · dsimp only
      split
      · exact ofOutOfBand_cases reader
      · have noHeader : session.afterHeader? id reader = none := by
          unfold afterHeader?
          rcases closed with unconnected | gone
          · rw [unconnected]
          · cases session.connection with
            | none => rfl
            | some connection => exact if_pos (.inr gone)
        rw [noHeader]
        exact .inl rfl

end StepSync.Session
