import StepSync.Proofs.Session.Acknowledgement

namespace StepSync.Session

/-!
# What a refused datagram leaves

A message is decoded and checked before it takes effect, so a refusal finds the
situation as it was.  One message is taken in two pieces: the report in front of
authoritative steps takes effect before the steps behind it are read.  Where these
cannot be read, the datagram is refused and the predicted steps that the report
acknowledges are gone all the same (`refused_receive`).
-/

namespace Action

variable {First Result : Type}

/-- If an action is refused, it leaves the situation as it was. -/
def Spares (action : Action Result) (session : Session) : Prop :=
  ∀ refusal, (action session).result = .error refusal →
    (action session).session.situation = session.situation

/-- An action is not refused. -/
def Succeeds (action : Action Result) (session : Session) : Prop :=
  ∃ result, (action session).result = .ok result

namespace Spares

variable {session : Session}

theorem refuse (refusal : Refusal) :
    Spares (Action.refuse refusal : Action Result) session :=
  fun _ _ => rfl

/-- What cannot be refused spares every session. -/
theorem of_succeeds
    {action : Action Result}
    (succeeds : Succeeds action session) :
    Spares action session := by
  obtain ⟨result, success⟩ := succeeds
  intro refusal refused
  cases success.symm.trans refused

theorem note
    {notice : Notice}
    {next : Unit → Action Result}
    (spares : Spares (next ()) session) :
    Spares (Action.note notice >>= next) session :=
  spares

theorem current
    {next : Session → Action Result}
    (spares : Spares (next session) session) :
    Spares (Action.current >>= next) session :=
  spares

/-- What cannot be read is refused at once, and reading alone spares the session. -/
theorem decoded
    {Found : Type}
    {decoder : Decoder Found}
    {reader : Reader}
    {next : Found × Reader → Action Result}
    (spares : ∀ found rest, Spares (next (found, rest)) session) :
    Spares (Action.decoded decoder reader >>= next) session := by
  rcases taken : decoder reader with ⟨failure | found, rest⟩
  · intro _ _
    rw [decoded_bind_error taken]
  · intro refusal
    rw [decoded_bind_ok taken]
    exact spares found rest refusal

end Spares

section

variable (session : Session)

/-- A connection that names no id is refused before it is taken. -/
theorem spares_acceptConnection (response : ConnectResponse) :
    Spares (acceptConnection response) session := by
  unfold acceptConnection
  change Spares (ite _ _ _) session
  split
  · exact .of_succeeds ⟨(), rfl⟩
  · split
    · exact .refuse _
    · exact .of_succeeds ⟨(), rfl⟩

/-- Too many participants are refused before any is taken. -/
theorem spares_acceptMembership (response : JoinResponse) :
    Spares (acceptMembership response) session := by
  unfold acceptMembership
  change Spares (ite _ _ _) session
  split
  · exact .of_succeeds ⟨(), rfl⟩
  · split
    · exact .of_succeeds ⟨(), rfl⟩
    · split
      · exact .refuse _
      · exact .of_succeeds ⟨(), rfl⟩

theorem spares_acceptOutOfSlots (answer : OutOfSlots) :
    Spares (acceptOutOfSlots answer) session :=
  .of_succeeds ⟨(), rfl⟩

/-- A snapshot that is too large is refused before its download begins. -/
theorem spares_acceptDownload (response : DownloadResponse) :
    Spares (acceptDownload response) session := by
  unfold acceptDownload
  change Spares (ite _ _ _) session
  split
  · exact .of_succeeds ⟨(), rfl⟩
  · split
    · exact .of_succeeds ⟨(), rfl⟩
    · split
      · exact .refuse _
      · split
        · exact .note (.refuse _)
        · exact .of_succeeds ⟨(), by simp [result_bind]⟩

end

/-- Steps are taken in a session whose queue goes on where its window stands. -/
theorem succeeds_acceptSteps
    {session : Session}
    (goesOn : session.inbound.ready.nextId = session.inbound.window.expected)
    (steps : List Step) :
    Succeeds (acceptSteps steps) session := by
  obtain ⟨_, _, released⟩ := Inbound.release_receiveAll goesOn steps
  refine ⟨(), ?_⟩
  simp only [acceptSteps, result_bind, current_apply, modify_apply,
    noteAll_apply, released, note_apply]

/--
How a delivery ends in a refusal: it leaves the situation as it was before, but
for a report whose steps cannot be read, which is always refused.
-/
structure Handled
    (outcome : Outcome Result)
    (before : Situation)
    (delivery : Delivery) :
    Prop where
  unread : ∀ report, delivery = .report report →
    ∃ failure, outcome.result = .error (.malformed failure)
  unchanged : (∀ report, delivery ≠ .report report) →
    ∀ refusal, outcome.result = .error refusal →
      outcome.session.situation = before

namespace Handled

variable
  {session : Session} {before : Situation} {delivery : Delivery}
  {outcome : Outcome Result}

/-- Where nothing is delivered, everything stays. -/
theorem nothing (same : outcome.session.situation = before) :
    Handled outcome before .nothing :=
  ⟨nofun, fun _ _ _ => same⟩

/-- Behind a success, what follows decides. -/
theorem following
    {action : Action First}
    {next : First → Action Result}
    {found : First}
    {between : Situation}
    (first : Leaves (action session) between (some found))
    (second : Handled (next found (action session).session) before delivery) :
    Handled ((action >>= next) session) before delivery := by
  obtain ⟨leaves, gives⟩ := first.apply_bind next
  constructor
  · rw [gives]
    exact second.unread
  · rw [gives, leaves]
    exact second.unchanged

/-- Measuring comes before a delivery and changes nothing about it. -/
theorem after
    {action : Action First}
    {next : First → Action Result}
    {found : First}
    (first : Leaves (action session) before (some found))
    (second : ∀ middle : Session, middle.situation = before →
      Handled (next found middle) middle.situation delivery) :
    Handled ((action >>= next) session) before delivery :=
  following first (first.situation ▸ second _ first.situation)

/-- What is never refused may follow. -/
theorem bind
    {action : Action First}
    {next : First → Action Result}
    (handled : Handled (action session) before delivery)
    (succeeds : ∀ found middle, Succeeds (next found) middle) :
    Handled ((action >>= next) session) before delivery := by
  have sameResult := result_bind action next session
  have sameSession := session_bind action next session
  cases first : (action session).result with
  | error refusal =>
      rw [first] at sameResult sameSession
      constructor
      · intro report reported
        obtain ⟨failure, malformed⟩ := handled.unread report reported
        obtain rfl := Except.error.inj (first.symm.trans malformed)
        exact ⟨failure, sameResult⟩
      · intro other _ _
        rw [sameSession]
        exact handled.unchanged other refusal first
  | ok found =>
      rw [first] at sameResult
      obtain ⟨result, success⟩ := succeeds found (action session).session
      constructor
      · intro report reported
        obtain ⟨failure, malformed⟩ := handled.unread report reported
        cases first.symm.trans malformed
      · intro _ refusal refused
        cases success.symm.trans (sameResult.symm.trans refused)

end Handled

/--
A message that takes effect only after it was checked is handled
as one delivery.
-/
theorem handled_acceptMessage
    {Message : Type}
    {decoder : Decoder Message}
    {accept : Message → Action Unit}
    {deliver : Message → Delivery}
    (whole : ∀ message report, deliver message ≠ .report report)
    (spares : ∀ message session, Spares (accept message) session)
    (reader : Reader)
    (session : Session) :
    Handled (acceptMessage decoder accept reader session) session.situation
      (Delivery.ofMessage decoder deliver reader) := by
  unfold acceptMessage Delivery.ofMessage
  rcases taken : decoder reader with ⟨failure | message, rest⟩
  · rw [decoded_bind_error taken]
    exact .nothing rfl
  · rw [decoded_bind_ok taken]
    refine Handled.bind ?_ fun _ _ => ⟨rest, rfl⟩
    exact ⟨fun report same => absurd same (whole message report),
      fun _ => spares message session⟩

/--
A part is checked for its download, its channel and its place before it is kept.
-/
theorem handled_acceptPart (reader : Reader) (session : Session) :
    Handled (acceptPart reader session) session.situation
      (Delivery.ofPart reader) := by
  have whole (report : StepReport) :
      Delivery.ofPart reader ≠ .report report := by
    unfold Delivery.ofPart
    rcases Decoder.word16 reader with ⟨failure | channel, reader⟩
    · nofun
    · dsimp only
      rcases Chunk.decode reader with ⟨failure | chunk, reader⟩ <;> nofun
  have spares : Spares (acceptPart reader) session := by
    unfold acceptPart
    refine .decoded fun channel reader => .current ?_
    cases session.download with
    | none => exact .refuse _
    | some download =>
        dsimp only
        split
        · exact .refuse _
        · split
          · exact .refuse _
          · split
            · exact .refuse _
            · exact .of_succeeds ⟨_, by simp [result_bind]; rfl⟩
  exact ⟨fun report same => absurd same (whole report), fun _ => spares⟩

/-- Steps are never refused, but the run that brings them may break off. -/
theorem handled_run
    {session : Session}
    (goesOn : session.inbound.ready.nextId = session.inbound.window.expected)
    (before : Situation)
    (report : StepReport)
    (reader : Reader) :
    Handled
      ((do
        let (steps, reader) ← decoded StepRun.decode reader
        acceptSteps steps
        return reader : Action Reader) session)
      before
      (match StepRun.decode reader with
      | (.error _, _) => .report report
      | (.ok steps, _) => .steps report steps) := by
  rcases run : StepRun.decode reader with ⟨failure | steps, rest⟩
  · rw [decoded_bind_error run]
    exact ⟨fun _ _ => ⟨failure, rfl⟩,
      fun other => absurd rfl (other report)⟩
  · rw [decoded_bind_ok run]
    obtain ⟨_, success⟩ := succeeds_acceptSteps goesOn steps
    refine ⟨nofun, fun _ refusal refused => ?_⟩
    rw [result_bind, success] at refused
    cases refused

/-- The report takes effect before the steps are read. -/
theorem handled_acceptStepResponse
    {session : Session}
    (goesOn : session.inbound.ready.nextId = session.inbound.window.expected)
    (reader : Reader) :
    Handled (acceptStepResponse reader session) session.situation
      (Delivery.ofStepResponse reader) := by
  unfold acceptStepResponse Delivery.ofStepResponse
  rcases reported : StepReport.decode reader with
    ⟨failure | report, reader⟩
  · rw [decoded_bind_error reported]
    exact .nothing rfl
  · rw [decoded_bind_ok reported]
    dsimp only
    have measured :
        Leaves (acceptReport report reader.size session)
          (session.situation.acceptReport report) (some ()) :=
      .acceptReport report reader.size
    have sameInbound :
        (acceptReport report reader.size session).session.inbound =
          session.inbound :=
      measured.inbound
    exact Handled.following measured
      (handled_run (sameInbound ▸ goesOn) _ report reader)

/--
Every command is handled, and only a step response takes effect in two pieces.
-/
theorem handled_acceptCommand
    {session : Session}
    (goesOn : session.inbound.ready.nextId = session.inbound.window.expected)
    (command : Command)
    (reader : Reader) :
    Handled (acceptCommand command reader session) session.situation
      (Delivery.ofCommand command reader) := by
  cases command with
  | connectResponse =>
      exact handled_acceptMessage nofun
        (fun response session => spares_acceptConnection session response)
        reader session
  | joinGameResponse =>
      exact handled_acceptMessage nofun
        (fun response session => spares_acceptMembership session response)
        reader session
  | joinGameOutOfParticipantSlots =>
      exact handled_acceptMessage nofun
        (fun answer session => spares_acceptOutOfSlots session answer)
        reader session
  | downloadGameStateResponse =>
      exact handled_acceptMessage nofun
        (fun response session => spares_acceptDownload session response)
        reader session
  | gameStatePart => exact handled_acceptPart reader session
  | gameStepResponse => exact handled_acceptStepResponse goesOn reader
  | joinGameRequest => exact .nothing rfl
  | gameStep => exact .nothing rfl
  | downloadGameStateRequest => exact .nothing rfl
  | downloadGameStateStatus => exact .nothing rfl
  | connectRequest => exact .nothing rfl

/-- A command and its message, whether or not octets are left behind it. -/
theorem handled_acceptCommand_noteUnread
    {session : Session}
    (goesOn : session.inbound.ready.nextId = session.inbound.window.expected)
    (command : Command)
    (reader : Reader) :
    Handled ((acceptCommand command reader >>= noteUnread command) session)
      session.situation (Delivery.ofCommand command reader) :=
  (handled_acceptCommand goesOn command reader).bind
    fun _ _ => ⟨(), rfl⟩

/-- An octet that is no command is refused like one that is not for clients. -/
theorem handled_takeCommand
    {session : Session}
    (goesOn : session.inbound.ready.nextId = session.inbound.window.expected)
    (reader : Reader) :
    Handled (takeCommand reader session) session.situation
      (Delivery.ofCommandOctet reader) := by
  unfold takeCommand Delivery.ofCommandOctet
  rcases taken : Decoder.octet reader with ⟨failure | code, rest⟩
  · rw [decoded_bind_error taken]
    exact .nothing rfl
  · rw [decoded_bind_ok taken]
    dsimp only
    cases Command.ofCode? code with
    | none => exact .nothing rfl
    | some command =>
        refine Handled.after (.note _) fun noted same => ?_
        have sameInbound : noted.inbound = session.inbound :=
          congrArg Situation.inbound same
        exact handled_acceptCommand_noteUnread (sameInbound ▸ goesOn)
          command rest

/-- Outside the connection a greeting is handled, and all else refused. -/
theorem handled_acceptOutOfBand
    {session : Session}
    (goesOn : session.inbound.ready.nextId = session.inbound.window.expected)
    (reader : Reader) :
    Handled (acceptOutOfBand reader session) session.situation
      (Delivery.ofOutOfBand reader) := by
  unfold acceptOutOfBand Delivery.ofOutOfBand
  rcases numbered : Decoder.word16 reader with ⟨failure | number, rest⟩
  · rw [decoded_bind_error numbered]
    exact .nothing rfl
  · rw [decoded_bind_ok numbered]
    dsimp only
    rcases taken : Decoder.octet rest with ⟨failure | code, rest⟩
    · rw [decoded_bind_error taken]
      exact .nothing rfl
    · rw [decoded_bind_ok taken]
      dsimp only
      by_cases answers : Command.ofCode? code = some .connectResponse
      · rw [if_pos answers, if_pos answers]
        exact handled_acceptCommand_noteUnread goesOn .connectResponse rest
      · rw [if_neg answers, if_neg answers]
        exact .nothing rfl

/-- Behind the checks of seal, sequence and echo, the command decides. -/
theorem handled_acceptSealed
    {session : Session}
    (goesOn : session.inbound.ready.nextId = session.inbound.window.expected)
    (secret : UInt64)
    (reader : Reader) :
    Handled (acceptSealed secret reader session) session.situation
      (match ((reader.afterSeal? secret).bind
          (Reader.afterNumber? session.receiveSequence)).bind
            Reader.afterEcho? with
      | none => .nothing
      | some reader => Delivery.ofCommandOctet reader) := by
  unfold acceptSealed
  obtain ⟨keeps, finds⟩ := checkSeal_spec secret reader session
  have sealed :
      Leaves (checkSeal secret reader session) session.situation
        (reader.afterSeal? secret) :=
    ⟨congrArg situation keeps, finds⟩
  cases sealPlace : reader.afterSeal? secret with
  | none =>
      rw [sealPlace] at sealed
      exact .nothing sealed.bind_none.situation
  | some reader =>
      rw [sealPlace] at sealed
      refine Handled.following sealed ?_
      rw [keeps, Option.bind_some]
      have numbered := Leaves.checkSequence reader session
      cases numberPlace :
          reader.afterNumber? session.receiveSequence with
      | none =>
          rw [numberPlace] at numbered
          exact .nothing numbered.bind_none.situation
      | some reader =>
          rw [numberPlace] at numbered
          refine Handled.after numbered fun accepted same => ?_
          rw [Option.bind_some]
          have echoed := Leaves.takeEcho reader accepted
          cases echoPlace : reader.afterEcho? with
          | none =>
              rw [echoPlace] at echoed
              exact .nothing echoed.bind_none.situation
          | some reader =>
              rw [echoPlace] at echoed
              refine Handled.after echoed fun measured again => ?_
              have sameInbound : measured.inbound = session.inbound :=
                congrArg Situation.inbound (again.trans same)
              exact handled_takeCommand (sameInbound ▸ goesOn) reader

/-- Within the connection, the checks in front of a command spare the session. -/
theorem handled_acceptConnected
    {session : Session}
    (goesOn : session.inbound.ready.nextId = session.inbound.window.expected)
    (id : UInt8)
    (reader : Reader) :
    Handled (acceptConnected id reader session) session.situation
      (match (session.afterHeader? id reader).bind Reader.afterEcho? with
      | none => .nothing
      | some reader => Delivery.ofCommandOctet reader) := by
  unfold acceptConnected afterHeader?
  rw [current_bind]
  cases connected : session.connection with
  | none => exact .nothing rfl
  | some connection =>
      by_cases foreign : connection.id ≠ id
      · simp only [foreign, ne_eq, not_false_eq_true, ↓reduceIte, true_or,
          Option.bind_none]
        exact .nothing rfl
      · by_cases gone : session.stage = .disconnected
        · simp only [foreign, gone, ↓reduceIte, or_true, Option.bind_none]
          exact .nothing rfl
        · simp only [foreign, gone, or_self, ↓reduceIte]
          exact handled_acceptSealed goesOn connection.secret reader

/-- Every datagram is handled as what it delivers. -/
theorem handled_acceptDatagram
    {session : Session}
    (goesOn : session.inbound.ready.nextId = session.inbound.window.expected)
    (datagram : Octets) :
    Handled (acceptDatagram datagram session) session.situation
      (session.delivery datagram) := by
  unfold acceptDatagram delivery
  by_cases short : datagram.length < fewestDatagramOctets
  · rw [if_pos short, if_pos short]
    exact .nothing rfl
  · rw [if_neg short, if_neg short]
    rcases named : Decoder.octet (Reader.ofOctets datagram) with
      ⟨failure | id, reader⟩
    · rw [decoded_bind_error named]
      exact .nothing rfl
    · rw [decoded_bind_ok named]
      dsimp only
      by_cases outOfBand : id = noConnectionId
      · rw [if_pos outOfBand, if_pos outOfBand]
        exact handled_acceptOutOfBand goesOn reader
      · rw [if_neg outOfBand, if_neg outOfBand]
        exact handled_acceptConnected goesOn id reader

end Action

/-- Counting a datagram and counting that it was refused only measure. -/
theorem handled_receive
    {session : Session}
    (goesOn : session.inbound.ready.nextId = session.inbound.window.expected)
    (datagram : Octets) :
    Action.Handled (session.receive datagram) session.situation
      (session.delivery datagram) := by
  have handled :=
    @Action.handled_acceptDatagram (session.countArrival datagram) goesOn
      datagram
  unfold receive
  dsimp only
  split
  case h_1 => exact handled
  case h_2 refusal refused => exact ⟨handled.unread, handled.unchanged⟩

/--
In every session that a run reaches: a datagram that is refused leaves the situation
as it was, unless it brings a report whose steps cannot be read.  Such a datagram is
refused too, and drops the predicted steps that the report acknowledges.
-/
theorem refused_receive
    (settings : Settings)
    (events : List Event)
    (datagram : Octets) :
    let session := (create settings).1.afterAll events
    ((∀ report, session.delivery datagram ≠ .report report) →
        ∀ refusal, (session.receive datagram).result = .error refusal →
          (session.receive datagram).session.situation =
            session.situation) ∧
      ∀ report, session.delivery datagram = .report report →
        (∃ failure,
          (session.receive datagram).result =
            .error (.malformed failure)) ∧
          (session.receive datagram).session.situation =
            session.situation.acceptReport report := by
  intro session
  have goesOn := (tracks_afterAll settings events).faithful.goesOn
  have handled := handled_receive goesOn datagram
  refine ⟨handled.unchanged, fun report brings => ?_⟩
  refine ⟨handled.unread report brings, ?_⟩
  rw [situation_receive, brings]
  rfl

/-- A synced session that has predicted one step. -/
def predictedOne : List Event :=
  eventsOf syncing ++ [.asked (.predict [19])]

/-- An announcement of one snapshot that breaks off. -/
def cutAnnouncement : Octets :=
  numberedMessage 3 (DownloadResponse.fields ⟨0, 5, 0, 1⟩).dropLast

/--
A report that the server has step 5, before a run of one step that breaks off.
-/
def cutRun : Octets :=
  numberedMessage 3 (StepReport.fields ⟨1, 0, 20, 5⟩ ++ [[1]])

/-- Both datagrams are refused, and one of them drops the predicted step. -/
theorem refused_predictedOne :
    let session := (create Settings.standard).1.afterAll predictedOne
    session.delivery cutAnnouncement = .nothing ∧
      session.delivery cutRun = .report ⟨1, 0, 20, 5⟩ ∧
      (session.receive cutAnnouncement).result.toOption = none ∧
      (session.receive cutRun).result.toOption = none ∧
      session.outbound.predicted.length = 1 ∧
      (session.receive cutRun).session.outbound.predicted.length = 0 := by
  decide +kernel

/--
One announcement and one run that are cut short: only the latter leaves a trace.
-/
theorem refused_receive_cut :
    let session := (create Settings.standard).1.afterAll predictedOne
    (session.receive cutAnnouncement).session.situation =
        session.situation ∧
      (session.receive cutRun).session.situation =
        session.situation.acceptReport ⟨1, 0, 20, 5⟩ := by
  intro session
  obtain ⟨nothing, report, refused, _⟩ := refused_predictedOne
  have announcement :=
    (refused_receive Settings.standard predictedOne cutAnnouncement).1
      (by rw [nothing]; nofun)
  have run :=
    (refused_receive Settings.standard predictedOne cutRun).2 _ report
  cases outcome : (session.receive cutAnnouncement).result with
  | ok _ =>
      rw [outcome] at refused
      cases refused
  | error refusal => exact ⟨announcement refusal outcome, run.2⟩

/--
A refused datagram can change the situation: the cut run drops a predicted step.
-/
theorem not_always_spared :
    ¬∀ (settings : Settings) (events : List Event) (datagram : Octets)
        (refusal : Refusal),
        let session := (create settings).1.afterAll events
        (session.receive datagram).result = .error refusal →
          (session.receive datagram).session.situation =
            session.situation := by
  intro spared
  let session := (create Settings.standard).1.afterAll predictedOne
  obtain ⟨_, _, _, refused, before, afterwards⟩ := refused_predictedOne
  cases outcome : (session.receive cutRun).result with
  | ok _ =>
      rw [outcome] at refused
      cases refused
  | error refusal =>
      have same := spared Settings.standard predictedOne cutRun refusal
        outcome
      have sameOutbound {first second : Session}
          (same : first.situation = second.situation) :
          first.outbound = second.outbound :=
        congrArg Situation.outbound same
      rw [sameOutbound same, before] at afterwards
      cases afterwards

end StepSync.Session
