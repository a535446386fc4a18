import StepSync.Proofs.Session.Elapsed
import StepSync.Proofs.Session.Reply

namespace StepSync

/-!
# What datagrams measure

A datagram within the session's connection may echo a time behind a marker, and a
report in front of authoritative steps echoes one too and tells the server's
reserve.  What these say is what receiving does to the gauge of a session
(`Session.gauge_receive`).
-/

namespace Gauge

/-- A latency was measured. -/
def record (gauge : Gauge) (latency : Nat) : Gauge :=
  { gauge with
    latency := some latency
    latencies := gauge.latencies.add (Metrics.timeSample latency) }

/-- A time was echoed: it measures the latency, unless it lies ahead. -/
def hear (gauge : Gauge) (now : Nat) (bits : UInt16) : Gauge :=
  (Session.elapsedSince? now bits).elim gauge gauge.record

/-- The server has told its reserve. -/
def reserve (gauge : Gauge) (report : StepReport) : Gauge :=
  { gauge with
    reserves := gauge.reserves.add report.bufferDelta.toInt }

/-- A report tells the reserve, and then it echoes a time. -/
def accept (gauge : Gauge) (now : Nat) (report : StepReport) : Gauge :=
  (gauge.reserve report).hear now report.echoedTime

/--
What is measured by an echoed time in front of a command, and by a
report behind it.
-/
def take
    (gauge : Gauge)
    (now : Nat)
    (pong? : Option UInt16)
    (report? : Option StepReport) :
    Gauge :=
  report?.elim (pong?.elim gauge (gauge.hear now))
    ((pong?.elim gauge (gauge.hear now)).accept now)

end Gauge

/-- The time that is echoed in front of a command, if one is. -/
def Reader.echo? (reader : Reader) : Option UInt16 :=
  match reader.peek with
  | .error _ => none
  | .ok octet =>
      if octet = pongMarker then
        match Decoder.marker pongMarker reader with
        | (.error _, _) => none
        | (.ok _, reader) => (Decoder.word16 reader).1.toOption
      else none

namespace Reader

/-- An echoed stamp is found behind its marker. -/
theorem echo?_ofEcho
    (stamp : UInt16)
    (position : Nat)
    (message : Octets) :
    echo? ⟨position, Octets.ofEcho (some stamp) ++ message⟩ =
      some stamp := by
  have marked := Decoder.Reads.marker pongMarker position
    (Octets.ofWord16 stamp ++ message)
  have taken := Decoder.Reads.word16 stamp (position + 1) message
  simp only [List.singleton_append] at marked
  simp [echo?, peek, Octets.ofEcho, marked, taken, Except.toOption]

/-- In front of a command the echo is found, if there is one. -/
theorem echo?_code
    (echo : Option UInt16)
    (command : Command)
    (position : Nat)
    (body : Octets) :
    echo? ⟨position, Octets.ofEcho echo ++ command.code :: body⟩ = echo := by
  cases echo with
  | none => exact if_neg command.code_ne_pongMarker
  | some stamp => exact echo?_ofEcho stamp position _

end Reader

namespace Delivery

/-- A report is delivered whatever is behind it. -/
theorem report?_ofStepResponse (reader : Reader) :
    (ofStepResponse reader).report? =
      (StepReport.decode reader).1.toOption := by
  unfold ofStepResponse
  rcases StepReport.decode reader with ⟨failure | report, rest⟩
  · rfl
  · dsimp only
    split <;> rfl

/-- Only the server's steps come behind a report. -/
theorem report?_ofCommand
    {command : Command}
    (other : command ≠ .gameStepResponse)
    (reader : Reader) :
    (ofCommand command reader).report? = none := by
  have ofMessages {Message : Type} (decoder : Decoder Message)
      {deliver : Message → Delivery}
      (plain : ∀ message, (deliver message).report? = none) :
      (ofMessage decoder deliver reader).report? = none := by
    unfold ofMessage
    split
    · rfl
    · exact plain _
  cases command with
  | gameStepResponse => exact absurd rfl other
  | connectResponse => exact ofMessages _ fun _ => rfl
  | joinGameResponse => exact ofMessages _ fun _ => rfl
  | joinGameOutOfParticipantSlots => exact ofMessages _ fun _ => rfl
  | downloadGameStateResponse => exact ofMessages _ fun _ => rfl
  | gameStatePart =>
      unfold ofCommand ofPart
      dsimp only
      split
      · rfl
      · split <;> rfl
  | joinGameRequest => rfl
  | gameStep => rfl
  | downloadGameStateRequest => rfl
  | downloadGameStateStatus => rfl
  | connectRequest => rfl

end Delivery

namespace Session

/--
The time that a datagram of the session's own connection echoes in front
of its command.
-/
def pong? (session : Session) (datagram : Octets) : Option UInt16 :=
  if datagram.length < fewestDatagramOctets then none
  else
    match Decoder.octet (Reader.ofOctets datagram) with
    | (.error _, _) => none
    | (.ok id, reader) =>
        if id = noConnectionId then none
        else (session.afterHeader? id reader).bind Reader.echo?

namespace Action

/-! ## What measures nothing -/

namespace Keeps

theorem gauge_acceptConnection (response : ConnectResponse) :
    Keeps gauge (Action.acceptConnection response) := by
  refine current fun session => ?_
  split
  · exact note _
  · split
    · exact refuse _
    · exact bind (modify fun _ => rfl) fun _ => note _

/-- A number measures nothing. -/
theorem gauge_checkSequence (reader : Reader) :
    Keeps gauge (Action.checkSequence reader) := by
  refine bind (decoded _ _) fun (number, reader) => ?_
  refine current fun session => ?_
  refine bind (modify fun _ => rfl) fun _ => ?_
  split
  · exact refuse _
  · have counts (lost : Nat) : Keeps gauge (Action.countLost lost) :=
      bind (updateHealth _) fun _ => modify fun _ => rfl
    refine bind (counts _) fun _ => ?_
    exact bind (modify fun _ => rfl) fun _ => pure _

end Keeps

/-! ## What measures -/

/-- A measured latency is heard by the gauge, and by nothing else in it. -/
theorem gauge_measureLatency (bits : UInt16) (session : Session) :
    (measureLatency bits session).session.gauge =
      session.gauge.hear session.now bits := by
  unfold measureLatency Gauge.hear
  rw [current_bind]
  cases elapsedSince? session.now bits <;> rfl

/-- The gauge accepts a report when the session does. -/
theorem gauge_acceptReport
    (report : StepReport)
    (octets : Nat)
    (session : Session) :
    (acceptReport report octets session).session.gauge =
      session.gauge.accept session.now report := by
  rw [acceptReport, modify_bind]
  generalize told : { session with metrics := _ } = counted
  have reserved : counted.gauge = session.gauge.reserve report := by
    rw [← told]
    rfl
  have sameTime : counted.now = session.now := by
    rw [← told]
  rw [field_bind gauge, gauge_measureLatency, reserved, sameTime,
    Gauge.accept]
  exact fun _ => .current fun _ =>
    .bind (.modify fun _ => rfl) fun _ => .note _

/--
A step response is measured by its report, whether its steps can be read or not.
-/
theorem gauge_acceptStepResponse (reader : Reader) (session : Session) :
    (acceptStepResponse reader session).session.gauge =
      (Delivery.ofStepResponse reader).report?.elim session.gauge
        (session.gauge.accept session.now) := by
  rw [Delivery.report?_ofStepResponse]
  unfold acceptStepResponse
  rcases reported : StepReport.decode reader with
    ⟨failure | report, rest⟩
  · rw [decoded_bind_error reported]
    rfl
  · rw [decoded_bind_ok reported]
    dsimp only
    rw [field_bind gauge, gauge_acceptReport, Except.toOption,
      Option.elim_some]
    exact fun _ => .bind (.decoded _ _) fun _ =>
      .bind (.acceptSteps _) fun _ => .pure _

/-- Of all commands only a step response is measured. -/
theorem gauge_acceptCommand
    (command : Command)
    (reader : Reader)
    (session : Session) :
    (acceptCommand command reader session).session.gauge =
      (Delivery.ofCommand command reader).report?.elim session.gauge
        (session.gauge.accept session.now) := by
  by_cases steps : command = .gameStepResponse
  · rw [steps]
    exact gauge_acceptStepResponse reader session
  · rw [Delivery.report?_ofCommand steps]
    exact Keeps.acceptCommand_of (fun _ => Keeps.gauge_acceptConnection)
      (absurd · steps) reader session

/-- Behind the octet of a command, too, only a report is measured. -/
theorem gauge_takeCommand (reader : Reader) (session : Session) :
    (takeCommand reader session).session.gauge =
      (Delivery.ofCommandOctet reader).report?.elim session.gauge
        (session.gauge.accept session.now) := by
  unfold takeCommand Delivery.ofCommandOctet
  rcases taken : Decoder.octet reader with ⟨failure | code, rest⟩
  · rw [decoded_bind_error taken]
    rfl
  · rw [decoded_bind_ok taken]
    dsimp only
    cases Command.ofCode? code with
    | none => rfl
    | some command =>
        rw [session_bind, note_apply]
        dsimp only
        rw [field_bind gauge, gauge_acceptCommand]
        exact fun _ => .noteAll _

/-- An echo in front of a command is heard. -/
theorem gauge_takeEcho (reader : Reader) (session : Session) :
    (takeEcho reader session).session.gauge =
      reader.echo?.elim session.gauge
        (session.gauge.hear session.now) := by
  unfold takeEcho Reader.echo?
  cases reader.peek with
  | error failure => rfl
  | ok octet =>
      dsimp only
      by_cases announced : octet = pongMarker
      · rw [if_pos announced, if_pos announced]
        rcases marked : Decoder.marker pongMarker reader with
          ⟨failure | found, rest⟩
        · rw [decoded_bind_error marked]
          rfl
        · rw [decoded_bind_ok marked]
          dsimp only
          rcases echoed : Decoder.word16 rest with ⟨failure | bits, behind⟩
          · rw [decoded_bind_error echoed]
            rfl
          · rw [decoded_bind_ok echoed]
            dsimp only
            rw [field_bind gauge, gauge_measureLatency, Except.toOption,
              Option.elim_some]
            exact fun _ => .pure _
      · rw [if_neg announced, if_neg announced]
        rfl

/-- Behind the header, the echo is heard first, and then the command is taken. -/
theorem gauge_behindHeader (reader : Reader) (session : Session) :
    ((takeEcho reader >>= takeCommand) session).session.gauge =
      session.gauge.take session.now reader.echo?
        (match reader.afterEcho? with
        | none => Delivery.nothing
        | some reader => Delivery.ofCommandOctet reader).report? := by
  have heard := gauge_takeEcho reader session
  have sameTime :
      (takeEcho reader session).session.now = session.now :=
    Keeps.takeEcho reader session
  have place := (Leaves.takeEcho reader session).found
  rw [session_bind, ← place]
  cases taken : (takeEcho reader session).result with
  | error refusal => exact heard
  | ok behind =>
      rw [Except.toOption]
      dsimp only
      rw [gauge_takeCommand, heard, sameTime]
      rfl

/-- Behind the seal and the number, a datagram is measured. -/
theorem gauge_acceptSealed
    (secret : UInt64)
    (reader : Reader)
    (session : Session) :
    (acceptSealed secret reader session).session.gauge =
      let header? :=
        (reader.afterSeal? secret).bind
          (Reader.afterNumber? session.receiveSequence)
      session.gauge.take session.now (header?.bind Reader.echo?)
        (match header?.bind Reader.afterEcho? with
        | none => Delivery.nothing
        | some reader => Delivery.ofCommandOctet reader).report? := by
  obtain ⟨keeps, finds⟩ := checkSeal_spec secret reader session
  unfold acceptSealed
  rw [session_bind, keeps, ← finds]
  cases (checkSeal secret reader session).result with
  | error refusal => rfl
  | ok behind =>
      have kept : (checkSequence behind session).session.gauge = session.gauge :=
        Keeps.gauge_checkSequence behind session
      have sameTime :
          (checkSequence behind session).session.now = session.now :=
        Keeps.checkSequence behind session
      have place := (Leaves.checkSequence behind session).found
      rw [Except.toOption]
      dsimp only
      rw [Option.bind_some, ← place, session_bind]
      cases (checkSequence behind session).result with
      | error refusal => exact kept
      | ok message =>
          rw [Except.toOption]
          dsimp only
          rw [gauge_behindHeader, kept, sameTime]
          rfl

/-- Within the connection the gauge takes the echo first, and then the report. -/
theorem gauge_acceptConnected
    (id : UInt8)
    (reader : Reader)
    (session : Session) :
    (acceptConnected id reader session).session.gauge =
      session.gauge.take session.now
        ((session.afterHeader? id reader).bind Reader.echo?)
        (match (session.afterHeader? id reader).bind Reader.afterEcho? with
        | none => Delivery.nothing
        | some reader => Delivery.ofCommandOctet reader).report? := by
  unfold acceptConnected afterHeader?
  rw [current_bind]
  cases session.connection with
  | none => rfl
  | some connection =>
      by_cases foreign : connection.id ≠ id
      · simp only [foreign, ne_eq, not_false_eq_true, true_or, ↓reduceIte]
        rfl
      · by_cases gone : session.stage = .disconnected
        · simp only [foreign, gone, or_true, ↓reduceIte]
          rfl
        · simp only [foreign, gone, or_self, ↓reduceIte]
          exact gauge_acceptSealed connection.secret reader session

end Action

/-- What a datagram says is what receiving it does to the gauge. -/
theorem gauge_receive (session : Session) (datagram : Octets) :
    (session.receive datagram).session.gauge =
      session.gauge.take session.now (session.pong? datagram)
        (session.delivery datagram).report? := by
  have counted :
      (session.receive datagram).session.gauge =
        (Action.acceptDatagram datagram
          (session.countArrival datagram)).session.gauge := by
    unfold receive
    dsimp only
    split <;> rfl
  rw [counted]
  simp only [Action.acceptDatagram, delivery, pong?]
  by_cases short : datagram.length < fewestDatagramOctets
  · simp only [short, ↓reduceIte]
    rfl
  · simp only [short, ↓reduceIte]
    rcases named : Decoder.octet (Reader.ofOctets datagram) with
      ⟨failure | id, reader⟩
    · rw [Action.decoded_bind_error named]
      rfl
    · rw [Action.decoded_bind_ok named]
      dsimp only
      by_cases outOfBand : id = noConnectionId
      · have noReport : (Delivery.ofOutOfBand reader).report? = none := by
          rcases ofOutOfBand_cases reader with nothing | ⟨_, connects⟩
          · rw [nothing]
            rfl
          · rw [connects]
            rfl
        rw [if_pos outOfBand, if_pos outOfBand, if_pos outOfBand, noReport]
        exact Action.Keeps.acceptOutOfBand_of_connection
          Action.Keeps.gauge_acceptConnection reader _
      · rw [if_neg outOfBand, if_neg outOfBand, if_neg outOfBand]
        exact Action.gauge_acceptConnected id reader _

section

variable
  {session : Session}
  {connection : Connection}
  {number : UInt16}
  (connected : session.connection = some connection)
  (named : connection.id ≠ noConnectionId)
  (present : session.stage ≠ .disconnected)
  (ahead : 0 < session.receiveSequence.distance number)

include connected named present ahead

/-- Within the session's own connection an echo is looked for behind the number. -/
theorem pong?_reply (echo : Option UInt16) (message : Octets) :
    session.pong? (reply connection number echo message) =
      Reader.echo?
        ⟨0 + [connection.id].length + 4 + 2,
          Octets.ofEcho echo ++ message⟩ := by
  have long :
      ¬(reply connection number echo message).length <
        fewestDatagramOctets := by
    have bounds := length_reply connection number echo message
    unfold fewestDatagramOctets
    omega
  have taken := Decoder.Reads.octet connection.id 0
    (Octets.ofWord32 (Seal.make connection.secret
        (Octets.ofWord16 number ++ (Octets.ofEcho echo ++ message))) ++
      (Octets.ofWord16 number ++ (Octets.ofEcho echo ++ message)))
  rw [List.singleton_append] at taken
  have own :
      ¬(connection.id ≠ connection.id ∨ session.stage = .disconnected) := by
    simp [present]
  rw [pong?, if_neg long, reply, sealedDatagram, Reader.ofOctets, taken]
  dsimp only
  rw [if_neg named, afterHeader?, connected]
  dsimp only
  rw [if_neg own, Reader.afterSeal?_make, Option.bind_some,
    Reader.afterNumber?_of_ahead ahead, Option.bind_some]

/-- What an echo and a report in one datagram measure. -/
theorem gauge_receive_report
    (echo : Option UInt16)
    (report : StepReport)
    (steps : Octets) :
    (session.receive
        (reply connection number echo
          (report.fields.flatten ++ steps))).session.gauge =
      session.gauge.take session.now echo (some report) := by
  have written :
      report.fields.flatten ++ steps =
        Command.gameStepResponse.code ::
          ([report.bufferCount] ++
            ([report.bufferDelta.toUInt8] ++
              (Octets.ofWord16 report.echoedTime ++
                Octets.ofWord32 report.lastPredicted)) ++ steps) := by
    simp [StepReport.fields, Command.fields]
  have reads := StepReport.reads_body report
    (0 + [connection.id].length + 4 + 2 + (Octets.ofEcho echo).length + 1)
    steps
  rw [gauge_receive, written, pong?_reply connected named present ahead,
    Reader.echo?_code, delivery_reply connected named present ahead,
    Delivery.ofCommand, Delivery.report?_ofStepResponse, reads]
  rfl

end

/-! ## Everything else -/

/--
The beginning of a tick measures how long the one before took, not the way
to the server.
-/
theorem gauge_beginTick (now : Nat) (session : Session) :
    (Action.beginTick now session).session.gauge = session.gauge := by
  have measures : Action.Keeps gauge (Action.measureTick now) := by
    refine .current fun session => ?_
    split
    · exact .pure _
    · exact .bind (.modify fun _ => rfl) fun _ => .noteAll _
  have begins : Action.Keeps gauge (Action.beginTick now) :=
    .bind measures fun _ => .modify fun _ => rfl
  exact begins session

/-- Judging the link and sending leave the gauge alone. -/
theorem gauge_endTick
    (session : Session)
    (now : Nat)
    (refusal : Option String) :
    (session.endTick now refusal).outcome.session.gauge = session.gauge :=
  (field_endTick gauge session now refusal).trans
    (Action.Keeps.judgeLink session)

end Session

end StepSync
