import StepSync.Proofs.Link.Health
import StepSync.Proofs.Session.Refused
import StepSync.Proofs.Session.Unchanged

namespace StepSync.Session

/-!
# What the link hears

Receiving only sets counters of the link back, and a session that becomes synced
starts from an unknown link (`heard_receive`).  A datagram that brings a new
authoritative step sets both counters to zero (`fresh_receive`).  Sending does not
touch the link, so the end of a tick does to it what `Health.tick` says
(`health_endTick`).
-/

/-- A relation between sessions that holds along a sequence of actions. -/
class Lasting (Related : Session → Session → Prop) : Prop where
  refl : ∀ session, Related session session
  trans : ∀ {first second third},
    Related first second → Related second third → Related first third

namespace Action

variable {First Result : Type}

/-- What an action does to a session is related. -/
def Respects
    (Related : Session → Session → Prop)
    (action : Action Result) :
    Prop :=
  ∀ session, Related session (action session).session

namespace Respects

variable {Related : Session → Session → Prop} [Lasting Related]

/-- An action that leaves the session as it is respects every such relation. -/
theorem of_same
    {action : Action Result}
    (same : ∀ session, (action session).session = session) :
    Respects Related action := by
  intro session
  rw [same]
  exact Lasting.refl session

theorem pure (result : Result) :
    Respects Related (Pure.pure result : Action Result) :=
  of_same fun _ => rfl

theorem refuse (refusal : Refusal) :
    Respects Related (Action.refuse refusal : Action Result) :=
  of_same fun _ => rfl

theorem note (notice : Notice) : Respects Related (Action.note notice) :=
  of_same fun _ => rfl

theorem noteAll (notices : List Notice) :
    Respects Related (Action.noteAll notices) :=
  of_same fun _ => rfl

omit [Lasting Related] in
theorem modify
    {change : Session → Session}
    (related : ∀ session, Related session (change session)) :
    Respects Related (Action.modify change) :=
  related

/-- A relation that lasts holds along two actions if it does along each. -/
theorem bind
    {action : Action First}
    {next : First → Action Result}
    (first : Respects Related action)
    (second : ∀ found, Respects Related (next found)) :
    Respects Related (action >>= next) := by
  intro session
  rw [session_bind]
  split
  · exact Lasting.trans (first session) (second _ _)
  · exact first session

theorem current
    {next : Session → Action Result}
    (respects : ∀ session, Respects Related (next session)) :
    Respects Related (Action.current >>= next) :=
  bind (of_same fun _ => rfl) respects

/-- Reading leaves the session as it is. -/
theorem decoded (decoder : Decoder Result) (reader : Reader) :
    Respects Related (Action.decoded decoder reader) := by
  unfold Action.decoded
  split
  · exact pure _
  · exact refuse _

end Respects

end Action

/-! ## Receiving -/

/--
The link that the judgement of a synced session goes on from; before that
nothing is known.
-/
def link (session : Session) : Health :=
  if session.stage = .synced then session.health else Health.unknown

/--
A synced session stays synced, and what is heard of its link, from the
beginning on, eases it.
-/
structure Heard (before after : Session) : Prop where
  stays : before.stage = .synced → after.stage = .synced
  eases : after.stage = .synced → before.link.Eases after.health

namespace Heard

/-- The link of a synced session is the one that it judges. -/
theorem link_of_synced
    {session : Session}
    (synced : session.stage = .synced) :
    session.link = session.health :=
  if_pos synced

/-- A session that is not synced knows nothing of its link. -/
theorem link_of_unsynced
    {session : Session}
    (unsynced : session.stage ≠ .synced) :
    session.link = Health.unknown :=
  if_neg unsynced

variable {before after : Session}

/-- What eases the link and leaves the stage is heard. -/
theorem of_eases
    (sameStage : after.stage = before.stage)
    (eases : before.health.Eases after.health) :
    Heard before after where
  stays := fun synced => sameStage.trans synced
  eases := fun synced => by
    rw [link_of_synced (sameStage ▸ synced)]
    exact eases

/-- Short of syncing there is nothing to hear. -/
theorem of_unsynced
    (unsynced : before.stage ≠ .synced)
    (stillUnsynced : after.stage ≠ .synced) :
    Heard before after :=
  ⟨fun synced => absurd synced unsynced,
    fun synced => absurd synced stillUnsynced⟩

/-- What is heard of a synced session leaves a counter at zero. -/
theorem datagrams
    (heard : Heard before after)
    (synced : before.stage = .synced)
    (zero : before.health.ticksWithoutDatagrams = 0) :
    after.health.ticksWithoutDatagrams = 0 := by
  have eases := (heard.eases (heard.stays synced)).datagrams
  rw [link_of_synced synced, zero] at eases
  exact Nat.le_zero.mp eases

instance : Lasting Heard where
  refl _ := of_eases rfl (.refl _)
  trans {first second third} earlier later := by
    refine ⟨fun synced => later.stays (earlier.stays synced),
      fun synced => ?_⟩
    have rest := later.eases synced
    by_cases between : second.stage = .synced
    · rw [link_of_synced between] at rest
      exact (earlier.eases between).trans rest
    · have before : first.stage ≠ .synced := mt earlier.stays between
      rw [link_of_unsynced between] at rest
      rw [link_of_unsynced before]
      exact rest

end Heard

namespace Action.Respects

/-- A change that leaves the stage and eases the link is heard. -/
theorem heard_modify
    {change : Session → Session}
    (sameStage : ∀ session, (change session).stage = session.stage)
    (eases : ∀ session : Session,
      session.health.Eases (change session).health) :
    Respects Heard (Action.modify change) :=
  modify fun session => .of_eases (sameStage session) (eases session)

/-- A change of the health that eases it is heard. -/
theorem heard_updateHealth
    {change : Health → Health × List Health.Notice}
    (eases : ∀ health : Health, health.Eases (change health).1) :
    Respects Heard (updateHealth change) :=
  fun session => .of_eases rfl (eases session.health)

/-- A measured latency is heard as a measurement, and no counter rises. -/
theorem heard_measureLatency (bits : UInt16) :
    Respects Heard (measureLatency bits) := by
  refine current fun session => ?_
  split
  · exact note _
  · exact heard_modify (fun _ => rfl) fun _ => .measuredLatency _ _

/-- A connection is taken before there is a link to judge. -/
theorem heard_acceptConnection (response : ConnectResponse) :
    Respects Heard (acceptConnection response) := by
  intro session
  by_cases requesting : session.stage = .requestingConnect
  · have moves := congrArg Situation.stage
      (situation_acceptConnection response session)
    change (acceptConnection response session).session.stage = _ at moves
    refine .of_unsynced (by rw [requesting]; decide) ?_
    rw [moves]
    unfold Situation.acceptConnection
    split
    · nofun
    · change session.stage ≠ .synced
      rw [requesting]
      decide
  · have ignored : (acceptConnection response session).session = session := by
      simp [acceptConnection, session_bind, requesting]
    rw [ignored]
    exact Lasting.refl session

/-- Participants do not make the link any worse. -/
theorem heard_acceptMembership (response : JoinResponse) :
    Respects Heard (acceptMembership response) := by
  refine current fun session => ?_
  dsimp only
  split
  · exact note _
  · split
    · exact note _
    · split
      · exact refuse _
      · refine bind (noteAll _) fun _ => ?_
        refine bind ?_ fun _ => note _
        exact heard_modify (fun _ => rfl) fun _ => .refl _

theorem heard_acceptOutOfSlots (answer : OutOfSlots) :
    Respects Heard (acceptOutOfSlots answer) :=
  bind (note _) fun _ => heard_modify (fun _ => rfl) fun _ => .refl _

/-- A session that goes on from a snapshot goes on with an unknown link. -/
theorem heard_finishDownload : Respects Heard finishDownload := by
  intro session
  unfold finishDownload
  rw [current_bind]
  cases session.download with
  | none => exact Lasting.refl session
  | some download =>
      by_cases complete : download.assembly.isComplete
      · simp only [complete, ↓reduceIte]
        cases download.snapshot? with
        | none => exact Lasting.refl session
        | some snapshot =>
            by_cases synced : session.stage = .synced
            · simp only [synced, ↓reduceIte]
              exact Lasting.refl session
            · simp only [synced, ↓reduceIte, session_bind, modify_apply,
                note_apply]
              refine ⟨fun before => absurd before synced, fun _ => ?_⟩
              rw [Heard.link_of_unsynced synced]
              exact .refl _
      · simp only [complete, Bool.false_eq_true, ↓reduceIte]
        exact Lasting.refl session

/-- A download that begins is none of a synced session. -/
theorem heard_acceptDownload (response : DownloadResponse) :
    Respects Heard (acceptDownload response) := by
  intro session
  by_cases requesting : session.stage = .requestingState
  · have unsynced : session.stage ≠ .synced := by
      rw [requesting]
      decide
    unfold acceptDownload
    change Heard session ((ite _ _ _ : Action Unit) session).session
    split
    · exact note _ session
    · split
      · exact note _ session
      · split
        · exact refuse _ session
        · split
          · exact bind (note _) (fun _ => refuse _) session
          · simp only [session_bind, note_apply, modify_apply]
            refine Lasting.trans (.of_unsynced unsynced ?_)
              (heard_finishDownload _)
            nofun
  · have ignored : (acceptDownload response session).session = session := by
      by_cases known :
          session.download.any fun download =>
            download.channel == response.channel <;>
        simp [acceptDownload, session_bind, known, requesting]
    rw [ignored]
    exact Lasting.refl session

/-- The part that completes a snapshot syncs the session with an unknown link. -/
theorem heard_acceptPart (reader : Reader) :
    Respects Heard (acceptPart reader) := by
  refine bind (decoded _ _) fun (channel, reader) => ?_
  refine current fun session => ?_
  split
  · exact refuse _
  · split
    · exact refuse _
    · split
      · exact refuse _
      · split
        · exact refuse _
        · refine bind ?_ fun _ => ?_
          · exact heard_modify (fun _ => rfl) fun _ => .refl _
          · refine bind (noteAll _) fun _ => ?_
            exact bind heard_finishDownload fun _ => pure _

/-- A report measures the link and raises no counter. -/
theorem heard_acceptReport (report : StepReport) (octets : Nat) :
    Respects Heard (acceptReport report octets) := by
  refine bind ?_ fun _ => ?_
  · exact heard_modify (fun _ => rfl) fun _ => .refl _
  · refine bind (heard_measureLatency _) fun _ => current fun _ => ?_
    refine bind ?_ fun _ => note _
    exact heard_modify (fun _ => rfl) fun _ => .refl _

/-- New steps set the counter of ticks without steps back. -/
theorem heard_acceptSteps (steps : List Step) :
    Respects Heard (acceptSteps steps) := by
  refine current fun session => ?_
  refine bind ?_ fun _ => ?_
  · exact heard_modify (fun _ => rfl) fun _ => .refl _
  · refine bind (noteAll _) fun _ => ?_
    split
    · exact refuse _
    · refine bind ?_ fun _ => note _
      exact heard_modify (fun _ => rfl) fun _ => .receivedSteps _ _

theorem heard_acceptStepResponse (reader : Reader) :
    Respects Heard (acceptStepResponse reader) := by
  refine bind (decoded _ _) fun (report, reader) => ?_
  refine bind (heard_acceptReport _ _) fun _ => ?_
  refine bind (decoded _ _) fun (steps, reader) => ?_
  exact bind (heard_acceptSteps _) fun _ => pure _

theorem heard_acceptMessage
    {Message : Type}
    (decoder : Decoder Message)
    {accept : Message → Action Unit}
    (accepts : ∀ message, Respects Heard (accept message))
    (reader : Reader) :
    Respects Heard (acceptMessage decoder accept reader) := by
  refine bind (decoded _ _) fun (message, reader) => ?_
  exact bind (accepts _) fun _ => pure _

/-- Whatever the command, it is heard. -/
theorem heard_acceptCommand (command : Command) (reader : Reader) :
    Respects Heard (acceptCommand command reader) := by
  cases command with
  | connectResponse =>
      exact heard_acceptMessage _ heard_acceptConnection reader
  | joinGameResponse =>
      exact heard_acceptMessage _ heard_acceptMembership reader
  | joinGameOutOfParticipantSlots =>
      exact heard_acceptMessage _ heard_acceptOutOfSlots reader
  | downloadGameStateResponse =>
      exact heard_acceptMessage _ heard_acceptDownload reader
  | gameStatePart => exact heard_acceptPart reader
  | gameStepResponse => exact heard_acceptStepResponse reader
  | joinGameRequest => exact refuse _
  | gameStep => exact refuse _
  | downloadGameStateRequest => exact refuse _
  | downloadGameStateStatus => exact refuse _
  | connectRequest => exact refuse _

theorem heard_takeCommand (reader : Reader) :
    Respects Heard (takeCommand reader) := by
  refine bind (decoded _ _) fun (code, reader) => ?_
  dsimp only
  split
  · exact refuse _
  · refine bind (note _) fun _ => ?_
    exact bind (heard_acceptCommand _ _) fun _ => noteAll _

theorem heard_acceptOutOfBand (reader : Reader) :
    Respects Heard (acceptOutOfBand reader) := by
  refine bind (decoded _ _) fun (number, reader) => ?_
  refine bind (decoded _ _) fun (code, reader) => ?_
  dsimp only
  split
  · exact bind (heard_acceptCommand _ _) fun _ => noteAll _
  · exact refuse _

/-- A number that lies ahead is heard, however many are lost before it. -/
theorem heard_checkSequence (reader : Reader) :
    Respects Heard (checkSequence reader) := by
  have countLost (lost : Nat) : Respects Heard (countLost lost) := by
    refine bind (heard_updateHealth fun _ => .dropped _ _) fun _ => ?_
    exact heard_modify (fun _ => rfl) fun _ => .refl _
  refine bind (decoded _ _) fun (number, reader) => ?_
  refine current fun session => bind ?_ fun _ => ?_
  · exact heard_modify (fun _ => rfl) fun _ => .refl _
  · split
    · exact refuse _
    · refine bind (countLost _) fun _ => bind ?_ fun _ => pure _
      exact heard_modify (fun _ => rfl) fun _ => .receivedDatagram _

theorem heard_takeEcho (reader : Reader) :
    Respects Heard (takeEcho reader) := by
  unfold takeEcho
  split
  · exact refuse _
  · split
    · refine bind (decoded _ _) fun (marked, reader) => ?_
      refine bind (decoded _ _) fun (bits, reader) => ?_
      exact bind (heard_measureLatency _) fun _ => pure _
    · exact pure _

/-- A datagram within the connection is heard as far as it is accepted. -/
theorem heard_acceptConnected (id : UInt8) (reader : Reader) :
    Respects Heard (acceptConnected id reader) := by
  refine current fun session => ?_
  split
  · exact refuse _
  · split
    · exact refuse _
    · split
      · exact refuse _
      · refine bind (of_same fun session => ?_) fun reader => ?_
        · exact (checkSeal_spec _ _ session).1
        · refine bind (heard_checkSequence _) fun reader => ?_
          exact bind (heard_takeEcho _) fun reader => heard_takeCommand reader

/-- Every datagram is heard as far as it is accepted. -/
theorem heard_acceptDatagram (datagram : Octets) :
    Respects Heard (acceptDatagram datagram) := by
  unfold acceptDatagram
  split
  · exact refuse _
  · refine bind (decoded _ _) fun (id, reader) => ?_
    dsimp only
    split
    · exact heard_acceptOutOfBand _
    · exact heard_acceptConnected _ _

end Action.Respects

/--
A datagram eases the link, and a session that becomes synced starts from
an unknown one.
-/
theorem heard_receive (session : Session) (datagram : Octets) :
    Heard session (session.receive datagram).session := by
  have counted : Heard session (session.countArrival datagram) :=
    .of_eases rfl (.refl _)
  have heard :=
    Lasting.trans counted
      (Action.Respects.heard_acceptDatagram datagram _)
  unfold receive
  dsimp only
  split
  · exact heard
  · exact Lasting.trans heard (.of_eases rfl (.refl _))

/-! ## New steps -/

/-- A datagram brings an authoritative step that is stored. -/
def stores (session : Session) (datagram : Octets) : Bool :=
  match session.delivery datagram with
  | .steps _ steps =>
      (session.inbound.window.receiveAll steps).1.contains .stored
  | _ => false

/-- Steps are only delivered behind one command. -/
theorem command_of_steps
    {command : Command}
    {reader : Reader}
    {report : StepReport}
    {steps : List Step}
    (brings : Delivery.ofCommand command reader = .steps report steps) :
    command = .gameStepResponse := by
  have message
      {Message : Type}
      {decoder : Decoder Message}
      {deliver : Message → Delivery}
      (other : ∀ message, deliver message ≠ .steps report steps) :
      Delivery.ofMessage decoder deliver reader ≠ .steps report steps := by
    unfold Delivery.ofMessage
    rcases decoder reader with ⟨failure | found, rest⟩
    · nofun
    · exact other found
  cases command with
  | gameStepResponse => rfl
  | connectResponse => exact absurd brings (message nofun)
  | joinGameResponse => exact absurd brings (message nofun)
  | joinGameOutOfParticipantSlots => exact absurd brings (message nofun)
  | downloadGameStateResponse => exact absurd brings (message nofun)
  | gameStatePart =>
      refine absurd brings ?_
      simp only [Delivery.ofCommand, Delivery.ofPart]
      rcases Decoder.word16 reader with ⟨failure | channel, rest⟩
      · nofun
      · dsimp only
        rcases Chunk.decode rest with ⟨failure | chunk, rest⟩ <;> nofun
  | joinGameRequest => cases brings
  | gameStep => cases brings
  | downloadGameStateRequest => cases brings
  | downloadGameStateStatus => cases brings
  | connectRequest => cases brings

namespace Action

section

variable
  {session : Session} {reader : Reader}
  {report : StepReport} {steps : List Step}

/-- Where a step is stored, no tick without steps has passed. -/
theorem steps_acceptSteps
    (goesOn : session.inbound.ready.nextId = session.inbound.window.expected)
    (stored : .stored ∈ (session.inbound.window.receiveAll steps).1) :
    (acceptSteps steps session).session.health.ticksWithoutSteps = 0 := by
  obtain ⟨_, _, released⟩ := Inbound.release_receiveAll goesOn steps
  have counted := List.count_pos_iff.mpr stored
  simp only [acceptSteps, session_bind, current_apply, modify_apply,
    noteAll_apply, released, note_apply, Health.receivedSteps, counted,
    ↓reduceIte]

/-- The same of the run behind a report. -/
theorem steps_run
    {rest : Reader}
    (goesOn : session.inbound.ready.nextId = session.inbound.window.expected)
    (run : StepRun.decode reader = (.ok steps, rest))
    (stored : .stored ∈ (session.inbound.window.receiveAll steps).1) :
    ((do
      let (steps, reader) ← decoded StepRun.decode reader
      acceptSteps steps
      return reader : Action Reader)
        session).session.health.ticksWithoutSteps = 0 := by
  rw [decoded_bind_ok run, session_bind]
  have taken := steps_acceptSteps goesOn stored
  split <;> exact taken

/-- The same of a step response, whose report leaves the steps as they are. -/
theorem steps_acceptStepResponse
    (goesOn : session.inbound.ready.nextId = session.inbound.window.expected)
    (brings : Delivery.ofStepResponse reader = .steps report steps)
    (stored : .stored ∈ (session.inbound.window.receiveAll steps).1) :
    (acceptStepResponse reader session).session.health.ticksWithoutSteps =
      0 := by
  unfold Delivery.ofStepResponse at brings
  unfold acceptStepResponse
  rcases reported : StepReport.decode reader with
    ⟨failure | found, reader⟩
  · rw [reported] at brings
    cases brings
  · rw [reported] at brings
    dsimp only at brings
    rw [decoded_bind_ok reported]
    have measured :
        Leaves (acceptReport found reader.size session)
          (session.situation.acceptReport found) (some ()) :=
      .acceptReport found reader.size
    have sameInbound :
        (acceptReport found reader.size session).session.inbound =
          session.inbound :=
      measured.inbound
    dsimp only
    rw [(measured.apply_bind _).1]
    rcases run : StepRun.decode reader with ⟨failure | others, rest⟩
    · rw [run] at brings
      cases brings
    · rw [run] at brings
      obtain rfl := (Delivery.steps.inj brings).2
      exact steps_run (sameInbound ▸ goesOn) run (sameInbound ▸ stored)

/--
The same behind the octet of a command, which has to be that of a step response.
-/
theorem steps_takeCommand
    (goesOn : session.inbound.ready.nextId = session.inbound.window.expected)
    (brings : Delivery.ofCommandOctet reader = .steps report steps)
    (stored : .stored ∈ (session.inbound.window.receiveAll steps).1) :
    (takeCommand reader session).session.health.ticksWithoutSteps = 0 := by
  unfold Delivery.ofCommandOctet at brings
  unfold takeCommand
  rcases taken : Decoder.octet reader with ⟨failure | code, rest⟩
  · rw [taken] at brings
    cases brings
  · rw [taken] at brings
    dsimp only at brings
    rw [decoded_bind_ok taken]
    dsimp only
    cases named : Command.ofCode? code with
    | none =>
        rw [named] at brings
        cases brings
    | some command =>
        rw [named] at brings
        dsimp only at brings ⊢
        obtain rfl := command_of_steps brings
        have accepted := steps_acceptStepResponse goesOn brings stored
        rw [session_bind, note_apply]
        dsimp only
        rw [session_bind]
        split <;> exact accepted

/-- A datagram with a good number is heard. -/
theorem datagrams_checkSequence
    {rest : Reader}
    (ahead : reader.afterNumber? session.receiveSequence = some rest) :
    (checkSequence reader session).session.health.ticksWithoutDatagrams =
      0 := by
  unfold Reader.afterNumber? at ahead
  unfold checkSequence
  rcases numbered : Decoder.word16 reader with ⟨failure | number, place⟩
  · rw [numbered] at ahead
    cases ahead
  · rw [numbered] at ahead
    dsimp only at ahead
    split at ahead
    case isFalse => cases ahead
    case isTrue further =>
      rw [decoded_bind_ok numbered]
      dsimp only
      rw [current_bind]
      have late : ¬session.receiveSequence.distance number ≤ 0 :=
        Int.not_le.mpr further
      simp only [session_bind, result_bind, modify_apply, late, ↓reduceIte,
        countLost, situation_updateHealth]
      rfl

/--
Behind a good number, a datagram that brings new steps sets both
counters to zero.
-/
theorem fresh_takeEcho
    (synced : session.stage = .synced)
    (heard : session.health.ticksWithoutDatagrams = 0)
    (goesOn : session.inbound.ready.nextId = session.inbound.window.expected)
    (brings :
      (match reader.afterEcho? with
      | none => Delivery.nothing
      | some reader => Delivery.ofCommandOctet reader) =
        .steps report steps)
    (stored : .stored ∈ (session.inbound.window.receiveAll steps).1) :
    ((takeEcho reader >>= takeCommand) session).session.health.Fresh := by
  have echoed := Leaves.takeEcho reader session
  have respects := Respects.heard_takeEcho reader session
  rcases place : reader.afterEcho? with _ | rest
  · rw [place] at brings
    cases brings
  · rw [place] at brings echoed
    rw [(echoed.apply_bind _).1]
    have sameInbound : (takeEcho reader session).session.inbound =
        session.inbound :=
      echoed.inbound
    have stillHeard := respects.datagrams synced heard
    have stillSynced := respects.stays synced
    generalize (takeEcho reader session).session = measured
      at sameInbound stillHeard stillSynced
    have commanded := Respects.heard_takeCommand rest measured
    exact
      ⟨commanded.datagrams stillSynced stillHeard,
        steps_takeCommand (sameInbound ▸ goesOn) brings
          (sameInbound ▸ stored)⟩

/-- Behind the seal, a datagram that brings new steps sets both counters to zero. -/
theorem fresh_checkSequence
    (synced : session.stage = .synced)
    (goesOn : session.inbound.ready.nextId = session.inbound.window.expected)
    (brings :
      (match (reader.afterNumber? session.receiveSequence).bind
          Reader.afterEcho? with
      | none => Delivery.nothing
      | some reader => Delivery.ofCommandOctet reader) =
        .steps report steps)
    (stored : .stored ∈ (session.inbound.window.receiveAll steps).1) :
    ((do
        let reader ← checkSequence reader
        let reader ← takeEcho reader
        takeCommand reader : Action Unit) session).session.health.Fresh := by
  have numbered := Leaves.checkSequence reader session
  have respects := Respects.heard_checkSequence reader session
  rcases place : reader.afterNumber? session.receiveSequence with _ | rest
  · rw [place] at brings
    cases brings
  · have heard := datagrams_checkSequence place
    rw [place] at brings numbered
    rw [(numbered.apply_bind _).1]
    have sameInbound : (checkSequence reader session).session.inbound =
        session.inbound :=
      numbered.inbound
    exact fresh_takeEcho (respects.stays synced) heard
      (sameInbound ▸ goesOn) brings (sameInbound ▸ stored)

/--
Within the connection too, a datagram with new steps sets both counters to zero.
-/
theorem fresh_acceptConnected
    (synced : session.stage = .synced)
    (goesOn : session.inbound.ready.nextId = session.inbound.window.expected)
    {id : UInt8}
    (brings :
      (match (session.afterHeader? id reader).bind Reader.afterEcho? with
      | none => Delivery.nothing
      | some reader => Delivery.ofCommandOctet reader) =
        .steps report steps)
    (stored : .stored ∈ (session.inbound.window.receiveAll steps).1) :
    (acceptConnected id reader session).session.health.Fresh := by
  unfold afterHeader? at brings
  unfold acceptConnected
  rw [current_bind]
  have present : session.stage ≠ .disconnected := by
    rw [synced]
    decide
  rcases connected : session.connection with _ | connection
  · rw [connected] at brings
    cases brings
  · rw [connected] at brings
    by_cases foreign : connection.id ≠ id
    · dsimp only at brings
      rw [if_pos (.inl foreign)] at brings
      cases brings
    · simp only [foreign, present, or_self, ↓reduceIte] at brings ⊢
      obtain ⟨keeps, finds⟩ := checkSeal_spec connection.secret reader session
      have sealed :
          Leaves (checkSeal connection.secret reader session)
            session.situation (reader.afterSeal? connection.secret) :=
        ⟨congrArg situation keeps, finds⟩
      rcases place : reader.afterSeal? connection.secret with _ | rest
      · rw [place] at brings
        cases brings
      · rw [place] at brings sealed
        rw [(sealed.apply_bind _).1, keeps]
        exact fresh_checkSequence synced goesOn brings stored

end

end Action

/--
A datagram that brings new steps to a synced session sets both counters to zero.
-/
theorem fresh_receive
    {session : Session}
    (synced : session.stage = .synced)
    (goesOn : session.inbound.ready.nextId = session.inbound.window.expected)
    {datagram : Octets}
    (stores : session.stores datagram = true) :
    (session.receive datagram).session.health.Fresh := by
  unfold Session.stores at stores
  have accepted :
      (Action.acceptDatagram datagram
        (session.countArrival datagram)).session.health.Fresh := by
    rcases brings : session.delivery datagram with
      _ | _ | _ | _ | _ | _ | _ | ⟨report, steps⟩
    all_goals rw [brings] at stores
    case steps =>
      have stored := List.contains_iff_mem.mp stores
      unfold delivery at brings
      unfold Action.acceptDatagram
      split at brings
      · cases brings
      · rename_i long
        rw [if_neg long]
        rcases named : Decoder.octet (Reader.ofOctets datagram) with
          ⟨failure | id, reader⟩
        · rw [named] at brings
          cases brings
        · rw [named] at brings
          rw [Action.decoded_bind_ok named]
          dsimp only at brings ⊢
          split at brings
          · rcases ofOutOfBand_cases reader with
              nothing | ⟨response, connection⟩
            · rw [nothing] at brings
              cases brings
            · rw [connection] at brings
              cases brings
          · rename_i inBand
            rw [if_neg inBand]
            have counted : (session.countArrival datagram).stage = .synced :=
              synced
            exact Action.fresh_acceptConnected counted goesOn brings stored
    all_goals cases stores
  unfold receive
  dsimp only
  split <;> exact accepted

/-! ## Sending -/

/-- The beginning of a tick moves the clock, and is not heard. -/
theorem health_beginTick (now : Nat) (session : Session) :
    (Action.beginTick now session).session.health = session.health := by
  obtain ⟨_, begun⟩ := session_beginTick now session
  rw [begun]

/-- Only starting over touches the link. -/
theorem health_ask
    (session : Session)
    {request : Request}
    (other : request ≠ .reset) :
    (session.ask request).2.health = session.health :=
  field_ask Session.health session other

/--
Judging the link lets a tick of it pass, and gives it up if that is the verdict.
-/
theorem judgeLink_of_synced
    {session : Session}
    (synced : session.stage = .synced) :
    (Action.judgeLink session).result =
        .ok (!session.health.tick.1.isGivenUp) ∧
      (Action.judgeLink session).session.health = session.health.tick.1 := by
  have updated :
      (Action.updateHealth Health.tick session).session.health =
        session.health.tick.1 :=
    rfl
  have succeeds := (Action.situation_updateHealth Health.tick session).2
  simp only [Action.judgeLink, Action.session_bind, Action.result_bind,
    Action.current_apply, synced, ↓reduceIte, succeeds, updated]
  cases givenUp : session.health.tick.1.isGivenUp with
  | true =>
      simp [Action.session_bind, Action.result_bind, updated]
  | false => simp [updated]

/--
At the end of a tick one tick of a synced session's link passes; the session
goes on unless that is given up.
-/
theorem health_endTick
    {session : Session}
    (synced : session.stage = .synced)
    (now : Nat)
    (refusal : Option String) :
    (session.endTick now refusal).outcome.session.health =
        session.health.tick.1 ∧
      (session.endTick now refusal).outcome.session.stage =
        if session.health.tick.1.isGivenUp then .disconnected else .synced := by
  obtain ⟨result, health⟩ := judgeLink_of_synced synced
  refine ⟨(field_endTick Session.health session now refusal).trans health, ?_⟩
  rcases Action.judgeLink_spec session with
    ⟨succeeds, same⟩ | ⟨givenUp, _, disconnected⟩
  · have kept : session.health.tick.1.isGivenUp = false := by
      rw [succeeds] at result
      simpa using result
    have sends :
        session.situation.Sends
          (Action.prepareSending now session).session.situation := by
      rw [Action.prepareSending, Action.session_bind, succeeds, ← same]
      exact Action.Sends.afterJudging now _
    have stays : (Action.prepareSending now session).session.stage =
        .synced :=
      sends.stage.trans synced
    rw [kept]
    unfold endTick
    dsimp only
    split
    · exact stays
    · exact stays
    · exact (Action.Sends.concludeSending _ _ _).stage.trans stays
  · have given : session.health.tick.1.isGivenUp = true := by
      rw [givenUp] at result
      simpa using result
    rw [(endTick_of_givenUp givenUp now refusal).2, given]
    exact congrArg Situation.stage disconnected

end StepSync.Session
