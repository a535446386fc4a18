import StepSync.Proofs.Session.DueMessage
import StepSync.Proofs.Session.Run

namespace StepSync

/-!
# Composing a datagram

A datagram is begun with its header, the message that is due is added, and a seal is
filled in within a connection.  None of this fails as long as the situation is
composable, and the datagram is `Session.datagramOf` the message
(`Session.Action.gives_composed`).
-/

namespace Session

/-- The octets of a datagram: sealed within a connection, and bare outside. -/
def framed : Option Connection → Octets → Octets
  | none, covered => noConnectionId :: covered
  | some connection, covered =>
      sealedDatagram connection.id connection.secret covered

/-- What a seal covers: the number, the low bits of the time, and the message. -/
def covered (number : UInt16) (now : Nat) (message : Octets) : Octets :=
  Octets.ofWord16 number ++ (Octets.ofWord16 (lowerBits now) ++ message)

/-- The datagram in which the session says something. -/
def datagramOf (session : Session) (message : ClientMessage) : Octets :=
  framed session.connection
    (covered session.sendSequence.next session.now message.octets)

/-- A connection, if there is one, has an id that the server may assign. -/
def Named (connection : Option Connection) : Prop :=
  ∀ assigned ∈ connection, assigned.id ≠ noConnectionId

theorem named_of_coherent
    {session : Session}
    (coherent : session.situation.Coherent)
    (present : session.stage ≠ .disconnected) :
    Named session.connection := by
  have unconnected (unassigned : session.connection = none) :
      Named session.connection := by
    rw [unassigned]
    exact fun assigned member => by cases member
  have connected (has : session.situation.HasConnection) :
      Named session.connection := by
    obtain ⟨connection, found, named⟩ := has
    intro assigned member
    obtain rfl := Option.some.inj (found.symm.trans member)
    exact named
  have atStage := coherent.atStage
  cases stage : session.stage with
  | disconnected => exact absurd stage present
  | idle =>
      rw [show session.situation.stage = _ from stage] at atStage
      exact unconnected atStage.1
  | requestingConnect =>
      rw [show session.situation.stage = _ from stage] at atStage
      exact unconnected atStage.1
  | connected =>
      rw [show session.situation.stage = _ from stage] at atStage
      exact connected atStage.1
  | requestingState =>
      rw [show session.situation.stage = _ from stage] at atStage
      exact connected atStage.1
  | downloadingState =>
      rw [show session.situation.stage = _ from stage] at atStage
      exact connected atStage.1
  | synced =>
      rw [show session.situation.stage = _ from stage] at atStage
      exact connected atStage.1

/-- The octets in front of those that a seal covers, before it is filled in. -/
def blank : Option Connection → Octets
  | none => [noConnectionId]
  | some connection => [connection.id] ++ Octets.ofWord32 0

theorem length_blank_le (connection : Option Connection) :
    (blank connection).length ≤ 5 := by
  cases connection <;> simp [blank]

theorem length_framed (connection : Option Connection) (covered : Octets) :
    (framed connection covered).length =
      (blank connection).length + covered.length := by
  cases connection with
  | none => simp [framed, blank, Nat.add_comm]
  | some connection =>
      simp [framed, blank, sealedDatagram]
      omega

theorem length_covered (number : UInt16) (now : Nat) (message : Octets) :
    (covered number now message).length = 4 + message.length := by
  simp [covered]
  omega

/-- Who knows the frame of a datagram finds the message in it. -/
theorem ofDatagram?_framed
    {connection : Option Connection}
    (named : Named connection)
    {message : ClientMessage}
    (writable : message.Writable)
    (number : UInt16)
    (now : Nat) :
    ClientMessage.ofDatagram?
        (framed connection (covered number now message.octets)) =
      some message := by
  have reads := ClientMessage.reads_octets writable 0 []
  rw [List.append_nil] at reads
  have behind :
      (covered number now message.octets).drop 4 = message.octets := by
    simp [covered, ← List.append_assoc]
  cases connection with
  | none =>
      simp only [framed, ClientMessage.ofDatagram?, ↓reduceIte, behind,
        Reader.ofOctets, reads]
  | some connection =>
      have assigned := named connection rfl
      have sealed :
          (Octets.ofWord32
              (Seal.make connection.secret
                (covered number now message.octets)) ++
            covered number now message.octets).drop 8 = message.octets := by
        rw [List.drop_append, List.drop_of_length_le (by simp),
          Octets.length_ofWord32]
        exact behind
      simp only [framed, sealedDatagram, ClientMessage.ofDatagram?, assigned,
        ↓reduceIte, sealed, Reader.ofOctets, reads]

/-- The session with another time to wait. -/
def waiting (session : Session) (ticks : Nat) : Session :=
  { session with waitTicks := ticks }

/-- How long to wait once the message that is due is composed. -/
def dueWait (session : Session) : Nat :=
  match session.stage with
  | .requestingConnect => handshakeWait
  | .requestingState =>
      match session.progress with
      | .joining =>
          session.joinRequest.elim session.waitTicks fun _ => handshakeWait
      | .joined => handshakeWait
      | .outOfSlots => session.waitTicks
  | .downloadingState => 0
  | .idle | .connected | .synced | .disconnected => session.waitTicks

/-- The session once the message that is due is composed. -/
def composed (session : Session) : Session :=
  { session with
    waitTicks := session.dueWait
    outbound :=
      if session.stage = .synced then composedRun session.outbound
      else session.outbound }

theorem composed_of_unsynced
    {session : Session}
    (unsynced : session.stage ≠ .synced) :
    session.composed = session.waiting session.dueWait := by
  rw [composed, if_neg unsynced]
  rfl

theorem composed_of_synced
    {session : Session}
    (synced : session.stage = .synced) :
    session.composed =
      { session with outbound := composedRun session.outbound } := by
  rw [composed, if_pos synced, dueWait, synced]

/-- Composing leaves the predicted steps. -/
theorem predicted_composed (session : Session) :
    session.composed.outbound.predicted = session.outbound.predicted := by
  unfold composed
  dsimp only
  split <;> rfl

namespace Action

variable {session : Session}

theorem flatten_headerFields (named : Named session.connection) :
    session.headerFields.flatten =
      blank session.connection ++
        covered session.sendSequence.next session.now [] := by
  cases connected : session.connection with
  | none =>
      simp [headerFields, seals, senderId, connected, blank, covered,
        SendSequence.fields]
  | some connection =>
      have assigned := named connection connected
      simp [headerFields, seals, senderId, connected, assigned, blank,
        covered, SendSequence.fields]

/--
A datagram in which nothing is written but its header, and some
octets of a message.
-/
def draftWith (session : Session) (written : Octets) : Draft :=
  ⟨⟨blank session.connection ++
      covered session.sendSequence.next session.now written,
      mostDatagramOctets⟩,
    (blank session.connection).length + 4⟩

theorem gives_header (named : Named session.connection) :
    Gives beginDatagram session session (draftWith session []) := by
  have header := flatten_headerFields named
  have short := length_blank_le session.connection
  have fits :
      (Writer.ofCapacity mostDatagramOctets).octets.length +
          session.headerFields.flatten.length ≤
        (Writer.ofCapacity mostDatagramOctets).capacity := by
    rw [header, List.length_append, length_covered]
    simp only [Writer.ofCapacity, List.length_nil, mostDatagramOctets]
    omega
  refine .current (.bind (.written fits) ?_)
  rw [header]
  have position :
      (blank session.connection ++
        covered session.sendSequence.next session.now []).length =
          (blank session.connection).length + 4 := by
    rw [List.length_append, length_covered, List.length_nil]
  exact ⟨rfl, by simp [Writer.position, Writer.ofCapacity, draftWith, position]⟩

/-- A message that is short enough is written behind the header. -/
theorem gives_message
    {message : ClientMessage}
    (short : message.octets.length + 9 ≤ mostDatagramOctets) :
    Gives (addFields (draftWith session []) message.fields) session session
      (draftWith session message.octets) := by
  have room := length_blank_le session.connection
  have fits :
      (draftWith session []).writer.octets.length +
          message.fields.flatten.length ≤
        (draftWith session []).writer.capacity := by
    simp only [draftWith, List.length_append, length_covered,
      List.length_nil]
    rw [← ClientMessage.octets]
    omega
  have gives :
      Gives (addFields (draftWith session []) message.fields) session session
        _ :=
    .addFields fits
  simp only [draftWith, covered, List.append_assoc, List.nil_append] at gives
  exact gives

/-- A datagram in which nothing was said is not offered. -/
theorem gives_nothing (session : Session) :
    Gives (finishDatagram (draftWith session [])) session session none := by
  have short :
      (draftWith session []).writer.position ≤
        (draftWith session []).headerOctets := by
    simp [draftWith, Writer.position, length_covered]
  refine .current ?_
  rw [if_pos short]
  exact .pure _

/--
A datagram in which something was said is finished in the frame of
its connection.
-/
theorem gives_framed
    (named : Named session.connection)
    {written : Octets}
    (notEmpty : written ≠ []) :
    Gives (finishDatagram (draftWith session written)) session session
      (some (framed session.connection
        (covered session.sendSequence.next session.now written))) := by
  have longer : 0 < written.length := List.length_pos_iff.mpr notEmpty
  cases connected : session.connection with
  | none =>
      have position :
          ¬(draftWith session written).writer.position ≤
            (draftWith session written).headerOctets := by
        simp only [draftWith, Writer.position, List.length_append,
          length_covered]
        omega
      refine .current ?_
      rw [if_neg position, connected]
      simp only [draftWith, connected]
      exact .pure _
  | some connection =>
      have assigned := named connection connected
      have gives :=
        gives_finishDatagram session connected assigned
          (covered session.sendSequence.next session.now written)
          (by rw [length_covered]; omega)
      simp only [draftWith, connected]
      exact gives

/-- What was said, if anything was, is finished into a datagram. -/
theorem gives_said
    (named : Named session.connection)
    (message? : Option ClientMessage) :
    Gives
      (finishDatagram
        (draftWith session (message?.elim [] ClientMessage.octets)))
      session session (message?.map session.datagramOf) := by
  cases message? with
  | none => exact gives_nothing session
  | some message => exact gives_framed named message.octets_ne_nil

/-- A request is added, and some ticks pass before the next one. -/
theorem gives_request
    {message : ClientMessage}
    (short : message.octets.length + 9 ≤ mostDatagramOctets) :
    Gives (addRequest (draftWith session []) message.fields) session
      (session.waiting handshakeWait)
      (draftWith session message.octets) :=
  .bind (gives_message short) (.bind ⟨rfl, rfl⟩ (.pure _))

theorem gives_unsaid (session : Session) :
    Gives (Pure.pure (draftWith session [])) session
      (session.waiting session.waitTicks) (draftWith session []) :=
  .pure _

/-- While a snapshot is wanted, the local players join first. -/
theorem gives_addJoiningMessage
    (requesting : session.stage = .requestingState)
    (short : ∀ message, session.situation.dueMessage? = some message →
      message.octets.length + 9 ≤ mostDatagramOctets) :
    Gives (addJoiningMessage (draftWith session [])) session
      (session.waiting session.dueWait)
      (draftWith session
        (session.situation.dueMessage?.elim [] ClientMessage.octets)) := by
  refine .current ?_
  cases progress : session.progress with
  | outOfSlots =>
      simp only [progress, requesting, Situation.dueMessage?, situation,
        Option.elim_none, dueWait]
      exact gives_unsaid session
  | joined =>
      have due :
          session.situation.dueMessage? =
            some (.requestState ⟨session.requestId⟩) := by
        simp only [Situation.dueMessage?, situation, requesting, progress]
      simp only [progress, due, Option.elim_some, dueWait, requesting]
      exact .bind ⟨rfl, rfl⟩ (gives_request (short _ due))
  | joining =>
      cases requested : session.joinRequest with
      | none =>
          simp only [progress, requested, requesting, Situation.dueMessage?,
            situation, Option.map_none, Option.elim_none, dueWait]
          exact .bind ⟨rfl, rfl⟩ (gives_unsaid session)
      | some request =>
          have due :
              session.situation.dueMessage? = some (.join request) := by
            simp only [Situation.dueMessage?, situation, requesting, progress,
              requested, Option.map_some]
          simp only [progress, requested, due, Option.elim_some, dueWait,
            requesting]
          exact gives_request (short _ due)

/-- Before the game, what is added is the message that is due, if one is. -/
theorem gives_addControlMessage
    (composable : session.situation.Composable)
    (isControl :
      session.stage = .requestingConnect ∨
        session.stage = .requestingState ∨
        session.stage = .downloadingState) :
    Gives (addControlMessage (draftWith session [])) session
      (session.waiting session.dueWait)
      (draftWith session
        (session.situation.dueMessage?.elim [] ClientMessage.octets)) := by
  have short (message : ClientMessage)
      (due : session.situation.dueMessage? = some message) :
      message.octets.length + 9 ≤ mostDatagramOctets :=
    (composable.fits due).2
  refine .current ?_
  rcases isControl with stage | stage | stage
  · have due :
        session.situation.dueMessage? =
          some (.connect session.connectRequest) := by
      simp only [Situation.dueMessage?, situation, stage]
      rfl
    simp only [stage, due, Option.elim_some, dueWait]
    exact .bind ⟨rfl, rfl⟩ (gives_request (short _ due))
  · have gives := gives_addJoiningMessage stage short
    simp only [stage]
    exact gives
  · have wait : session.dueWait = 0 := by
      simp only [dueWait, stage]
    rw [wait]
    simp only [stage]
    cases found : session.download with
    | none =>
        simp only [Situation.dueMessage?, situation, stage, found,
          Option.map_none, Option.elim_none]
        exact .bind (.pure _) (.bind ⟨rfl, rfl⟩ (.pure _))
    | some download =>
        have due :
            session.situation.dueMessage? =
              some (.downloadStatus download.channel
                download.assembly.waitingFor
                download.assembly.laterMask) := by
          simp only [Situation.dueMessage?, situation, stage, found,
            Option.map_some]
        simp only [due, Option.elim_some]
        exact .bind (gives_message (short _ due))
          (.bind ⟨rfl, rfl⟩ (.pure _))

/-- At a stage before the game, the message that is due is composed. -/
theorem gives_composedControl
    (composable : session.situation.Composable)
    (named : Named session.connection)
    (isControl :
      session.stage = .requestingConnect ∨
        session.stage = .requestingState ∨
        session.stage = .downloadingState) :
    Gives compose session (session.waiting session.dueWait)
      (session.situation.dueMessage?.map session.datagramOf) := by
  have gives := gives_addControlMessage composable isControl
  have stillNamed : Named (session.waiting session.dueWait).connection :=
    named
  have said := gives_said stillNamed session.situation.dueMessage?
  have composed :
      Gives
        (do
          let draft ← beginDatagram
          let draft ← addControlMessage draft
          finishDatagram draft)
        session (session.waiting session.dueWait)
        (session.situation.dueMessage?.map session.datagramOf) :=
    .bind (gives_header named) (.bind gives said)
  refine .current ?_
  rcases isControl with stage | stage | stage
  · rw [stage]
    exact composed
  · rw [stage]
    exact composed
  · rw [stage]
    exact composed

/-- At the other stages nothing is composed. -/
theorem gives_composedNothing
    (isQuiet :
      session.stage = .idle ∨ session.stage = .connected ∨
        session.stage = .disconnected) :
    Gives compose session (session.waiting session.dueWait)
      (session.situation.dueMessage?.map session.datagramOf) := by
  have nothing : session.situation.dueMessage? = none :=
    Situation.dueMessage?_of_quiet isQuiet
  rw [nothing, dueWait]
  refine .current ?_
  rcases isQuiet with stage | stage | stage <;> rw [stage] <;> exact .pure _

/-- Before the game, what is composed is the message that is due, if one is. -/
theorem gives_composedUnsynced
    (composable : session.situation.Composable)
    (coherent : session.situation.Coherent)
    (unsynced : session.stage ≠ .synced) :
    Gives compose session (session.waiting session.dueWait)
      (session.situation.dueMessage?.map session.datagramOf) := by
  have named := named_of_coherent coherent
  cases stage : session.stage with
  | synced => exact absurd stage unsynced
  | idle => exact gives_composedNothing (.inl stage)
  | connected => exact gives_composedNothing (.inr (.inl stage))
  | disconnected => exact gives_composedNothing (.inr (.inr stage))
  | requestingConnect =>
      exact gives_composedControl composable
        (named (by rw [stage]; decide)) (.inl stage)
  | requestingState =>
      exact gives_composedControl composable
        (named (by rw [stage]; decide)) (.inr (.inl stage))
  | downloadingState =>
      exact gives_composedControl composable
        (named (by rw [stage]; decide)) (.inr (.inr stage))

/-- The datagram of a synced session says which steps are due. -/
theorem stepDatagram_eq
    (composable : session.situation.Composable)
    {connection : Connection}
    (connected : session.connection = some connection) :
    session.stepDatagram connection =
      session.datagramOf
        (.steps session.inbound.window.expected
          session.inbound.window.laterMask (dueRun session.outbound)) := by
  have message :
      (ClientMessage.steps session.inbound.window.expected
        session.inbound.window.laterMask (dueRun session.outbound)).octets =
      [Command.gameStep.code] ++
        (Octets.ofWord32 session.inbound.window.expected ++
          (Octets.ofWord64 session.inbound.window.laterMask ++
            (StepRun.fields (nextRedundancy session.outbound).cursor
              (nextRun session.outbound)).flatten)) := by
    have run :
        StepRun.number (nextRedundancy session.outbound).cursor
            (nextRun session.outbound) =
          dueRun session.outbound :=
      number_nextRun composable.countsUp
    rw [← run]
    simp [ClientMessage.octets, ClientMessage.fields, Command.fields,
      StepRun.fieldsOf_number]
  rw [datagramOf, message, connected]
  rfl

/-- What a session composes is the message that is due. -/
theorem gives_composed
    (composable : session.situation.Composable)
    (coherent : session.situation.Coherent) :
    Gives compose session session.composed
      (session.situation.dueMessage?.map session.datagramOf) := by
  by_cases synced : session.stage = .synced
  · have atStage := coherent.atStage
    rw [show session.situation.stage = _ from synced] at atStage
    obtain ⟨connection, connected, assigned⟩ := atStage.1
    have gives := gives_compose connected assigned synced
    rw [stepDatagram_eq composable connected] at gives
    have due :
        session.situation.dueMessage? =
          some (.steps session.inbound.window.expected
            session.inbound.window.laterMask
            (dueRun session.outbound)) := by
      simp only [Situation.dueMessage?, situation, synced]
    rw [due, composed_of_synced synced]
    exact gives
  · rw [composed_of_unsynced synced]
    exact gives_composedUnsynced composable coherent synced

end Action

end Session

end StepSync
