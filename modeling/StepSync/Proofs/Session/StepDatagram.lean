import StepSync.Proofs.Message.StepRun
import StepSync.Proofs.Steps.Redundancy
import StepSync.Session.Transmission

namespace StepSync

/-!
# Datagrams with predicted steps

A synced session with a connection always composes a datagram: header,
acknowledgement and run fit together, because the run takes only the room that is
left.  Who reads the datagram finds the steps of the run (`stepsOf_stepDatagram`).
-/

/--
The steps in a datagram, behind its header, its command and its acknowledgement.
-/
def decodeStepDatagram : Decoder (List Step) := do
  let _ ← Decoder.octet
  let _ ← Decoder.word32
  let _ ← Decoder.word16
  let _ ← Decoder.word16
  Decoder.marker Command.gameStep.code
  let _ ← Decoder.word32
  let _ ← Decoder.word64
  StepRun.decode

/-- The steps that a datagram carries; none if it is no step datagram. -/
def stepsOf (datagram : Octets) : List Step :=
  match decodeStepDatagram (Reader.ofOctets datagram) with
  | (.ok steps, _) => steps
  | (.error _, _) => []

namespace Decoder.Reads

theorem marker (expected : UInt8) :
    Reads (Decoder.marker expected) [expected] () := by
  refine (octet expected).bind ?_
  rw [if_pos rfl]
  exact pure ()

end Decoder.Reads

namespace Redundancy

/-- The payloads that fit a budget take no more than it. -/
theorem length_payloadOctets_fitting_le (budget : Nat) (steps : List Step) :
    (StepRun.payloadOctets (fitting budget steps)).length ≤ budget := by
  rw [fitting_eq_take]
  exact room_fitting_le budget steps

/-- No payload of a run is longer than the budget. -/
theorem length_le_of_mem_fitting
    {budget : Nat}
    {steps : List Step}
    {payload : Octets}
    (member : payload ∈ fitting budget steps) :
    payload.length ≤ budget := by
  rw [fitting_eq_take] at member
  obtain ⟨step, among, rfl⟩ := List.mem_map.mp member
  have one := room_le_of_sublist (List.singleton_sublist.mpr among)
  have all := room_fitting_le budget steps
  rw [room_cons, room_nil] at one
  omega

/-- A run has no more steps than a datagram may have. -/
theorem length_run_le
    (redundancy : Redundancy)
    (predicted : StepQueue)
    (room : Nat) :
    (redundancy.run predicted room).length ≤ longestRun := by
  have taken := length_fitting_le (room - runOverhead)
    ((predicted.stepsFrom redundancy.cursor).take longestRun)
  rw [List.length_take] at taken
  exact Nat.le_trans taken (Nat.min_le_left _ _)

end Redundancy

namespace Session

/-- The octets that a step datagram has left for its run. -/
def runRoom : Nat :=
  mostDatagramOctets - 22

/-- The redundancy that the next run is taken with. -/
def nextRedundancy (outbound : Outbound) : Redundancy :=
  outbound.redundancy.skipTo outbound.predicted.readId

/-- The payloads of the next run. -/
def nextRun (outbound : Outbound) : List Octets :=
  (nextRedundancy outbound).run outbound.predicted runRoom

/-- The predicted steps once the next run is composed. -/
def composedRun (outbound : Outbound) : Outbound :=
  { outbound with
    redundancy :=
      { nextRedundancy outbound with
        lastRun := (nextRun outbound).length } }

/-- What the seal of a step datagram covers. -/
def stepBody (session : Session) : Octets :=
  Octets.ofWord16 session.sendSequence.next ++
    (Octets.ofWord16 (lowerBits session.now) ++
      ([Command.gameStep.code] ++
        (Octets.ofWord32 session.inbound.window.expected ++
          (Octets.ofWord64 session.inbound.window.laterMask ++
            (StepRun.fields (nextRedundancy session.outbound).cursor
              (nextRun session.outbound)).flatten))))

/-- The datagram of a synced session. -/
def stepDatagram (session : Session) (connection : Connection) : Octets :=
  [connection.id] ++
    (Octets.ofWord32 (Seal.make connection.secret session.stepBody) ++
      session.stepBody)

/-- The run of the next step datagram fits the room behind its header. -/
theorem length_nextRun_fields_le (outbound : Outbound) :
    (StepRun.fields (nextRedundancy outbound).cursor
      (nextRun outbound)).flatten.length ≤ runRoom := by
  have written := StepRun.length_flatten_fields_le
    (nextRedundancy outbound).cursor (nextRun outbound)
  have fits :
      (StepRun.payloadOctets (nextRun outbound)).length ≤
        runRoom - Redundancy.runOverhead :=
    Redundancy.length_payloadOctets_fitting_le _ _
  exact Nat.le_trans written (Nat.add_le_add_left fits (1 + 4))

/-- The run is written in full into the room that it was taken for. -/
theorem writeRun_eq
    {writer : Writer}
    (room : writer.remaining = runRoom)
    (outbound : Outbound) :
    outbound.writeRun writer =
      (.ok (nextRun outbound).length,
        { writer with
          octets :=
            writer.octets ++
              (StepRun.fields (nextRedundancy outbound).cursor
                (nextRun outbound)).flatten },
        composedRun outbound) := by
  have few := length_nextRun_fields_le outbound
  have fits :
      writer.octets.length +
          (StepRun.fields (nextRedundancy outbound).cursor
            (nextRun outbound)).flatten.length ≤ writer.capacity := by
    have positive : 0 < runRoom := by decide
    unfold Writer.remaining at room
    omega
  have written := Writer.putAll_eq_ok fits
  simp only [nextRun, nextRedundancy] at written
  simp only [Outbound.writeRun, room, written]
  rfl

/-- Who reads a step datagram finds the steps of its run. -/
theorem stepsOf_stepDatagram (session : Session) (connection : Connection) :
    stepsOf (session.stepDatagram connection) =
      StepRun.number (nextRedundancy session.outbound).cursor
        (nextRun session.outbound) := by
  have few :=
    Redundancy.length_run_le (nextRedundancy session.outbound)
      session.outbound.predicted runRoom
  have run :
      StepRun.decode.Reads
        (StepRun.fields (nextRedundancy session.outbound).cursor
          (nextRun session.outbound)).flatten
        (StepRun.number (nextRedundancy session.outbound).cursor
          (nextRun session.outbound)) := by
    apply StepRun.reads_fields
    · exact Nat.lt_of_le_of_lt few (by decide)
    · intro payload member
      have short := Redundancy.length_le_of_mem_fitting member
      exact Nat.lt_of_le_of_lt short (by decide)
  have reads :
      decodeStepDatagram.Reads (session.stepDatagram connection)
        (StepRun.number (nextRedundancy session.outbound).cursor
          (nextRun session.outbound)) := by
    refine (Decoder.Reads.octet _).bind ?_
    refine (Decoder.Reads.word32 _).bind ?_
    refine (Decoder.Reads.word16 _).bind ?_
    refine (Decoder.Reads.word16 _).bind ?_
    refine (Decoder.Reads.marker _).bind ?_
    refine (Decoder.Reads.word32 _).bind ?_
    exact (Decoder.Reads.word64 _).bind run
  have decodes := reads 0 []
  rw [List.append_nil] at decodes
  rw [stepsOf, Reader.ofOctets, decodes]

namespace Action

variable {First Result : Type}

/-- An action succeeds, with a result and a session after it. -/
structure Gives
    (action : Action Result)
    (before after : Session)
    (result : Result) :
    Prop where
  session : (action before).session = after
  result : (action before).result = .ok result

namespace Gives

variable {before middle after : Session}

theorem pure (result : Result) :
    Gives (Pure.pure result) before before result :=
  ⟨rfl, rfl⟩

/--
Two actions in a row give what the second does, if the first gives what
it goes on from.
-/
theorem bind
    {action : Action First}
    {next : First → Action Result}
    {found : First}
    {result : Result}
    (first : Gives action before middle found)
    (second : Gives (next found) middle after result) :
    Gives (action >>= next) before after result := by
  constructor
  · rw [session_bind, first.result, first.session]
    exact second.session
  · rw [result_bind, first.result, first.session]
    exact second.result

theorem current
    {next : Session → Action Result}
    {result : Result}
    (gives : Gives (next before) before after result) :
    Gives (Action.current >>= next) before after result :=
  bind ⟨rfl, rfl⟩ gives

/-- Fields that fit are added. -/
theorem written
    {writer : Writer}
    {pieces : List Octets}
    (fits :
      writer.octets.length + pieces.flatten.length ≤ writer.capacity) :
    Gives (Action.written (writer.putAll pieces)) before before
      ((), { writer with octets := writer.octets ++ pieces.flatten }) := by
  rw [Writer.putAll_eq_ok fits]
  exact pure _

/-- Fields that fit are put at the end of a draft. -/
theorem addFields
    {draft : Draft}
    {fields : List Octets}
    (fits :
      draft.writer.octets.length + fields.flatten.length ≤
        draft.writer.capacity) :
    Gives (Action.addFields draft fields) before before
      { draft with
        writer :=
          { draft.writer with
            octets := draft.writer.octets ++ fields.flatten } } :=
  bind (written fits) (pure _)

end Gives

/-- The header of a connection takes nine octets. -/
theorem gives_beginDatagram
    {session : Session}
    {connection : Connection}
    (connected : session.connection = some connection)
    (named : connection.id ≠ noConnectionId) :
    Gives beginDatagram session session
      ⟨⟨[connection.id] ++ Octets.ofWord32 0 ++
          (Octets.ofWord16 session.sendSequence.next ++
            Octets.ofWord16 (lowerBits session.now)), mostDatagramOctets⟩,
        9⟩ := by
  have header :
      session.headerFields.flatten =
        [connection.id] ++ Octets.ofWord32 0 ++
          (Octets.ofWord16 session.sendSequence.next ++
            Octets.ofWord16 (lowerBits session.now)) := by
    simp [headerFields, seals, senderId, connected, named,
      SendSequence.fields]
  have fits :
      (Writer.ofCapacity mostDatagramOctets).octets.length +
          session.headerFields.flatten.length ≤
        (Writer.ofCapacity mostDatagramOctets).capacity := by
    rw [header]
    simp [Writer.ofCapacity, mostDatagramOctets]
  refine .current (.bind (.written fits) ?_)
  rw [header]
  exact ⟨rfl, by simp [Writer.ofCapacity, Writer.position]⟩

/-- The run is written in the room that header and acknowledgement leave. -/
theorem gives_addSteps
    {session : Session}
    {draft : Draft}
    (header : draft.writer.octets.length = 9)
    (capacity : draft.writer.capacity = mostDatagramOctets) :
    Gives (addSteps draft) session
      { session with outbound := composedRun session.outbound }
      { draft with
        writer :=
          { draft.writer with
            octets :=
              draft.writer.octets ++
                (stepFields session.inbound).flatten ++
                (StepRun.fields (nextRedundancy session.outbound).cursor
                  (nextRun session.outbound)).flatten } } := by
  have acknowledged : (stepFields session.inbound).flatten.length = 13 := by
    simp [stepFields, Command.fields, ReceiveWindow.ackFields]
  have fits :
      draft.writer.octets.length +
          (stepFields session.inbound).flatten.length ≤
        draft.writer.capacity := by
    rw [header, acknowledged, capacity]
    decide
  refine .current (.bind (.addFields fits) ?_)
  have room :
      Writer.remaining
          { draft.writer with
            octets :=
              draft.writer.octets ++
                (stepFields session.inbound).flatten } = runRoom := by
    simp [Writer.remaining, header, acknowledged, capacity, runRoom]
  rw [writeRun_eq room]
  refine .bind ⟨rfl, rfl⟩ (.bind (.pure _) (.bind ⟨rfl, rfl⟩ ?_))
  exact .pure _

/-- The seal is filled in over the octets left for it. -/
theorem gives_finishDatagram
    (session : Session)
    {connection : Connection}
    (connected : session.connection = some connection)
    (named : connection.id ≠ noConnectionId)
    (body : Octets)
    (notEmpty : 4 < body.length) :
    Gives
      (finishDatagram
        ⟨⟨[connection.id] ++ Octets.ofWord32 0 ++ body, mostDatagramOctets⟩,
          9⟩)
      session session
      (some ([connection.id] ++
        (Octets.ofWord32 (Seal.make connection.secret body) ++ body))) := by
  have longer :
      ¬Writer.position
        ⟨[connection.id] ++ Octets.ofWord32 0 ++ body, mostDatagramOctets⟩ ≤
          9 := by
    simp [Writer.position]
    omega
  have sealed : session.seals = true := by
    simp [seals, senderId, connected, named]
  have covered :
      ([connection.id] ++ Octets.ofWord32 0 ++ body).drop sealedFrom =
        body := by
    simp [sealedFrom]
  have patched :
      Writer.patch
          ⟨[connection.id] ++ Octets.ofWord32 0 ++ body, mostDatagramOctets⟩ 1
          (Seal.make connection.secret body) =
        .ok ⟨[connection.id] ++
          Octets.ofWord32 (Seal.make connection.secret body) ++ body,
          mostDatagramOctets⟩ :=
    Writer.patch_append [connection.id] (Octets.ofWord32 0) body
      mostDatagramOctets (Seal.make connection.secret body) (by simp)
  refine .current ?_
  rw [if_neg longer, connected]
  dsimp only
  rw [if_pos sealed, covered, patched, List.append_assoc]
  exact .pure _

/-- A synced session with a connection always composes its datagram. -/
theorem gives_compose
    {session : Session}
    {connection : Connection}
    (connected : session.connection = some connection)
    (named : connection.id ≠ noConnectionId)
    (synced : session.stage = .synced) :
    Gives compose session
      { session with outbound := composedRun session.outbound }
      (some (session.stepDatagram connection)) := by
  have body :
      [connection.id] ++ Octets.ofWord32 0 ++
            (Octets.ofWord16 session.sendSequence.next ++
              Octets.ofWord16 (lowerBits session.now)) ++
          (stepFields session.inbound).flatten ++
        (StepRun.fields (nextRedundancy session.outbound).cursor
          (nextRun session.outbound)).flatten =
      [connection.id] ++ Octets.ofWord32 0 ++ session.stepBody := by
    simp [stepBody, stepFields, Command.fields, ReceiveWindow.ackFields,
      List.append_assoc]
  have notEmpty : 4 < session.stepBody.length := by
    simp [stepBody]
    omega
  have gives :
      Gives
        (do
          let draft ← beginDatagram
          let draft ← addSteps draft
          finishDatagram draft)
        session { session with outbound := composedRun session.outbound }
        (some (session.stepDatagram connection)) := by
    refine .bind (gives_beginDatagram connected named) ?_
    refine .bind (gives_addSteps (by simp) rfl) ?_
    dsimp only
    rw [body]
    exact
      gives_finishDatagram
        { session with outbound := composedRun session.outbound } connected
        named session.stepBody notEmpty
  have shape :
      compose session =
        (do
          let draft ← beginDatagram
          let draft ← addSteps draft
          finishDatagram draft) session := by
    rw [compose, current_bind, synced]
  exact
    ⟨(congrArg Outcome.session shape).trans gives.session,
      (congrArg Outcome.result shape).trans gives.result⟩

end Action

end Session

end StepSync
