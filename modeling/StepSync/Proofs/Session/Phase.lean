import StepSync.Proofs.Session.Lifecycle

namespace StepSync

/-!
# Phases of a session

What a session asks the server for depends on its stage, and while it asks for the
game also on how far joining has come.  Both together are its phase.  Unless the
session is reset, phases are entered in one order only (`Situation.Proceeds`).  In
a phase in which a request is repeated, no datagram and no call changes the time
to wait; what changes it enters a later phase.
-/

/-- How far a session has come. -/
inductive Phase where
  | idle
  | connecting
  | connected
  | joining
  | fetching
  | outOfSlots
  | downloading
  | playing
  | disconnected
  deriving Repr, DecidableEq

namespace Phase

/-- The place of a phase in the order in which they are entered. -/
def rank : Phase → Nat
  | idle => 0
  | connecting => 1
  | connected => 2
  | joining => 3
  | fetching => 4
  | outOfSlots => 5
  | downloading => 6
  | playing => 7
  | disconnected => 8

theorem eq_of_rank {first second : Phase} (same : first.rank = second.rank) :
    first = second := by
  cases first <;> cases second <;> first | rfl | cases same

/--
The phase of a stage; only while the game is asked for, it depends
on the joining.
-/
def ofStage : Stage → JoinProgress → Phase
  | .idle, _ => idle
  | .requestingConnect, _ => connecting
  | .connected, _ => connected
  | .requestingState, .joining => joining
  | .requestingState, .joined => fetching
  | .requestingState, .outOfSlots => outOfSlots
  | .downloadingState, _ => downloading
  | .synced, _ => playing
  | .disconnected, _ => disconnected

/-- The command of the message that a phase calls for. -/
def command? : Phase → Option Command
  | connecting => some .connectRequest
  | joining => some .joinGameRequest
  | fetching => some .downloadGameStateRequest
  | downloading => some .downloadGameStateStatus
  | playing => some .gameStep
  | idle | connected | outOfSlots | disconnected => none

/-- A request is repeated until it is answered. -/
def Repeats (phase : Phase) : Prop :=
  phase = connecting ∨ phase = joining ∨ phase = fetching

instance (phase : Phase) : Decidable phase.Repeats := by
  unfold Repeats
  infer_instance

/-- The stages in which a request is repeated. -/
theorem stage_of_repeats
    {stage : Stage}
    {progress : JoinProgress}
    (repeats : (ofStage stage progress).Repeats) :
    stage = .requestingConnect ∨
      stage = .requestingState ∧ progress = .joining ∨
      stage = .requestingState ∧ progress = .joined := by
  cases stage <;> cases progress <;> simp_all [ofStage, Repeats]

/-- No two phases call for the same message. -/
theorem eq_of_command?
    {first second : Phase}
    {command : Command}
    (fromFirst : first.command? = some command)
    (fromSecond : second.command? = some command) :
    first = second := by
  cases first <;> cases fromFirst <;> cases second <;>
    first | rfl | cases fromSecond

/--
What follows the request for the game is later than it, however far
the joining is.
-/
theorem rank_lt_ofStage
    {stage : Stage}
    (later : stage = .downloadingState ∨ stage = .synced)
    (before after : JoinProgress) :
    (ofStage .requestingState before).rank < (ofStage stage after).rank := by
  rcases later with rfl | rfl <;> cases before <;> simp [ofStage, rank]

end Phase

namespace Situation

/-- The phase of a situation. -/
def phase (situation : Situation) : Phase :=
  .ofStage situation.stage situation.progress

/-- While steps or parts of a snapshot come in, no tick passes without an answer. -/
def Unwaiting (situation : Situation) : Prop :=
  situation.stage = .downloadingState ∨ situation.stage = .synced →
    situation.waitTicks = 0

/--
A situation goes on without sending: to a later phase, or in the same one, and
then a repeated request is not sent any earlier or later.
-/
structure Proceeds (before after : Situation) : Prop where
  rank : before.phase.rank ≤ after.phase.rank
  waits : after.phase = before.phase → before.phase.Repeats →
    after.waitTicks = before.waitTicks
  asks : before.joinRequest.isSome = true → after.joinRequest.isSome = true
  sendSequence : after.sendSequence = before.sendSequence

namespace Proceeds

variable {first second third : Situation}

theorem trans
    (earlier : Proceeds first second)
    (later : Proceeds second third) :
    Proceeds first third where
  rank := Nat.le_trans earlier.rank later.rank
  waits := by
    intro same repeats
    have between : second.phase = first.phase := by
      apply Phase.eq_of_rank
      have rank := earlier.rank
      have rankLater := later.rank
      rw [same] at rankLater
      omega
    rw [later.waits (same.trans between.symm) (between ▸ repeats),
      earlier.waits between repeats]
  asks := later.asks ∘ earlier.asks
  sendSequence := later.sendSequence.trans earlier.sendSequence

/-- What neither the phase nor the waiting depends on may change. -/
theorem of_same
    (stage : second.stage = first.stage)
    (progress : second.progress = first.progress)
    (waits : second.waitTicks = first.waitTicks)
    (asks : first.joinRequest.isSome = true →
      second.joinRequest.isSome = true)
    (sendSequence : second.sendSequence = first.sendSequence) :
    Proceeds first second := by
  have same : second.phase = first.phase := by
    rw [phase, phase, stage, progress]
  exact ⟨Nat.le_of_eq (congrArg Phase.rank same.symm), fun _ _ => waits,
    asks, sendSequence⟩

theorem refl (situation : Situation) : Proceeds situation situation :=
  of_same rfl rfl rfl id rfl

/-- In a later phase the time to wait is another one. -/
theorem of_later
    (rank : first.phase.rank < second.phase.rank)
    (asks : first.joinRequest.isSome = true →
      second.joinRequest.isSome = true)
    (sendSequence : second.sendSequence = first.sendSequence) :
    Proceeds first second where
  rank := Nat.le_of_lt rank
  waits := by
    intro same
    rw [same] at rank
    exact absurd rank (Nat.lt_irrefl _)
  asks := asks
  sendSequence := sendSequence

/-- Where nothing is repeated, the time to wait does not matter. -/
theorem of_unrepeated
    (rank : first.phase.rank ≤ second.phase.rank)
    (unrepeated : ¬first.phase.Repeats)
    (asks : first.joinRequest.isSome = true →
      second.joinRequest.isSome = true)
    (sendSequence : second.sendSequence = first.sendSequence) :
    Proceeds first second :=
  ⟨rank, fun _ repeats => absurd repeats unrepeated, asks, sendSequence⟩

end Proceeds

variable {situation : Situation}

/-- The server's answer to the request to connect ends that phase. -/
theorem proceeds_acceptConnection (response : ConnectResponse) :
    situation.Proceeds (situation.acceptConnection response) := by
  unfold acceptConnection
  split
  case isTrue answers =>
    refine .of_later ?_ id rfl
    rw [phase, answers.1]
    exact Nat.lt_succ_self _
  case isFalse => exact .refl _

/--
Once there is a connection, the answer to the request to join ends that phase.
-/
theorem proceeds_acceptMembership
    (coherent : situation.Coherent)
    (connected : situation.connection.isSome = true)
    (present : situation.stage ≠ .disconnected)
    (response : JoinResponse) :
    situation.Proceeds (situation.acceptMembership response) := by
  unfold acceptMembership
  split
  case isTrue answers =>
    obtain stage | stage | stage | stage :=
      coherent.stage_of_connection connected present
    · refine .of_unrepeated ?_ ?_ id rfl
      · simp [phase, Phase.ofStage, stage]
      · simp [phase, Phase.ofStage, stage, Phase.Repeats]
    · refine .of_later ?_ id rfl
      simp [phase, Phase.ofStage, stage, answers.1, Phase.rank]
    · refine .of_unrepeated ?_ ?_ id rfl
      · simp [phase, Phase.ofStage, stage]
      · simp [phase, Phase.ofStage, stage, Phase.Repeats]
    · refine .of_unrepeated ?_ ?_ id rfl
      · simp [phase, Phase.ofStage, stage]
      · simp [phase, Phase.ofStage, stage, Phase.Repeats]
  case isFalse => exact .refl _

/-- Without a free slot nothing is asked for any more. -/
theorem proceeds_outOfSlots (situation : Situation) :
    situation.Proceeds { situation with progress := .outOfSlots } where
  rank := by
    unfold phase
    cases situation.stage <;> cases situation.progress <;>
      simp [Phase.ofStage, Phase.rank]
  waits := fun _ _ => rfl
  asks := id
  sendSequence := rfl

theorem stage_finishDownload (situation : Situation) :
    situation.finishDownload.stage = situation.stage ∨
      situation.finishDownload.stage = .synced := by
  unfold finishDownload
  split
  · exact .inl rfl
  · split
    · exact .inl rfl
    · exact .inr rfl

theorem rank_lt_of_requesting
    {after : Situation}
    (requesting : situation.stage = .requestingState)
    (later : after.stage = .downloadingState ∨ after.stage = .synced) :
    situation.phase.rank < after.phase.rank := by
  rw [phase, phase, requesting]
  exact Phase.rank_lt_ofStage later _ _

/-- The announcement that was awaited begins the download, or ends it at once. -/
theorem proceeds_acceptDownload (response : DownloadResponse) :
    situation.Proceeds (situation.acceptDownload response) := by
  unfold acceptDownload
  split
  case isTrue awaits =>
    have later :=
      stage_finishDownload (situation.startDownload response)
    refine .of_later (rank_lt_of_requesting awaits.2.1 later) ?_ ?_
    · rw [finishDownload_frame]
      exact id
    · rw [finishDownload_frame]
      rfl
  case isFalse => exact .refl _

/-- A part of a snapshot ends the download, or leaves the stage. -/
theorem stage_acceptPart
    (situation : Situation)
    (channel : UInt16)
    (chunk : Chunk) :
    (situation.acceptPart channel chunk).stage = situation.stage ∨
      (situation.acceptPart channel chunk).stage = .synced := by
  unfold acceptPart
  split
  · exact .inl rfl
  · split
    · exact .inl rfl
    · split
      · exact .inl rfl
      · exact stage_finishDownload _

/-- No part of a snapshot is for a session that has no download yet. -/
theorem acceptPart_of_noDownload
    (noDownload : situation.download = none)
    (channel : UInt16)
    (chunk : Chunk) :
    situation.acceptPart channel chunk = situation := by
  rw [acceptPart, noDownload]

theorem proceeds_acceptPart
    (coherent : situation.Coherent)
    (connected : situation.connection.isSome = true)
    (present : situation.stage ≠ .disconnected)
    (channel : UInt16)
    (chunk : Chunk) :
    situation.Proceeds (situation.acceptPart channel chunk) := by
  have atStage := coherent.atStage
  have frame := situation.accept_frame (.part channel chunk)
  have asks : situation.joinRequest.isSome = true →
      (situation.accept (.part channel chunk)).joinRequest.isSome = true := by
    rw [frame]
    exact id
  have sendSequence :
      (situation.accept (.part channel chunk)).sendSequence =
        situation.sendSequence := by
    rw [frame]
  have stageAfter := situation.stage_acceptPart channel chunk
  obtain stage | stage | stage | stage :=
    coherent.stage_of_connection connected present
  · rw [stage] at atStage
    rw [acceptPart_of_noDownload atStage.2.1]
    exact .refl _
  · rw [stage] at atStage
    rw [acceptPart_of_noDownload atStage.2.1]
    exact .refl _
  · rw [stage] at stageAfter
    refine .of_unrepeated ?_ ?_ asks sendSequence
    · rcases stageAfter with after | after <;>
        simp [phase, stage, after, Phase.ofStage, Phase.rank]
    · simp [phase, Phase.ofStage, stage, Phase.Repeats]
  · rw [stage, or_self] at stageAfter
    refine .of_unrepeated ?_ ?_ asks sendSequence
    · simp [phase, stage, stageAfter, Phase.ofStage]
    · simp [phase, Phase.ofStage, stage, Phase.Repeats]

/-- Whatever is delivered within a connection, a session goes on. -/
theorem proceeds_accept
    (coherent : situation.Coherent)
    (connected : situation.connection.isSome = true)
    (present : situation.stage ≠ .disconnected)
    (delivery : Delivery) :
    situation.Proceeds (situation.accept delivery) := by
  cases delivery with
  | nothing => exact .refl _
  | connection response => exact proceeds_acceptConnection response
  | membership response =>
      exact proceeds_acceptMembership coherent connected present response
  | outOfSlots => exact proceeds_outOfSlots situation
  | download response => exact proceeds_acceptDownload response
  | part channel chunk =>
      exact proceeds_acceptPart coherent connected present channel chunk
  | report report => exact .of_same rfl rfl rfl id rfl
  | steps report steps => exact .of_same rfl rfl rfl id rfl

/-- Whatever the application asks for, a session goes on, unless it is reset. -/
theorem proceeds_ask
    (situation : Situation)
    {request : Session.Request}
    (noReset : request ≠ .reset) :
    situation.Proceeds (situation.ask request) := by
  cases request with
  | requestConnect =>
      simp only [ask]
      split
      case isTrue idle =>
        refine .of_later ?_ id rfl
        rw [phase, idle]
        exact Nat.lt_succ_self _
      case isFalse => exact .refl _
  | beginJoin =>
      simp only [ask]
      split
      case isTrue connected =>
        refine .of_later ?_ id rfl
        rw [phase, connected]
        exact Nat.lt_succ_self _
      case isFalse => exact .refl _
  | assignJoinRequest request =>
      exact .of_same rfl rfl rfl (fun _ => rfl) rfl
  | predict payload =>
      rw [ask, predict_frame]
      exact .of_same rfl rfl rfl id rfl
  | readStep =>
      rw [ask, readStep_frame]
      exact .of_same rfl rfl rfl id rfl
  | disconnect =>
      refine ⟨?_, fun _ _ => rfl, id, rfl⟩
      unfold phase
      cases situation.stage <;> cases situation.progress <;>
        simp [ask, Phase.ofStage, Phase.rank]
  | reset => exact absurd rfl noReset

theorem Unwaiting.finishDownload (unwaiting : situation.Unwaiting) :
    situation.finishDownload.Unwaiting := by
  unfold Situation.finishDownload
  split
  · exact unwaiting
  · split
    · exact unwaiting
    · exact fun _ => rfl

/--
What enters the download or the game ends the waiting, and nothing
begins it there.
-/
theorem Unwaiting.accept
    (unwaiting : situation.Unwaiting)
    (delivery : Delivery) :
    (situation.accept delivery).Unwaiting := by
  cases delivery with
  | nothing => exact unwaiting
  | outOfSlots => exact unwaiting
  | report report => exact unwaiting
  | steps report steps => exact unwaiting
  | connection response =>
      simp only [Situation.accept, acceptConnection]
      split
      · exact fun _ => rfl
      · exact unwaiting
  | membership response =>
      simp only [Situation.accept, acceptMembership]
      split
      · exact fun _ => rfl
      · exact unwaiting
  | download response =>
      simp only [Situation.accept, acceptDownload]
      split
      · have started : (situation.startDownload response).Unwaiting :=
          fun _ => rfl
        exact started.finishDownload
      · exact unwaiting
  | part channel chunk =>
      simp only [Situation.accept, acceptPart]
      split
      · exact unwaiting
      · split
        · exact unwaiting
        · split
          · exact unwaiting
          · have stored (download : Option Download) :
                Unwaiting { situation with download := download } :=
              unwaiting
            exact (stored _).finishDownload

theorem Unwaiting.ask
    (unwaiting : situation.Unwaiting)
    (request : Session.Request) :
    (situation.ask request).Unwaiting := by
  cases request with
  | requestConnect =>
      simp only [Situation.ask]
      split
      · exact fun _ => rfl
      · exact unwaiting
  | beginJoin =>
      simp only [Situation.ask]
      split
      · exact fun _ => rfl
      · exact unwaiting
  | assignJoinRequest request => exact unwaiting
  | predict payload =>
      rw [Situation.ask, predict_frame]
      exact unwaiting
  | readStep =>
      rw [Situation.ask, readStep_frame]
      exact unwaiting
  | disconnect => exact fun later => by cases later <;> contradiction
  | reset => exact fun _ => rfl

end Situation

namespace Session

/-- A datagram lets a session go on. -/
theorem proceeds_receive
    {session : Session}
    (coherent : session.situation.Coherent)
    (datagram : Octets) :
    session.situation.Proceeds
      (session.receive datagram).session.situation := by
  rw [situation_receive]
  by_cases closed :
      session.connection = none ∨ session.stage = .disconnected
  · rcases delivery_of_closed closed datagram with
      nothing | ⟨response, connection⟩
    · rw [nothing]
      exact .refl _
    · rw [connection]
      exact Situation.proceeds_acceptConnection response
  · rw [not_or] at closed
    exact Situation.proceeds_accept coherent
      (Option.isSome_iff_ne_none.mpr closed.1) closed.2 _

end Session

end StepSync
