import StepSync.Proofs.Message.ClientMessage
import StepSync.Proofs.Session.Lifecycle
import StepSync.Proofs.Session.StepDatagram
import StepSync.Proofs.Steps.Queue

namespace StepSync

/-!
# The message that is due

Each stage calls for one message or none (`Situation.dueMessage?`).  That the
message fits a datagram, and can be read back, depends on what was stored earlier:
how many players are to join, how many chunks there are, and that predicted steps
count up.  `Situation.Composable` says so, and every event keeps it.
-/

namespace Session

/-- The steps of the next run, as the queue holds them. -/
def dueRun (outbound : Outbound) : List Step :=
  (outbound.predicted.stepsFrom (nextRedundancy outbound).cursor).take
    (nextRun outbound).length

theorem number_nextRun
    {outbound : Outbound}
    (countsUp : outbound.predicted.CountsUp) :
    StepRun.number (nextRedundancy outbound).cursor (nextRun outbound) =
      dueRun outbound :=
  countsUp.number_run (nextRedundancy outbound) runRoom

end Session

namespace Situation

/-- The request that opens the handshake. -/
def connectRequest (situation : Situation) : ConnectRequest where
  protocolVersion := Version.ofProtocol
  applicationVersion := situation.settings.applicationVersion
  flags :=
    if situation.settings.debugStreams then ConnectFlags.debugStreams
    else ConnectFlags.none

/-- The message that the stage calls for, if it calls for one. -/
def dueMessage? (situation : Situation) : Option ClientMessage :=
  match situation.stage with
  | .idle | .connected | .disconnected => none
  | .requestingConnect => some (.connect situation.connectRequest)
  | .requestingState =>
      match situation.progress with
      | .joining => situation.joinRequest.map .join
      | .joined => some (.requestState ⟨situation.requestId⟩)
      | .outOfSlots => none
  | .downloadingState =>
      situation.download.map fun download =>
        .downloadStatus download.channel download.assembly.waitingFor
          download.assembly.laterMask
  | .synced =>
      some (.steps situation.inbound.window.expected
        situation.inbound.window.laterMask
        (Session.dueRun situation.outbound))

/-- Before and after a connection is used nothing is due. -/
theorem dueMessage?_of_quiet
    {situation : Situation}
    (quiet :
      situation.stage = .idle ∨ situation.stage = .connected ∨
        situation.stage = .disconnected) :
    situation.dueMessage? = none := by
  rcases quiet with stage | stage | stage <;> rw [dueMessage?, stage]

/-- Steps are only sent with what the window says of the authoritative ones. -/
theorem acknowledgement_of_due
    {situation : Situation}
    {expected : StepId}
    {laterMask : UInt64}
    {run : List Step}
    (due : situation.dueMessage? = some (.steps expected laterMask run)) :
    expected = situation.inbound.window.expected ∧
      laterMask = situation.inbound.window.laterMask := by
  unfold dueMessage? at due
  cases stage : situation.stage with
  | idle => simp [stage] at due
  | connected => simp [stage] at due
  | disconnected => simp [stage] at due
  | requestingConnect => simp [stage] at due
  | requestingState =>
      cases progress : situation.progress <;> simp [stage, progress] at due
  | downloadingState => simp [stage] at due
  | synced =>
      simp only [stage, Option.some.injEq, ClientMessage.steps.injEq] at due
      exact ⟨due.1.symm, due.2.1.symm⟩

/-- Whatever message is due, it fits the octets it is written in. -/
structure Composable (situation : Situation) : Prop where
  fewPlayers : ∀ request ∈ situation.joinRequest,
    request.localIndices.length ≤ mostLocalParticipants
  fewChunks : ∀ download ∈ situation.download,
    download.assembly.slots.length < UInt32.size
  countsUp : situation.outbound.predicted.CountsUp

namespace Composable

variable {situation : Situation}

/--
The message that is due can be read back, and leaves room for a header
of nine octets.
-/
theorem fits
    (composable : situation.Composable)
    {message : ClientMessage}
    (due : situation.dueMessage? = some message) :
    message.Writable ∧ message.octets.length + 9 ≤ mostDatagramOctets := by
  rw [ClientMessage.length_octets]
  unfold dueMessage? at due
  cases stage : situation.stage with
  | idle => simp [stage] at due
  | connected => simp [stage] at due
  | disconnected => simp [stage] at due
  | requestingConnect =>
      simp only [stage, Option.some.injEq] at due
      subst due
      refine ⟨?_, show 14 + 9 ≤ mostDatagramOctets by decide⟩
      unfold ClientMessage.Writable connectRequest
      dsimp only
      split <;> decide
  | requestingState =>
      cases progress : situation.progress with
      | outOfSlots => simp [stage, progress] at due
      | joined =>
          simp only [stage, progress, Option.some.injEq] at due
          subst due
          exact ⟨trivial, show 2 + 9 ≤ mostDatagramOctets by decide⟩
      | joining =>
          simp only [stage, progress, Option.map_eq_some_iff] at due
          obtain ⟨request, found, rfl⟩ := due
          have few := composable.fewPlayers request found
          simp only [mostLocalParticipants, mostDatagramOctets] at few ⊢
          exact ⟨Nat.lt_of_le_of_lt few (by decide), by omega⟩
  | downloadingState =>
      simp only [stage, Option.map_eq_some_iff] at due
      obtain ⟨download, found, rfl⟩ := due
      have few := composable.fewChunks download found
      exact
        ⟨Nat.lt_of_le_of_lt List.findIdx_le_length few,
          show 15 + 9 ≤ mostDatagramOctets by decide⟩
  | synced =>
      simp only [stage, Option.some.injEq] at due
      subst due
      have room := Session.length_nextRun_fields_le situation.outbound
      rw [← Session.number_nextRun composable.countsUp]
      refine ⟨⟨_, _, rfl, ?_, fun payload member => ?_⟩, ?_⟩
      · exact Nat.lt_of_le_of_lt (Redundancy.length_run_le _ _ _) (by decide)
      · exact Nat.lt_of_le_of_lt
          (Redundancy.length_le_of_mem_fitting member) (by decide)
      · dsimp only
        rw [StepRun.fieldsOf_number]
        simp only [Session.runRoom, mostDatagramOctets] at room ⊢
        omega

/-- The other fields do not matter. -/
theorem frame
    (composable : situation.Composable)
    {after : Situation}
    (joinRequest : after.joinRequest = situation.joinRequest)
    (download : after.download = situation.download)
    (predicted : after.outbound.predicted = situation.outbound.predicted) :
    after.Composable where
  fewPlayers := by
    rw [joinRequest]
    exact composable.fewPlayers
  fewChunks := by
    rw [download]
    exact composable.fewChunks
  countsUp := by
    rw [predicted]
    exact composable.countsUp

theorem finishDownload (composable : situation.Composable) :
    situation.finishDownload.Composable := by
  unfold Situation.finishDownload
  split
  · exact composable
  · split
    · exact composable
    · exact
        ⟨composable.fewPlayers, composable.fewChunks,
          StepQueue.countsUp_empty _ _⟩

/-- No announced snapshot has more chunks than a word can count. -/
theorem startDownload
    (composable : situation.Composable)
    (response : DownloadResponse) :
    (situation.startDownload response).Composable where
  fewPlayers := composable.fewPlayers
  fewChunks := by
    intro download found
    obtain rfl := Option.some.inj found
    have small := response.octetCount.toNat_lt
    simp only [Download.announced, Assembly.empty, List.length_replicate,
      Assembly.chunksFor, Chunk.size, UInt32.size]
    omega
  countsUp := StepQueue.countsUp_empty _ _

theorem acceptPart
    (composable : situation.Composable)
    (channel : UInt16)
    (chunk : Chunk) :
    (situation.acceptPart channel chunk).Composable := by
  unfold Situation.acceptPart
  cases found : situation.download with
  | none => exact composable
  | some download =>
      dsimp only
      split
      · exact composable
      · cases inserted : download.assembly.insert chunk with
        | error failure => exact composable
        | ok stored =>
            obtain ⟨receipt, assembly⟩ := stored
            have few := composable.fewChunks download found
            have stillFew : assembly.slots.length < UInt32.size := by
              rw [Assembly.length_slots_insert inserted]
              exact few
            refine finishDownload
              ⟨composable.fewPlayers, ?_, composable.countsUp⟩
            simpa using stillFew

/-- Whatever is delivered, the next message can be composed. -/
theorem accept (composable : situation.Composable) (delivery : Delivery) :
    (situation.accept delivery).Composable := by
  have acknowledges (report : StepReport) :
      (situation.acceptReport report).Composable :=
    ⟨composable.fewPlayers, composable.fewChunks,
      composable.countsUp.discardBelow _⟩
  cases delivery with
  | nothing => exact composable
  | outOfSlots => exact composable.frame rfl rfl rfl
  | report report => exact acknowledges report
  | steps report steps => exact (acknowledges report).frame rfl rfl rfl
  | connection response =>
      simp only [Situation.accept, acceptConnection]
      split
      · exact composable.frame rfl rfl rfl
      · exact composable
  | membership response =>
      simp only [Situation.accept, acceptMembership]
      split
      · exact ⟨composable.fewPlayers, by simp, composable.countsUp⟩
      · exact composable
  | download response =>
      simp only [Situation.accept, acceptDownload]
      split
      · exact (composable.startDownload response).finishDownload
      · exact composable
  | part channel chunk => exact composable.acceptPart channel chunk

/-- Whatever the application asks for, the next message can be composed. -/
theorem ask (composable : situation.Composable) (request : Session.Request) :
    (situation.ask request).Composable := by
  cases request with
  | requestConnect =>
      simp only [Situation.ask]
      split
      · exact composable.frame rfl rfl rfl
      · exact composable
  | beginJoin =>
      simp only [Situation.ask]
      split
      · exact composable.frame rfl rfl rfl
      · exact composable
  | assignJoinRequest request =>
      refine ⟨?_, composable.fewChunks, composable.countsUp⟩
      intro kept found
      obtain rfl := Option.some.inj found
      exact List.length_take_le _ _
  | predict payload =>
      simp only [Situation.ask, predict]
      split
      · exact composable
      · split
        · exact composable
        · rename_i longer written
          exact
            ⟨composable.fewPlayers, composable.fewChunks,
              composable.countsUp.write written⟩
  | readStep =>
      rw [Situation.ask, readStep_frame]
      exact composable.frame rfl rfl rfl
  | disconnect => exact composable.frame rfl rfl rfl
  | reset => exact ⟨by simp [Situation.ask, forget],
      by simp [Situation.ask, forget], StepQueue.countsUp_empty _ _⟩

end Composable

end Situation

end StepSync
