import StepSync.Proofs.Download.Gathering
import StepSync.Proofs.Session.Authoritative

namespace StepSync

/-!
# Downloading the snapshot

Once a snapshot is announced, only the parts on its channel matter, and of these the
first for each chunk.  `Session.noteParts` looks on and notes the parts that fit.
Whatever else comes, the session goes on downloading until there is one for each
chunk; the datagram that brings the last of them makes it synced, with the octets of
the first parts (`Session.snapshot_download`).

Players that have joined do not join again, so no late answer drops the download,
and no further announcement is awaited, so none replaces it.
-/

namespace Situation

/--
The parts that have come so far, and a further one if it belongs to the
announced snapshot.
-/
def partsWith (response : DownloadResponse) (parts : List Chunk) :
    Delivery → List Chunk
  | .part channel chunk =>
      if channel = response.channel ∧ chunk.Fits response.octetCount.toNat then
        parts ++ [chunk]
      else parts
  | _ => parts

/-- The download of the announced snapshot goes on, or is finished. -/
structure Downloads
    (response : DownloadResponse)
    (parts : List Chunk)
    (assembly : Assembly)
    (situation : Situation) :
    Prop where
  progress : situation.progress ≠ .joining
  download :
    situation.download =
      some ⟨response.channel, response.stepId, assembly⟩
  gathers : Assembly.Gathers response.octetCount.toNat parts assembly
  underway : ¬AllCome response.octetCount.toNat parts →
    situation.stage = .downloadingState
  finished : AllCome response.octetCount.toNat parts →
    (situation.stage = .synced ∨ situation.stage = .disconnected) ∧
      situation.snapshot = some ⟨response.stepId, assembly.joined⟩

/--
The download has the further parts now; if it was finished before, its assembly
is the old one.
-/
def DownloadsOn
    (response : DownloadResponse)
    (parts further : List Chunk)
    (assembly : Assembly)
    (after : Situation) :
    Prop :=
  ∃ later,
    Downloads response further later after ∧
      (AllCome response.octetCount.toNat parts → later = assembly)

namespace Downloads

variable {response : DownloadResponse} {parts : List Chunk}
variable {assembly : Assembly} {situation : Situation}

theorem unchanged
    (downloads : Downloads response parts assembly situation) :
    DownloadsOn response parts parts assembly situation :=
  ⟨assembly, downloads, fun _ => rfl⟩

/-- A complete assembly is gone on from, an incomplete one goes on. -/
theorem finishDownload
    (progress : situation.progress ≠ .joining)
    (download :
      situation.download =
        some ⟨response.channel, response.stepId, assembly⟩)
    (gathers : Assembly.Gathers response.octetCount.toNat parts assembly)
    (downloading : situation.stage = .downloadingState) :
    Downloads response parts assembly situation.finishDownload := by
  by_cases allCome : AllCome response.octetCount.toNat parts
  · have complete := gathers.isComplete_iff.mpr allCome
    have snapshot :
        situation.download.bind Download.snapshot? =
          some ⟨response.stepId, assembly.joined⟩ := by
      simp [download, Download.snapshot?, Assembly.octets?, complete]
    simp only [Situation.finishDownload, snapshot, downloading, reduceCtorEq,
      ↓reduceIte]
    exact
      ⟨progress, download, gathers, fun missing => absurd allCome missing,
        fun _ => ⟨.inl rfl, rfl⟩⟩
  · have incomplete := mt gathers.isComplete_iff.mp allCome
    have noSnapshot : situation.download.bind Download.snapshot? = none := by
      simp [download, Download.snapshot?, Assembly.octets?, incomplete]
    simp only [Situation.finishDownload, noSnapshot]
    exact
      ⟨progress, download, gathers, fun _ => downloading,
        fun come => absurd come allCome⟩

/-- The announcement that is awaited begins the download. -/
theorem of_awaits (awaits : situation.Awaits response) :
    Downloads response [] (Assembly.empty response.octetCount.toNat)
      (situation.acceptDownload response) := by
  have joined : situation.progress ≠ .joining := by
    rw [awaits.2.2.1]
    decide
  rw [acceptDownload, if_pos awaits]
  exact finishDownload joined rfl (Assembly.gathers_empty _) rfl

/-- Only three stages are possible while a download goes on or is finished. -/
theorem stage
    (downloads : Downloads response parts assembly situation) :
    situation.stage = .downloadingState ∨ situation.stage = .synced ∨
      situation.stage = .disconnected := by
  by_cases allCome : AllCome response.octetCount.toNat parts
  · exact .inr (downloads.finished allCome).1
  · exact .inl (downloads.underway allCome)

theorem stage_ne
    (downloads : Downloads response parts assembly situation)
    {stage : Stage}
    (other :
      stage ≠ .downloadingState ∧ stage ≠ .synced ∧
        stage ≠ .disconnected) :
    situation.stage ≠ stage := by
  rintro rfl
  rcases downloads.stage with here | here | here
  · exact other.1 here
  · exact other.2.1 here
  · exact other.2.2 here

/-- The other fields do not matter. -/
theorem frame
    (downloads : Downloads response parts assembly situation)
    {after : Situation}
    (progress : after.progress ≠ .joining)
    (download : after.download = situation.download)
    (stage : after.stage = situation.stage)
    (snapshot : after.snapshot = situation.snapshot) :
    Downloads response parts assembly after where
  progress := progress
  download := download.trans downloads.download
  gathers := downloads.gathers
  underway := fun missing => stage.trans (downloads.underway missing)
  finished := fun allCome => by
    rw [stage, snapshot]
    exact downloads.finished allCome

/-- A part goes into the assembly if it fits, and else changes nothing. -/
theorem acceptPart
    (downloads : Downloads response parts assembly situation)
    (present : situation.stage ≠ .disconnected)
    (channel : UInt16)
    (chunk : Chunk) :
    DownloadsOn response parts
      (partsWith response parts (.part channel chunk)) assembly
      (situation.acceptPart channel chunk) := by
  unfold Situation.acceptPart partsWith
  rw [downloads.download]
  dsimp only
  by_cases belongs :
      channel = response.channel ∧ chunk.Fits response.octetCount.toNat
  · obtain ⟨rfl, fits⟩ := belongs
    obtain ⟨receipt, after, inserted, gathers⟩ :=
      downloads.gathers.insert_of_fits fits
    rw [if_neg (not_not_intro rfl), if_pos ⟨rfl, fits⟩, inserted]
    dsimp only
    by_cases allCome : AllCome response.octetCount.toNat parts
    · have complete := downloads.gathers.isComplete_iff.mpr allCome
      obtain rfl : after = assembly :=
        downloads.gathers.counted.insert_of_isComplete complete inserted
      obtain ⟨synced | gone, snapshot⟩ := downloads.finished allCome
      · let arrived : Situation :=
          { situation with
            download := some ⟨response.channel, response.stepId, after⟩ }
        have same : arrived.finishDownload = arrived :=
          finishDownload_of_synced synced
        refine ⟨after, ?_, fun _ => rfl⟩
        rw [same]
        exact
          ⟨downloads.progress, rfl, gathers,
            fun missing => absurd (gathers.isComplete_iff.mp complete)
              missing,
            fun _ => ⟨.inl synced, snapshot⟩⟩
      · exact absurd gone present
    · exact
        ⟨after,
          finishDownload downloads.progress rfl gathers
            (downloads.underway allCome),
          fun come => absurd come allCome⟩
  · rw [if_neg belongs]
    by_cases other : response.channel ≠ channel
    · rw [if_pos other]
      exact downloads.unchanged
    · have unfit : ¬chunk.Fits response.octetCount.toNat :=
        fun fits => belongs ⟨(Decidable.not_not.mp other).symm, fits⟩
      obtain ⟨failure, refused⟩ := downloads.gathers.insert_of_not_fits unfit
      rw [if_neg other, refused]
      exact downloads.unchanged

/-- No delivery but a part adds to a download. -/
theorem accept
    (downloads : Downloads response parts assembly situation)
    (present : situation.stage ≠ .disconnected)
    (delivery : Delivery) :
    DownloadsOn response parts (partsWith response parts delivery) assembly
      (situation.accept delivery) := by
  cases delivery with
  | nothing => exact downloads.unchanged
  | report report =>
      exact unchanged (downloads.frame downloads.progress rfl rfl rfl)
  | steps report steps =>
      exact unchanged (downloads.frame downloads.progress rfl rfl rfl)
  | outOfSlots =>
      have outOfSlots : JoinProgress.outOfSlots ≠ .joining := by decide
      exact unchanged (downloads.frame outOfSlots rfl rfl rfl)
  | connection response =>
      have unasked : situation.stage ≠ .requestingConnect :=
        downloads.stage_ne (by decide)
      rw [Situation.accept, acceptConnection,
        if_neg fun asked => unasked asked.1]
      exact downloads.unchanged
  | membership response =>
      rw [Situation.accept, acceptMembership,
        if_neg fun asked => downloads.progress asked.1]
      exact downloads.unchanged
  | download response =>
      have unasked : situation.stage ≠ .requestingState :=
        downloads.stage_ne (by decide)
      rw [Situation.accept, acceptDownload,
        if_neg fun awaits => unasked awaits.2.1]
      exact downloads.unchanged
  | part channel chunk => exact downloads.acceptPart present channel chunk

/--
Of what the application may ask, only leaving and starting over end a download.
-/
theorem ask
    (downloads : Downloads response parts assembly situation)
    {request : Session.Request}
    (stays : request ≠ .disconnect)
    (goesOn : request ≠ .reset) :
    Downloads response parts assembly (situation.ask request) := by
  cases request with
  | disconnect => exact absurd rfl stays
  | reset => exact absurd rfl goesOn
  | assignJoinRequest request =>
      exact downloads.frame downloads.progress rfl rfl rfl
  | requestConnect =>
      rw [Situation.ask, if_neg (downloads.stage_ne (by decide))]
      exact downloads
  | beginJoin =>
      rw [Situation.ask, if_neg (downloads.stage_ne (by decide))]
      exact downloads
  | predict payload =>
      rw [Situation.ask, predict_frame]
      exact downloads.frame downloads.progress rfl rfl rfl
  | readStep =>
      rw [Situation.ask, readStep_frame]
      exact downloads.frame downloads.progress rfl rfl rfl

end Downloads

end Situation

namespace Session

/-- The application leaves the server or starts over. -/
def Event.Interrupts (event : Event) : Prop :=
  event = .asked .disconnect ∨ event = .asked .reset

instance (event : Event) : Decidable event.Interrupts := by
  unfold Event.Interrupts
  infer_instance

/-- What somebody notes who looks on at the parts of an announced snapshot. -/
def noteParts
    (response : DownloadResponse)
    (parts : List Chunk)
    (session : Session) :
    Event → List Chunk
  | .received datagram =>
      Situation.partsWith response parts (session.delivery datagram)
  | _ => parts

/-- The parts of an announced snapshot that a run of events brings. -/
def partsOf
    (response : DownloadResponse)
    (started : Session)
    (events : List Event) :
    List Chunk :=
  watch (noteParts response) [] started events

section

variable {response : DownloadResponse} {parts : List Chunk}
variable {assembly : Assembly} {session : Session}

/-- A datagram brings nothing to a disconnected session. -/
theorem receive_of_disconnected
    (gone : session.stage = .disconnected)
    (datagram : Octets) :
    (session.receive datagram).session.situation = session.situation ∧
      Situation.partsWith response parts (session.delivery datagram) =
        parts := by
  have unasked : session.situation.stage ≠ .requestingConnect :=
    fun asked => absurd (gone.symm.trans asked) (by decide)
  rw [situation_receive]
  rcases delivery_of_closed (.inr gone) datagram with
    nothing | ⟨answer, connection⟩
  · rw [nothing]
    exact ⟨rfl, rfl⟩
  · rw [connection]
    exact ⟨if_neg fun asked => unasked asked.1, rfl⟩

/-- Unless the application interrupts it, every event keeps a download. -/
theorem downloads_after
    (downloads :
      Situation.Downloads response parts assembly session.situation)
    {event : Event}
    (lasting : ¬event.Interrupts) :
    Situation.DownloadsOn response parts
      (noteParts response parts session event) assembly
      (session.after event).situation := by
  cases event with
  | tickBegun now =>
      rw [after, situation_beginTick]
      exact downloads.unchanged
  | received datagram =>
      rw [after, noteParts]
      by_cases gone : session.stage = .disconnected
      · obtain ⟨same, sameParts⟩ := receive_of_disconnected gone datagram
        rw [same, sameParts]
        exact downloads.unchanged
      · rw [situation_receive]
        exact downloads.accept gone _
  | tickEnded now refusal =>
      rw [after]
      rcases situation_endTick session now refusal with
        ⟨synced, _, disconnected⟩ | sends
      · rw [disconnected]
        have allCome : AllCome response.octetCount.toNat parts :=
          Decidable.of_not_not fun missing =>
            absurd (synced.symm.trans (downloads.underway missing))
              (by decide)
        have given :
            Situation.Downloads response parts assembly
              { session.situation with stage := .disconnected } :=
          ⟨downloads.progress, downloads.download, downloads.gathers,
            fun missing => absurd allCome missing,
            fun _ => ⟨.inr rfl, (downloads.finished allCome).2⟩⟩
        exact given.unchanged
      · rw [sends.frame]
        exact Situation.Downloads.unchanged
          (downloads.frame downloads.progress rfl rfl rfl)
  | asked request =>
      rw [after, situation_ask]
      have stays : request ≠ .disconnect :=
        fun leaves => lasting (.inl (congrArg Event.asked leaves))
      have goesOn : request ≠ .reset :=
        fun forgets => lasting (.inr (congrArg Event.asked forgets))
      exact (downloads.ask stays goesOn).unchanged

/-- What every event keeps of a download, a run of events keeps. -/
theorem downloads_afterAll
    (downloads :
      Situation.Downloads response parts assembly session.situation)
    {events : List Event}
    (lasting : ∀ event ∈ events, ¬event.Interrupts) :
    Situation.DownloadsOn response parts
      (watch (noteParts response) parts session events) assembly
      (session.afterAll events).situation := by
  induction events generalizing parts assembly session with
  | nil => exact downloads.unchanged
  | cons event events inductionHypothesis =>
      obtain ⟨first, lastingRest⟩ := List.forall_mem_cons.mp lasting
      obtain ⟨middle, goesOn, same⟩ := downloads_after downloads first
      obtain ⟨later, last, sameAgain⟩ := inductionHypothesis goesOn lastingRest
      refine ⟨later, last, fun allCome => ?_⟩
      have complete := downloads.gathers.isComplete_iff.mpr allCome
      have still := same allCome
      rw [← still] at complete
      exact (sameAgain (goesOn.gathers.isComplete_iff.mp complete)).trans still

/-- No datagram disconnects a session. -/
theorem present_of_received
    (coherent : session.situation.Coherent)
    (present : session.stage ≠ .disconnected)
    (datagram : Octets) :
    (session.after (.received datagram)).stage ≠ .disconnected := by
  intro gone
  have edge : Edge (.received datagram) session.stage .disconnected := by
    rw [← gone]
    exact (coherent_after coherent (.received datagram)).2.edge
  generalize session.stage = stage at edge present
  cases edge with
  | stay => exact present rfl

/-- A session is disconnected by the application, or at the end of a tick. -/
theorem exists_tickEnded_of_disconnected
    (coherent : session.situation.Coherent)
    (present : session.stage ≠ .disconnected)
    {events : List Event}
    (lasting : ∀ event ∈ events, ¬event.Interrupts)
    (gone : (session.afterAll events).stage = .disconnected) :
    ∃ now refusal, Event.tickEnded now refusal ∈ events := by
  induction events generalizing session with
  | nil => exact absurd gone present
  | cons event events inductionHypothesis =>
      obtain ⟨first, lastingRest⟩ := List.forall_mem_cons.mp lasting
      obtain ⟨stillCoherent, moved⟩ := coherent_after coherent event
      by_cases goneNow : (session.after event).stage = .disconnected
      · have edge : Edge event session.stage .disconnected := by
          rw [← goneNow]
          exact moved.edge
        generalize session.stage = stage at edge present
        cases edge with
        | stay => exact absurd rfl present
        | giveUp now refusal => exact ⟨now, refusal, List.mem_cons_self⟩
        | disconnect => exact absurd (.inl rfl) first
      · obtain ⟨now, refusal, member⟩ :=
          inductionHypothesis stillCoherent goneNow lastingRest gone
        exact ⟨now, refusal, List.mem_cons_of_mem _ member⟩

/-- The session is synced, and all its buffers are empty and go on from one id. -/
structure BeginsAt (id : StepId) (session : Session) : Prop where
  stage : session.stage = .synced
  predicted :
    session.outbound.predicted.steps = [] ∧
      session.outbound.predicted.nextId = id
  redundancy : session.outbound.redundancy = Redundancy.startingAt id
  ready :
    session.inbound.ready.steps = [] ∧ session.inbound.ready.nextId = id
  window : session.inbound.window = ReceiveWindow.expecting id

/-- The datagram that makes a session synced anchors its buffers at the snapshot. -/
theorem beginsAt_of_syncs
    {datagram : Octets}
    {snapshot : Snapshot}
    (unsynced : session.stage ≠ .synced)
    (synced : (session.receive datagram).session.stage = .synced)
    (taken : (session.receive datagram).session.snapshot = some snapshot) :
    BeginsAt snapshot.stepId (session.receive datagram).session := by
  have receives := situation_receive session datagram
  rcases session.situation.inbound_accept (session.delivery datagram) with
    ⟨_, other, anchored⟩ | ⟨stays, _⟩
  · rw [← receives] at anchored
    obtain rfl : snapshot = other :=
      Option.some.inj (taken.symm.trans anchored.taken)
    have inbound :
        (session.receive datagram).session.inbound =
          session.inbound.restart snapshot.stepId :=
      anchored.inbound
    have outbound :
        (session.receive datagram).session.outbound =
          session.outbound.restart snapshot.stepId :=
      anchored.outbound
    constructor
    · exact synced
    · rw [outbound]
      exact ⟨rfl, rfl⟩
    · rw [outbound]
      rfl
    · rw [inbound]
      exact ⟨rfl, rfl⟩
    · rw [inbound]
      rfl
  · rw [← receives] at stays
    exact absurd ⟨unsynced, synced⟩ stays

/-- The part that comes last makes the session synced, at the announced step. -/
theorem beginsAt_of_lastPart
    (coherent : session.situation.Coherent)
    (downloads :
      Situation.Downloads response parts assembly session.situation)
    {datagram : Octets}
    (missing : ¬AllCome response.octetCount.toNat parts)
    (allCome :
      AllCome response.octetCount.toNat
        (noteParts response parts session (.received datagram))) :
    BeginsAt response.stepId (session.receive datagram).session := by
  have downloading : session.stage = .downloadingState :=
    downloads.underway missing
  have lasting : ¬(Event.received datagram).Interrupts := by
    simp [Event.Interrupts]
  obtain ⟨later, received, _⟩ := downloads_after downloads lasting
  obtain ⟨synced | gone, snapshot⟩ := received.finished allCome
  · have unsynced : session.stage ≠ .synced := by
      rw [downloading]
      decide
    exact beginsAt_of_syncs unsynced synced snapshot
  · have present : session.stage ≠ .disconnected := by
      rw [downloading]
      decide
    exact absurd gone (present_of_received coherent present datagram)

/-- A snapshot that is there stays as it is. -/
theorem snapshot_of_lasting
    (downloads :
      Situation.Downloads response parts assembly session.situation)
    (allCome : AllCome response.octetCount.toNat parts)
    {events : List Event}
    (lasting : ∀ event ∈ events, ¬event.Interrupts) :
    (session.afterAll events).snapshot = session.snapshot := by
  obtain ⟨later, still, same⟩ := downloads_afterAll downloads lasting
  obtain rfl : later = assembly := same allCome
  have complete := downloads.gathers.isComplete_iff.mpr allCome
  have allStill := still.gathers.isComplete_iff.mp complete
  exact
    (still.finished allStill).2.trans (downloads.finished allCome).2.symm

end

/--
A session that has begun to download an announced snapshot has, after some events,
exactly what the parts say that have come.
-/
structure DownloadsExactly
    (response : DownloadResponse)
    (started : Session)
    (later : List Event) :
    Prop where
  underway :
    ¬AllCome response.octetCount.toNat (partsOf response started later) →
      (started.afterAll later).stage = .downloadingState
  synced :
    AllCome response.octetCount.toNat (partsOf response started later) →
      (started.afterAll later).stage = .synced ∨
        (started.afterAll later).stage = .disconnected ∧
          ∃ now refusal, Event.tickEnded now refusal ∈ later
  snapshot :
    AllCome response.octetCount.toNat (partsOf response started later) →
      ∃ octets,
        (started.afterAll later).snapshot = some ⟨response.stepId, octets⟩ ∧
          octets.length = response.octetCount.toNat ∧
          ∀ index,
            index < Assembly.chunksFor response.octetCount.toNat →
              firstPart? (partsOf response started later) index =
                some ((octets.drop (index * Chunk.size)).take Chunk.size)
  atOnce : response.octetCount = 0 → started.BeginsAt response.stepId
  anchored : ∀ datagram,
    ¬AllCome response.octetCount.toNat (partsOf response started later) →
      AllCome response.octetCount.toNat
          (partsOf response started (later ++ [.received datagram])) →
        (started.afterAll (later ++ [.received datagram])).BeginsAt
          response.stepId
  final : ∀ further, (∀ event ∈ further, ¬Event.Interrupts event) →
    AllCome response.octetCount.toNat (partsOf response started later) →
      (started.afterAll (later ++ further)).snapshot =
        (started.afterAll later).snapshot

/--
Whatever comes after the announcement of a snapshot that was asked for, the
session downloads until a part has come for each chunk, is synced by the datagram
that brings the last of them, and keeps the snapshot from then on.
-/
theorem snapshot_download
    (settings : Settings)
    (calls : List Call)
    (announcement : Octets)
    (response : DownloadResponse)
    (later : List Event)
    (requesting : (reached settings calls).stage = .requestingState)
    (joined : (reached settings calls).progress = .joined)
    (brings :
      (reached settings calls).delivery announcement = .download response)
    (answers : response.requestId = (reached settings calls).requestId)
    (small :
      response.octetCount.toNat ≤
        (reached settings calls).settings.snapshotOctets.toNat)
    (lasting : ∀ event ∈ later, ¬Event.Interrupts event) :
    DownloadsExactly response
      ((reached settings calls).after (.received announcement)) later := by
  have coherentBefore : (reached settings calls).situation.Coherent := by
    rw [reached, run_eq_afterAll]
    exact coherent_afterAll settings (eventsOf calls)
  generalize reached settings calls = asking at *
  have noDownload : asking.situation.download = none := by
    have atStage := coherentBefore.atStage
    rw [show asking.situation.stage = _ from requesting] at atStage
    exact atStage.2.1
  have awaits : asking.situation.Awaits response :=
    ⟨by simp [noDownload], requesting, joined, answers, small⟩
  have begins :
      Situation.Downloads response [] (Assembly.empty response.octetCount.toNat)
        (asking.after (.received announcement)).situation := by
    rw [after, situation_receive, brings]
    exact .of_awaits awaits
  have coherent : (asking.after (.received announcement)).situation.Coherent :=
    (coherent_after coherentBefore _).1
  have unsynced : asking.stage ≠ .synced := by
    rw [requesting]
    decide
  have present :
      (asking.after (.received announcement)).stage ≠ .disconnected := by
    refine present_of_received coherentBefore ?_ announcement
    rw [requesting]
    decide
  have atOnce :
      response.octetCount = 0 →
        (asking.after (.received announcement)).BeginsAt response.stepId := by
    intro empty
    have allCome : AllCome response.octetCount.toNat [] := by
      rw [empty]
      decide
    obtain ⟨synced | gone, snapshot⟩ := begins.finished allCome
    · exact beginsAt_of_syncs unsynced synced snapshot
    · exact absurd gone present
  generalize asking.after (.received announcement) = started at *
  obtain ⟨assembly, downloads, _⟩ := downloads_afterAll begins lasting
  have coherentLater : (started.afterAll later).situation.Coherent :=
    keeps_afterAll (fun session => session.situation.Coherent)
      (fun _ event kept => (coherent_after kept event).1) coherent later
  constructor
  · exact downloads.underway
  · intro allCome
    obtain ⟨synced | gone, _⟩ := downloads.finished allCome
    · exact .inl synced
    · exact .inr ⟨gone,
        exists_tickEnded_of_disconnected coherent present lasting gone⟩
  · intro allCome
    exact
      ⟨assembly.joined, (downloads.finished allCome).2,
        downloads.gathers.length_joined allCome,
        fun index inRange =>
          downloads.gathers.take_drop_joined allCome inRange⟩
  · exact atOnce
  · intro datagram missing allCome
    rw [partsOf, watch_append] at allCome
    rw [afterAll_append]
    exact beginsAt_of_lastPart coherentLater downloads missing allCome
  · intro further lastingFurther allCome
    rw [afterAll_append]
    exact snapshot_of_lasting downloads allCome lastingFurther

/-- A snapshot of two chunks is announced on channel 1. -/
def twoChunks : DownloadResponse :=
  ⟨0, 5, 1025, 1⟩

/-- A part of a snapshot on a channel. -/
def partMessage
    (number channel : UInt16)
    (index : UInt32)
    (octets : Octets) :
    Octets :=
  numberedMessage number
    (Command.gameStatePart.fields ++
      [Octets.ofWord16 channel] ++ Chunk.fields ⟨index, octets⟩)

/--
The second chunk comes first, once on another channel and again with other octets;
the first one comes too short before it comes as it should.
-/
def partsOutOfOrder : List Event :=
  [.received (partMessage 3 2 1 [6]),
    .received (partMessage 4 1 1 [7]),
    .received (partMessage 5 1 1 [8]),
    .received (partMessage 6 1 0 [9]),
    .received (partMessage 7 1 0 (List.replicate 1024 10))]

theorem snapshot_download_outOfOrder :
    let session := reached Settings.standard (syncing.take 5)
    let announcement := numberedMessage 2 twoChunks.fields
    let started := session.after (.received announcement)
    AllCome 1025 (partsOf twoChunks started partsOutOfOrder) ∧
      DownloadsExactly twoChunks started partsOutOfOrder := by
  dsimp only
  refine ⟨by decide +kernel, ?_⟩
  exact
    snapshot_download Settings.standard (syncing.take 5)
      (numberedMessage 2 twoChunks.fields) twoChunks partsOutOfOrder
      (by decide +kernel) (by decide +kernel) (by decide +kernel)
      (by decide +kernel) (by decide +kernel) (by decide)

end Session

end StepSync
