import StepSync.Proofs.Download.Assembly
import StepSync.Proofs.Session.Transition

namespace StepSync

/-!
# The life of a session

Stage, connection, progress, download and snapshot are fields of their own, and
many handlers write some of them.  They fit together all the same: what a session
has and lacks is decided by its stage (`Situation.AtStage`), and every event moves
the stage along one edge or leaves it (`Session.Moves`).

Two further facts carry the induction.  Players that have joined have a
membership, and the count of the chunks in a download is right.
-/

namespace Situation

/-- There is a connection, with an id that the server may assign. -/
def HasConnection (situation : Situation) : Prop :=
  ∃ connection,
    situation.connection = some connection ∧ connection.id ≠ noConnectionId

/-- The local players have been let in. -/
def TakesPart (situation : Situation) : Prop :=
  situation.progress ≠ .joining ∧ situation.membership.isSome = true

/-- What a situation has and lacks at a stage. -/
def AtStage (situation : Situation) : Stage → Prop
  | .idle | .requestingConnect =>
      situation.connection = none ∧ situation.download = none ∧
        situation.snapshot = none
  | .connected | .requestingState =>
      situation.HasConnection ∧ situation.download = none ∧
        situation.snapshot = none
  | .downloadingState =>
      situation.HasConnection ∧ situation.TakesPart ∧
        ∃ download, situation.download = some download ∧
          download.assembly.isComplete = false
  | .synced =>
      situation.HasConnection ∧ situation.TakesPart ∧
        ∃ download, situation.download = some download ∧
          download.assembly.isComplete = true ∧
          (∀ slot ∈ download.assembly.slots, slot.isSome = true) ∧
          situation.snapshot =
            some ⟨download.stepId, download.assembly.joined⟩
  | .disconnected => True

/-- What a situation keeps whatever its stage is. -/
structure Steady (situation : Situation) : Prop where
  participants :
    (situation.membership.elim [] Membership.participants).length ≤
      min mostLocalParticipants situation.settings.participants.toNat
  waits : situation.waitTicks ≤ Session.handshakeWait
  joined : situation.progress = .joined → situation.membership.isSome = true
  counted : ∀ download ∈ situation.download, download.assembly.Counted

/-- Everything in a situation fits together. -/
structure Coherent (situation : Situation) : Prop extends Steady situation where
  atStage : situation.AtStage situation.stage

variable {situation : Situation}

theorem finishDownload_of_synced (synced : situation.stage = .synced) :
    situation.finishDownload = situation := by
  unfold finishDownload
  split
  · rfl
  · exact if_pos synced

/-- A complete download is gone on from, an incomplete one goes on. -/
theorem coherent_finishDownload
    {download : Download}
    (steady : situation.Steady)
    (connected : situation.HasConnection)
    (takesPart : situation.TakesPart)
    (found : situation.download = some download)
    (downloading : situation.stage = .downloadingState) :
    situation.finishDownload.Coherent ∧
      (situation.finishDownload.stage = .downloadingState ∨
        situation.finishDownload.stage = .synced ∧
          download.assembly.isComplete = true ∧
          situation.finishDownload.snapshot =
            some ⟨download.stepId, download.assembly.joined⟩) := by
  cases complete : download.assembly.isComplete with
  | false =>
      have same : situation.finishDownload = situation := by
        simp [finishDownload, found, Download.snapshot?, Assembly.octets?,
          complete]
      rw [same]
      refine ⟨⟨steady, ?_⟩, .inl downloading⟩
      rw [downloading]
      exact ⟨connected, takesPart, download, found, complete⟩
  | true =>
      have snapshot :
          download.snapshot? =
            some ⟨download.stepId, download.assembly.joined⟩ := by
        simp [Download.snapshot?, Assembly.octets?, complete]
      have counted := steady.counted
      rw [found] at counted
      have filled := (counted download rfl).isComplete_iff.mp complete
      simp only [finishDownload, found, snapshot, downloading,
        Option.bind_some, reduceCtorEq, ↓reduceIte]
      refine ⟨⟨⟨steady.participants, Nat.zero_le _, steady.joined,
        counted⟩, ?_⟩, .inr ⟨trivial, trivial, trivial⟩⟩
      exact ⟨connected, takesPart, download, rfl, complete, filled, rfl⟩

namespace Coherent

/-- What is sent or stored, and how long is waited, does not matter. -/
theorem frame
    (coherent : situation.Coherent)
    (joinRequest : Option JoinRequest)
    (sendSequence : SendSequence)
    (outbound : Outbound)
    (inbound : Inbound)
    {waitTicks : Nat}
    (waits : waitTicks ≤ Session.handshakeWait) :
    Coherent
      { situation with
        joinRequest := joinRequest
        sendSequence := sendSequence
        outbound := outbound
        inbound := inbound
        waitTicks := waitTicks } where
  participants := coherent.participants
  waits := waits
  joined := coherent.joined
  counted := coherent.counted
  atStage := coherent.atStage

/-- At a stage of the handshake's end or later there is a connection. -/
theorem stage_of_connection
    (coherent : situation.Coherent)
    (connected : situation.connection.isSome = true)
    (present : situation.stage ≠ .disconnected) :
    situation.stage = .connected ∨ situation.stage = .requestingState ∨
      situation.stage = .downloadingState ∨ situation.stage = .synced := by
  have atStage := coherent.atStage
  cases stage : situation.stage with
  | idle =>
      rw [stage] at atStage
      rw [atStage.1] at connected
      cases connected
  | requestingConnect =>
      rw [stage] at atStage
      rw [atStage.1] at connected
      cases connected
  | disconnected => exact absurd stage present
  | connected => simp
  | requestingState => simp
  | downloadingState => simp
  | synced => simp

/-- The stage moves with the connection. -/
theorem acceptConnection
    (coherent : situation.Coherent)
    (response : ConnectResponse) :
    (situation.acceptConnection response).Coherent ∧
      ((situation.acceptConnection response).stage = situation.stage ∨
        situation.stage = .requestingConnect ∧
          (situation.acceptConnection response).stage = .connected) := by
  unfold Situation.acceptConnection
  split
  case isTrue answers =>
    obtain ⟨requesting, named⟩ := answers
    have atStage := coherent.atStage
    rw [requesting] at atStage
    obtain ⟨_, noDownload, noSnapshot⟩ := atStage
    refine ⟨⟨⟨?_, Nat.zero_le _, ?_, ?_⟩, ?_⟩, .inr ⟨requesting, rfl⟩⟩
    · exact coherent.participants
    · exact coherent.joined
    · exact coherent.counted
    · exact ⟨⟨_, rfl, named⟩, noDownload, noSnapshot⟩
  case isFalse => exact ⟨coherent, .inl rfl⟩

/-- Players join while there is no download yet, so none is dropped. -/
theorem acceptMembership
    (coherent : situation.Coherent)
    (response : JoinResponse) :
    (situation.acceptMembership response).Coherent := by
  unfold Situation.acceptMembership
  split
  case isTrue answers =>
    obtain ⟨joining, _, fits⟩ := answers
    refine ⟨⟨fits, Nat.zero_le _, fun _ => rfl, by simp⟩, ?_⟩
    have atStage := coherent.atStage
    cases stage : situation.stage with
    | idle =>
        rw [stage] at atStage
        exact ⟨atStage.1, rfl, atStage.2.2⟩
    | requestingConnect =>
        rw [stage] at atStage
        exact ⟨atStage.1, rfl, atStage.2.2⟩
    | connected =>
        rw [stage] at atStage
        exact ⟨atStage.1, rfl, atStage.2.2⟩
    | requestingState =>
        rw [stage] at atStage
        exact ⟨atStage.1, rfl, atStage.2.2⟩
    | downloadingState =>
        rw [stage] at atStage
        exact absurd joining atStage.2.1.1
    | synced =>
        rw [stage] at atStage
        exact absurd joining atStage.2.1.1
    | disconnected => trivial
  case isFalse => exact coherent

theorem acceptOutOfSlots (coherent : situation.Coherent) :
    Coherent { situation with progress := .outOfSlots } := by
  refine ⟨⟨coherent.participants, coherent.waits, by simp,
    coherent.counted⟩, ?_⟩
  have atStage := coherent.atStage
  cases stage : situation.stage with
  | idle =>
      rw [stage] at atStage
      exact atStage
  | requestingConnect =>
      rw [stage] at atStage
      exact atStage
  | connected =>
      rw [stage] at atStage
      exact atStage
  | requestingState =>
      rw [stage] at atStage
      exact atStage
  | downloadingState =>
      rw [stage] at atStage
      exact ⟨atStage.1, ⟨by simp, atStage.2.1.2⟩, atStage.2.2⟩
  | synced =>
      rw [stage] at atStage
      exact ⟨atStage.1, ⟨by simp, atStage.2.1.2⟩, atStage.2.2⟩
  | disconnected => trivial

/--
A download begins where it is asked for, and ends at once only if it is empty.
-/
theorem acceptDownload
    (coherent : situation.Coherent)
    (response : DownloadResponse) :
    (situation.acceptDownload response).Coherent ∧
      ((situation.acceptDownload response).stage = situation.stage ∨
        situation.stage = .requestingState ∧
          ((situation.acceptDownload response).stage = .downloadingState ∨
            (situation.acceptDownload response).stage = .synced ∧
              (situation.acceptDownload response).snapshot.map
                Snapshot.octets = some [])) := by
  unfold Situation.acceptDownload
  split
  case isTrue awaits =>
    obtain ⟨_, requesting, joined, _, _⟩ := awaits
    have atStage := coherent.atStage
    rw [requesting] at atStage
    obtain ⟨connected, _, _⟩ := atStage
    have started : (situation.startDownload response).Steady :=
      ⟨coherent.participants, Nat.zero_le _, coherent.joined, by
        simp [startDownload, Download.announced,
          Assembly.counted_empty]⟩
    have takesPart : (situation.startDownload response).TakesPart :=
      ⟨by simp [startDownload, joined], coherent.joined joined⟩
    obtain ⟨finished, stays | ⟨synced, complete, snapshot⟩⟩ :=
      coherent_finishDownload started connected takesPart rfl rfl
    · exact ⟨finished, .inr ⟨requesting, .inl stays⟩⟩
    · refine ⟨finished, .inr ⟨requesting, .inr ⟨synced, ?_⟩⟩⟩
      rw [snapshot, Option.map_some]
      exact congrArg some (Assembly.joined_empty_of_isComplete complete)
  case isFalse => exact ⟨coherent, .inl rfl⟩

/-- A part either is of no concern, or goes into the download, or ends it. -/
theorem acceptPart
    (coherent : situation.Coherent)
    (connected : situation.connection.isSome = true)
    (present : situation.stage ≠ .disconnected)
    (channel : UInt16)
    (chunk : Chunk) :
    (situation.acceptPart channel chunk).Coherent ∧
      ((situation.acceptPart channel chunk).stage = situation.stage ∨
        situation.stage = .downloadingState ∧
          (situation.acceptPart channel chunk).stage = .synced) := by
  unfold Situation.acceptPart
  cases found : situation.download with
  | none => exact ⟨coherent, .inl rfl⟩
  | some download =>
      dsimp only
      split
      case isTrue => exact ⟨coherent, .inl rfl⟩
      case isFalse =>
        cases inserted : download.assembly.insert chunk with
        | error failure => exact ⟨coherent, .inl rfl⟩
        | ok stored =>
            obtain ⟨receipt, assembly⟩ := stored
            have counted := coherent.counted download found
            have atStage := coherent.atStage
            obtain stage | stage | stage | stage :=
              coherent.stage_of_connection connected present
            · rw [stage] at atStage
              rw [atStage.2.1] at found
              cases found
            · rw [stage] at atStage
              rw [atStage.2.1] at found
              cases found
            · rw [stage] at atStage
              have steady :
                  Steady { situation with
                    download := some { download with assembly := assembly } } :=
                ⟨coherent.participants, coherent.waits, coherent.joined, by
                  simpa using counted.insert inserted⟩
              obtain ⟨finished, stays | ⟨synced, _, _⟩⟩ :=
                coherent_finishDownload steady atStage.1 atStage.2.1 rfl stage
              · exact ⟨finished, .inl (stays.trans stage.symm)⟩
              · exact ⟨finished, .inr ⟨stage, synced⟩⟩
            · rw [stage] at atStage
              obtain ⟨_, _, known, isKnown, complete, _⟩ := atStage
              rw [found] at isKnown
              cases isKnown
              have same : assembly = download.assembly :=
                counted.insert_of_isComplete complete inserted
              dsimp only
              rw [same, ← found, finishDownload_of_synced stage]
              exact ⟨coherent, .inl rfl⟩

/-- Whatever the application asks for fits. -/
theorem ask (coherent : situation.Coherent) (request : Session.Request) :
    (situation.ask request).Coherent := by
  cases request with
  | requestConnect =>
      simp only [Situation.ask]
      split
      case isTrue idle =>
        have atStage := coherent.atStage
        rw [idle] at atStage
        exact
          ⟨⟨coherent.participants, Nat.zero_le _, coherent.joined,
            coherent.counted⟩, atStage⟩
      case isFalse => exact coherent
  | beginJoin =>
      simp only [Situation.ask]
      split
      case isTrue connected =>
        have atStage := coherent.atStage
        rw [connected] at atStage
        exact
          ⟨⟨coherent.participants, Nat.zero_le _, by simp,
            coherent.counted⟩, atStage⟩
      case isFalse => exact coherent
  | assignJoinRequest request => exact coherent.frame _ _ _ _ coherent.waits
  | predict payload =>
      rw [Situation.ask, predict_frame]
      exact coherent.frame _ _ _ _ coherent.waits
  | readStep =>
      rw [Situation.ask, readStep_frame]
      exact coherent.frame _ _ _ _ coherent.waits
  | disconnect =>
      exact
        ⟨⟨coherent.participants, coherent.waits, coherent.joined,
          coherent.counted⟩, trivial⟩
  | reset =>
      exact
        ⟨⟨Nat.zero_le _, Nat.zero_le _, by simp [Situation.ask, forget],
          by simp [Situation.ask, forget]⟩, ⟨rfl, rfl, rfl⟩⟩

theorem sends
    {after : Situation}
    (coherent : situation.Coherent)
    (sends : situation.Sends after) :
    after.Coherent := by
  have waits := Nat.le_trans sends.waits
    (Nat.max_le.mpr ⟨coherent.waits, Nat.le_refl _⟩)
  rw [sends.frame]
  exact coherent.frame situation.joinRequest _ _ situation.inbound waits

end Coherent

end Situation

namespace Session

/-- The edges along which an event may move a session from one stage to another. -/
inductive Edge : Event → Stage → Stage → Prop where
  | stay (event : Event) (stage : Stage) : Edge event stage stage
  | requestConnect : Edge (.asked .requestConnect) .idle .requestingConnect
  | connect (datagram : Octets) :
      Edge (.received datagram) .requestingConnect .connected
  | beginJoin : Edge (.asked .beginJoin) .connected .requestingState
  | announce (datagram : Octets) :
      Edge (.received datagram) .requestingState .downloadingState
  | finish (datagram : Octets) :
      Edge (.received datagram) .downloadingState .synced
  | announceEmpty (datagram : Octets) :
      Edge (.received datagram) .requestingState .synced
  | giveUp (now : Nat) (refusal : Option String) :
      Edge (.tickEnded now refusal) .synced .disconnected
  | disconnect (stage : Stage) :
      Edge (.asked .disconnect) stage .disconnected
  | reset (stage : Stage) : Edge (.asked .reset) stage .idle

/--
An event has moved a session along an edge.  A snapshot that is had as soon as it
is announced has no octets.
-/
structure Moved (event : Event) (before after : Situation) : Prop where
  edge : Edge event before.stage after.stage
  emptyAtOnce :
    before.stage = .requestingState → after.stage = .synced →
      after.snapshot.map Snapshot.octets = some []

namespace Moved

variable {event : Event} {before after : Situation}

theorem of_same (same : after.stage = before.stage) :
    Moved event before after := by
  refine ⟨?_, fun requesting synced => ?_⟩
  · rw [same]
    exact .stay event before.stage
  · rw [same, requesting] at synced
    cases synced

theorem of_edge
    {first second : Stage}
    (edge : Edge event first second)
    (left : before.stage = first)
    (entered : after.stage = second)
    (apart : first ≠ .requestingState ∨ second ≠ .synced) :
    Moved event before after := by
  subst left entered
  refine ⟨edge, fun requesting synced => ?_⟩
  rcases apart with other | other
  · exact absurd requesting other
  · exact absurd synced other

end Moved

/-- A datagram keeps everything fitting, and moves a session along an edge. -/
theorem coherent_receive
    {session : Session}
    (coherent : session.situation.Coherent)
    (datagram : Octets) :
    let after := (session.receive datagram).session.situation
    after.Coherent ∧
      Moved (.received datagram) session.situation after := by
  have connects (response : ConnectResponse) :
      (session.situation.acceptConnection response).Coherent ∧
        Moved (.received datagram) session.situation
          (session.situation.acceptConnection response) := by
    obtain ⟨keeps, same | ⟨requesting, connected⟩⟩ :=
      coherent.acceptConnection response
    · exact ⟨keeps, .of_same same⟩
    · exact ⟨keeps, .of_edge (.connect _) requesting connected (by decide)⟩
  dsimp only
  rw [situation_receive]
  by_cases closed :
      session.connection = none ∨ session.stage = .disconnected
  · rcases delivery_of_closed closed datagram with
      nothing | ⟨response, connection⟩
    · rw [nothing]
      exact ⟨coherent, .of_same rfl⟩
    · rw [connection]
      exact connects response
  · rw [not_or] at closed
    have connected : session.situation.connection.isSome = true :=
      Option.isSome_iff_ne_none.mpr closed.1
    cases session.delivery datagram with
    | nothing => exact ⟨coherent, .of_same rfl⟩
    | connection response => exact connects response
    | membership response =>
        refine ⟨coherent.acceptMembership response, .of_same ?_⟩
        simp only [Situation.accept, Situation.acceptMembership]
        split <;> rfl
    | outOfSlots => exact ⟨coherent.acceptOutOfSlots, .of_same rfl⟩
    | report report =>
        exact ⟨coherent.frame _ _ _ _ coherent.waits, .of_same rfl⟩
    | steps report steps =>
        exact ⟨coherent.frame _ _ _ _ coherent.waits, .of_same rfl⟩
    | download response =>
        obtain ⟨keeps, same | ⟨requesting, announced | ⟨synced, empty⟩⟩⟩ :=
          coherent.acceptDownload response
        · exact ⟨keeps, .of_same same⟩
        · exact
            ⟨keeps, .of_edge (.announce _) requesting announced (by decide)⟩
        · refine ⟨keeps, ?_, fun _ _ => empty⟩
          rw [Situation.accept, requesting, synced]
          exact .announceEmpty datagram
    | part channel chunk =>
        obtain ⟨keeps, same | ⟨downloading, synced⟩⟩ :=
          coherent.acceptPart connected closed.2 channel chunk
        · exact ⟨keeps, .of_same same⟩
        · exact ⟨keeps, .of_edge (.finish _) downloading synced (by decide)⟩

theorem moved_ask (situation : Situation) (request : Request) :
    Moved (.asked request) situation (situation.ask request) := by
  cases request with
  | requestConnect =>
      simp only [Situation.ask]
      split
      case isTrue idle =>
        exact .of_edge .requestConnect idle rfl (by decide)
      case isFalse => exact .of_same rfl
  | beginJoin =>
      simp only [Situation.ask]
      split
      case isTrue connected =>
        exact .of_edge .beginJoin connected rfl (by decide)
      case isFalse => exact .of_same rfl
  | assignJoinRequest request => exact .of_same rfl
  | predict payload =>
      refine .of_same ?_
      rw [Situation.ask, Situation.predict_frame]
  | readStep =>
      refine .of_same ?_
      rw [Situation.ask, Situation.readStep_frame]
  | disconnect =>
      exact .of_edge (.disconnect _) rfl rfl (.inr (by decide))
  | reset => exact .of_edge (.reset _) rfl rfl (.inr (by decide))

/-- Every event keeps everything fitting, and moves a session along an edge. -/
theorem coherent_after
    {session : Session}
    (coherent : session.situation.Coherent)
    (event : Event) :
    (session.after event).situation.Coherent ∧
      Moved event session.situation (session.after event).situation := by
  cases event with
  | received datagram => exact coherent_receive coherent datagram
  | tickBegun now =>
      rw [after, situation_beginTick]
      exact ⟨coherent, .of_same rfl⟩
  | tickEnded now refusal =>
      rcases situation_endTick session now refusal with
        ⟨synced, _, disconnected⟩ | sends
      · rw [after, disconnected]
        refine ⟨⟨⟨?_, ?_, ?_, ?_⟩, trivial⟩, ?_⟩
        · exact coherent.participants
        · exact coherent.waits
        · exact coherent.joined
        · exact coherent.counted
        · exact .of_edge (.giveUp now refusal) synced rfl (by decide)
      · exact ⟨coherent.sends sends, .of_same sends.stage⟩
  | asked request =>
      rw [after, situation_ask]
      exact ⟨coherent.ask request, moved_ask _ request⟩

theorem coherent_idle (settings : Settings) :
    (idle settings).situation.Coherent where
  participants := Nat.zero_le _
  waits := Nat.zero_le _
  joined := by simp [idle, situation]
  counted := by simp [idle, situation]
  atStage := ⟨rfl, rfl, rfl⟩

theorem coherent_afterAll (settings : Settings) (events : List Event) :
    ((create settings).1.afterAll events).situation.Coherent := by
  rw [session_create]
  exact keeps_afterAll (fun session => session.situation.Coherent)
    (fun _ event coherent => (coherent_after coherent event).1)
    (coherent_idle settings.clamp.1) events

theorem settings_afterAll (settings : Settings) (events : List Event) :
    ((create settings).1.afterAll events).settings = settings.clamp.1 := by
  rw [session_create]
  exact keeps_afterAll (fun session => session.settings = settings.clamp.1)
    (fun session event same => (settings_after session event).trans same)
    (settings_idle _) events

/--
Whatever has happened to a session, what it has and lacks is decided by its
stage, it has no more participants than its settings allow, and it never waits
longer than for a request of the handshake.  Each event on the way has left the
stage, or moved it along an edge.
-/
theorem lifecycle (settings : Settings) (calls : List Call) :
    let session := reached settings calls
    session.situation.AtStage session.stage ∧
      session.participants.length ≤
        min mostLocalParticipants settings.clamp.1.participants.toNat ∧
      session.waitTicks ≤ handshakeWait ∧
      ∀ earlier event later,
        eventsOf calls = earlier ++ event :: later →
        let before := (create settings).1.afterAll earlier
        Moved event before.situation (before.after event).situation := by
  dsimp only
  have coherent := coherent_afterAll settings (eventsOf calls)
  rw [reached, run_eq_afterAll]
  refine ⟨coherent.atStage, ?_, coherent.waits, ?_⟩
  · rw [← settings_afterAll settings (eventsOf calls)]
    exact coherent.participants
  · intro earlier event later _
    exact (coherent_after (coherent_afterAll settings earlier) event).2

end Session

end StepSync
