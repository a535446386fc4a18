import StepSync.Proofs.Conductor.Turn
import StepSync.Proofs.Session.Capacity

namespace StepSync

/-!
# Joining a game

Between a new conductor and the game lie the turns of a handshake and one turn for
every chunk of the snapshot (`Stands`).  In each of them the session finds the
answer to what it said in the turn before, which moves it on (`Stands.moves`); so
it takes exactly that many turns (`Meeting.joins`).
-/

namespace Situation

/-- What is found, if anything, does to a situation. -/
def finding (situation : Situation) (delivery? : Option Delivery) :
    Situation :=
  delivery?.elim situation situation.accept

/-- From most stages the conductor need not lead. -/
theorem led_of_ne
    {situation : Situation}
    (active : situation.stage ≠ .idle)
    (unconnected : situation.stage ≠ .connected) :
    situation.led = situation := by
  unfold led
  split <;> first | contradiction | rfl

theorem download_finishDownload (situation : Situation) :
    situation.finishDownload.download = situation.download := by
  unfold finishDownload
  split
  · rfl
  · split <;> rfl

theorem joinRequest_finding
    (situation : Situation)
    (delivery? : Option Delivery) :
    (situation.finding delivery?).joinRequest = situation.joinRequest := by
  cases delivery? with
  | none => rfl
  | some delivery => rw [finding, Option.elim_some, accept_frame]

theorem joinRequest_led (situation : Situation) :
    situation.led.joinRequest = situation.joinRequest := by
  unfold led
  split
  · rw [ask]
    split <;> rfl
  · rw [ask]
    split <;> rfl
  · rfl

end Situation

namespace Host

/-- What the answer to a message brings, if there is one. -/
def tells (host : Host) : ClientMessage → Option Delivery
  | .connect _ =>
      some (.connection
        { host.connectResponse with flags := .ofBits host.flags.bits })
  | .join request => some (.membership (host.joinResponse request))
  | .requestState request =>
      some (.download (host.downloadResponse request))
  | .downloadStatus channel waitingFor _ =>
      some (.part channel (Chunk.cut host.snapshot waitingFor))
  | .steps _ _ _ => none

/-- The membership that a host grants. -/
def membership (host : Host) : Membership :=
  ⟨host.participants, host.connectionIndex, host.sessionSecret⟩

/--
A host can let the local players in, and its snapshot is one that
the client takes.
-/
structure Admits
    (host : Host)
    (settings : Settings)
    (localIndices : Octets) :
    Prop where
  named : host.connectionId ≠ noConnectionId
  onePerPlayer : host.participants.length = localIndices.length
  allowed : host.snapshot.length ≤ settings.snapshotOctets.toNat
  small : host.snapshot.length < UInt32.size

/--
How a client stands after so many turns, and what it finds next: it rests, it
calls, it has called, it is connected, it asks to join, it has joined, and then it
loads one chunk after the other.
-/
inductive Stands (host : Host) (request : JoinRequest) :
    Situation → Option Delivery → Nat → Prop where
  | resting
      {situation : Situation}
      (stage : situation.stage = .idle)
      (ready : situation.waitTicks = 0) :
      Stands host request situation none 0
  | calling
      {situation : Situation}
      (stage : situation.stage = .requestingConnect)
      (ready : situation.waitTicks = 0) :
      Stands host request situation none 1
  | called
      {situation : Situation}
      (stage : situation.stage = .requestingConnect) :
      Stands host request situation
        (some (.connection
          { host.connectResponse with flags := .ofBits host.flags.bits }))
        2
  | connected
      {situation : Situation}
      (stage : situation.stage = .requestingState)
      (connection : situation.connection = some host.connection)
      (progress : situation.progress = .joining)
      (ready : situation.waitTicks = 0) :
      Stands host request situation none 3
  | joining
      {situation : Situation}
      (stage : situation.stage = .requestingState)
      (connection : situation.connection = some host.connection)
      (progress : situation.progress = .joining) :
      Stands host request situation
        (some (.membership (host.joinResponse request))) 4
  | joined
      {situation : Situation}
      (stage : situation.stage = .requestingState)
      (connection : situation.connection = some host.connection)
      (progress : situation.progress = .joined)
      (membership : situation.membership = some host.membership)
      (download : situation.download = none) :
      Stands host request situation
        (some (.download (host.downloadResponse ⟨situation.requestId⟩))) 5
  | loading
      {situation : Situation}
      {count : Nat}
      {assembly : Assembly}
      (stage : situation.stage = .downloadingState)
      (connection : situation.connection = some host.connection)
      (membership : situation.membership = some host.membership)
      (download : situation.download =
        some ⟨host.channel, host.stepId, assembly⟩)
      (gathers : Assembly.Gathers host.snapshot.length
        (Chunk.cuts host.snapshot count) assembly)
      (missing : count < Assembly.chunksFor host.snapshot.length)
      (ready : situation.waitTicks = 0) :
      Stands host request situation
        (some (.part host.channel (Chunk.cut host.snapshot count)))
        (6 + count)

/--
What the client has received lets it say something and stand one turn further.
-/
structure Continues
    (host : Host)
    (request : JoinRequest)
    (received : Situation)
    (turns : Nat) :
    Prop where
  unsynced : received.stage ≠ .synced
  ready : received.waitTicks = 0
  stands : ∀ sendSequence waitTicks,
    (received.stage = .downloadingState → waitTicks = 0) →
      Stands host request
        { received with
          sendSequence := sendSequence
          waitTicks := waitTicks }.led
        (received.dueMessage?.bind host.tells) (turns + 1)

/-- What the client has received brings it into the game. -/
structure Finishes (host : Host) (received : Situation) : Prop where
  synced : received.stage = .synced
  ready : received.waitTicks = 0
  snapshot : received.snapshot = some ⟨host.stepId, host.snapshot⟩
  membership : received.membership = some host.membership
  empty : received.outbound.predicted.steps = []
  next : received.outbound.predicted.nextId = host.stepId

variable
  {host : Host} {request : JoinRequest} {situation : Situation}

/-- With so many chunks the client waits for the next one, or is in the game. -/
theorem continues_or_finishes
    {turns count : Nat}
    {assembly : Assembly}
    (counted : turns = 5 + count)
    (small : host.snapshot.length < UInt32.size)
    (stage : situation.stage = .downloadingState)
    (connection : situation.connection = some host.connection)
    (membership : situation.membership = some host.membership)
    (download : situation.download =
      some ⟨host.channel, host.stepId, assembly⟩)
    (ready : situation.waitTicks = 0)
    (gathers : Assembly.Gathers host.snapshot.length
      (Chunk.cuts host.snapshot count) assembly)
    (within : count ≤ Assembly.chunksFor host.snapshot.length) :
    if turns = 5 + Assembly.chunksFor host.snapshot.length then
      Finishes host situation.finishDownload
    else Continues host request situation.finishDownload turns := by
  have complete := gathers.isComplete_cuts_iff small within
  by_cases all : count = Assembly.chunksFor host.snapshot.length
  · rw [if_pos (by omega)]
    have found : (situation.download.bind Download.snapshot?) =
        some ⟨host.stepId, host.snapshot⟩ := by
      have joined := (all ▸ gathers).joined_cuts small
      simp [download, Download.snapshot?, Assembly.octets?,
        complete.mpr all, joined]
    have apart : situation.stage ≠ .synced := by
      rw [stage]
      decide
    rw [Situation.finishDownload, found]
    dsimp only
    rw [if_neg apart]
    exact ⟨rfl, rfl, rfl, membership, rfl, rfl⟩
  · rw [if_neg (by omega)]
    have missing : count < Assembly.chunksFor host.snapshot.length := by
      omega
    have incomplete : assembly.isComplete = false := by
      rw [← Bool.not_eq_true, complete]
      exact all
    have unfinished : situation.download.bind Download.snapshot? = none := by
      simp [download, Download.snapshot?, Assembly.octets?, incomplete]
    have stays : situation.finishDownload = situation := by
      rw [Situation.finishDownload, unfinished]
    have due : situation.dueMessage?.bind host.tells =
        some (.part host.channel (Chunk.cut host.snapshot count)) := by
      have waits := gathers.waitingFor_cuts small missing
      simp [Situation.dueMessage?, stage, download, tells, waits]
    rw [stays]
    refine ⟨by rw [stage]; decide, ready, fun sendSequence waitTicks atOnce => ?_⟩
    rw [due, show turns + 1 = 6 + count by omega]
    rw [Situation.led_of_ne]
    · exact .loading stage connection membership download gathers missing
        (atOnce stage)
    · simp [stage]
    · simp [stage]

/-- The settings and wishes that the answers of a host suit. -/
structure Suits
    (host : Host)
    (request : JoinRequest)
    (situation : Situation) :
    Prop where
  named : host.connectionId ≠ noConnectionId
  joinRequest : situation.joinRequest = some request
  few : host.participants.length ≤
    min mostLocalParticipants situation.settings.participants.toNat
  allowed :
    host.snapshot.length ≤ situation.settings.snapshotOctets.toNat
  small : host.snapshot.length < UInt32.size

namespace Suits

theorem accept_called
    (suits : Suits host request situation)
    (stage : situation.stage = .requestingConnect) :
    situation.accept
        (.connection
          { host.connectResponse with flags := .ofBits host.flags.bits }) =
      { situation with
        connection := some host.connection
        stage := .connected
        waitTicks := 0 } :=
  if_pos ⟨stage, suits.named⟩

theorem accept_joining
    (suits : Suits host request situation)
    (progress : situation.progress = .joining) :
    situation.accept (.membership (host.joinResponse request)) =
      { situation with
        membership := some host.membership
        progress := .joined
        download := none
        waitTicks := 0 } := by
  have nonce :
      situation.joinRequest.map JoinRequest.nonce =
        some (host.joinResponse request).nonce := by
    rw [suits.joinRequest]
    rfl
  exact if_pos ⟨progress, nonce, suits.few⟩

theorem accept_joined
    (suits : Suits host request situation)
    (stage : situation.stage = .requestingState)
    (progress : situation.progress = .joined)
    (download : situation.download = none) :
    situation.accept
        (.download (host.downloadResponse ⟨situation.requestId⟩)) =
      { situation with
        download := some
          ⟨host.channel, host.stepId,
            Assembly.empty host.snapshot.length⟩
        outbound := situation.outbound.restart host.stepId
        stage := .downloadingState
        waitTicks := 0 }.finishDownload := by
  have size : (UInt32.ofNat host.snapshot.length).toNat =
      host.snapshot.length :=
    UInt32.toNat_ofNat_of_lt' suits.small
  have awaits :
      situation.Awaits (host.downloadResponse ⟨situation.requestId⟩) := by
    refine ⟨by simp [download], stage, progress, rfl, ?_⟩
    rw [downloadResponse, size]
    exact suits.allowed
  rw [Situation.accept, Situation.acceptDownload, if_pos awaits,
    Situation.startDownload, downloadResponse, size]
  rfl

theorem accept_loading
    (suits : Suits host request situation)
    {count : Nat}
    {assembly : Assembly}
    (download : situation.download =
      some ⟨host.channel, host.stepId, assembly⟩)
    (gathers : Assembly.Gathers host.snapshot.length
      (Chunk.cuts host.snapshot count) assembly)
    (missing : count < Assembly.chunksFor host.snapshot.length) :
    ∃ after,
      Assembly.Gathers host.snapshot.length
          (Chunk.cuts host.snapshot (count + 1)) after ∧
        situation.accept
            (.part host.channel (Chunk.cut host.snapshot count)) =
          { situation with
            download := some
              ⟨host.channel, host.stepId, after⟩ }.finishDownload := by
  obtain ⟨receipt, after, inserted, gathered⟩ :=
    gathers.insert_cut suits.small missing
  refine ⟨after, gathered, ?_⟩
  simp [Situation.accept, Situation.acceptPart, download, inserted]

end Suits

/-- What a client finds changes how it stands, and is no report. -/
theorem Stands.changes
    {delivery : Delivery}
    {turns : Nat}
    (suits : Suits host request situation)
    (stands : Stands host request situation (some delivery) turns) :
    situation.accept delivery ≠ situation ∧
      ∀ report, delivery ≠ .report report := by
  cases stands with
  | called stage =>
      refine ⟨fun same => ?_, nofun⟩
      rw [suits.accept_called stage] at same
      have moved := congrArg Situation.stage same
      rw [stage] at moved
      cases moved
  | joining stage connection progress =>
      refine ⟨fun same => ?_, nofun⟩
      rw [suits.accept_joining progress] at same
      have moved := congrArg Situation.progress same
      rw [progress] at moved
      cases moved
  | joined stage connection progress membership download =>
      refine ⟨fun same => ?_, nofun⟩
      rw [suits.accept_joined stage progress download] at same
      have started := congrArg Situation.download same
      rw [Situation.download_finishDownload, download] at started
      cases started
  | @loading count assembly stage _ _ download gathers missing _ =>
      refine ⟨fun same => ?_, nofun⟩
      obtain ⟨after, gathered, accepts⟩ :=
        suits.accept_loading download gathers missing
      rw [accepts] at same
      have stored := congrArg Situation.download same
      rw [Situation.download_finishDownload, download] at stored
      obtain rfl : after = assembly := by simpa using stored
      have held := gathers.holds count missing
      rw [gathered.holds count missing,
        Assembly.firstPart?_cuts suits.small (Nat.le_of_lt missing),
        Assembly.firstPart?_cuts suits.small missing] at held
      simp at held

/--
What a client finds brings it a turn further, or into the game when it is time.
-/
theorem Stands.moves
    {delivery? : Option Delivery}
    {turns : Nat}
    (suits : Suits host request situation)
    (stands : Stands host request situation delivery? turns) :
    if turns = 5 + Assembly.chunksFor host.snapshot.length then
      Finishes host (situation.finding delivery?)
    else Continues host request (situation.finding delivery?) turns := by
  cases stands with
  | resting stage ready =>
      rw [if_neg (by omega)]
      refine ⟨by simp [Situation.finding, stage], ready, fun _ _ _ => ?_⟩
      simp only [Situation.finding, Option.elim_none]
      rw [Situation.dueMessage?_of_quiet (.inl stage)]
      simp only [Situation.led, stage, Situation.ask, ↓reduceIte]
      exact .calling rfl rfl
  | calling stage ready =>
      have due :
          situation.dueMessage?.bind host.tells =
            host.tells (.connect situation.connectRequest) := by
        simp only [Situation.dueMessage?, stage, Option.bind_some]
      rw [if_neg (by omega)]
      refine ⟨by simp [Situation.finding, stage], ready, fun _ _ _ => ?_⟩
      simp only [Situation.finding, Option.elim_none]
      rw [Situation.led_of_ne (by simp [stage]) (by simp [stage]), due]
      exact .called stage
  | called stage =>
      rw [if_neg (by omega)]
      simp only [Situation.finding, Option.elim_some]
      rw [suits.accept_called stage]
      refine ⟨fun same => ?_, rfl,
        fun _ _ _ => .connected rfl rfl rfl rfl⟩
      cases same
  | connected stage connection progress ready =>
      have due :
          situation.dueMessage?.bind host.tells =
            host.tells (.join request) := by
        simp only [Situation.dueMessage?, stage, progress,
          suits.joinRequest, Option.map_some, Option.bind_some]
      rw [if_neg (by omega)]
      refine ⟨by simp [Situation.finding, stage], ready, fun _ _ _ => ?_⟩
      simp only [Situation.finding, Option.elim_none]
      rw [Situation.led_of_ne (by simp [stage]) (by simp [stage]), due]
      exact .joining stage connection progress
  | joining stage connection progress =>
      rw [if_neg (by omega)]
      simp only [Situation.finding, Option.elim_some]
      rw [suits.accept_joining progress]
      refine ⟨by simp [stage], rfl, fun _ _ _ => ?_⟩
      rw [Situation.led_of_ne (by simp [stage]) (by simp [stage])]
      simp only [Situation.dueMessage?, stage, Option.bind_some]
      exact .joined rfl connection rfl rfl rfl
  | joined stage connection progress membership download =>
      simp only [Situation.finding, Option.elim_some]
      rw [suits.accept_joined stage progress download]
      exact continues_or_finishes rfl suits.small rfl connection membership
        rfl rfl (Assembly.gathers_empty _) (Nat.zero_le _)
  | loading stage connection membership download gathers missing ready =>
      obtain ⟨after, gathered, accepts⟩ :=
        suits.accept_loading download gathers missing
      simp only [Situation.finding, Option.elim_some]
      rw [accepts]
      exact continues_or_finishes (by omega) suits.small stage connection
        membership rfl ready gathered missing

theorem Stands.requesting
    {response : ConnectResponse}
    {turns : Nat}
    (stands :
      Stands host request situation (some (.connection response)) turns) :
    situation.stage = .requestingConnect := by
  cases stands with
  | called stage => exact stage

/-- What else a client finds comes within the connection. -/
theorem Stands.linked
    {delivery : Delivery}
    {turns : Nat}
    (stands : Stands host request situation (some delivery) turns)
    (inside : ∀ response, delivery ≠ .connection response) :
    situation.connection = some host.connection ∧
      situation.stage ≠ .disconnected := by
  cases stands with
  | called stage => exact absurd rfl (inside _)
  | joining stage connection => exact ⟨connection, by simp [stage]⟩
  | joined stage connection => exact ⟨connection, by simp [stage]⟩
  | loading stage connection => exact ⟨connection, by simp [stage]⟩

/-- A client that stands so is neither in the game nor gone. -/
theorem Stands.underway
    {delivery? : Option Delivery}
    {turns : Nat}
    (stands : Stands host request situation delivery? turns) :
    situation.stage ≠ .synced ∧ situation.stage ≠ .disconnected := by
  cases stands <;> simp [*]

theorem Suits.few_participants (suits : Suits host request situation) :
    host.participants.length ≤ mostLocalParticipants :=
  Nat.le_trans suits.few (Nat.min_le_left _ _)

end Host

namespace Meeting

/-- What is on its way to the session, if anything is, brings a delivery. -/
inductive Finds (host : Host) (meeting : Meeting) :
    Option Delivery → Prop where
  | nothing
      (inbox : meeting.inbox = [])
      (heard : meeting.session.receiveSequence = host.heard meeting.sent) :
      Finds host meeting none
  | greeting
      (inbox : meeting.inbox = [.datagram host.greeting])
      (sent : meeting.sent = 0)
      (requesting : meeting.session.stage = .requestingConnect) :
      Finds host meeting
        (some (.connection
          { host.connectResponse with flags := .ofBits host.flags.bits }))
  | reply
      {before : Nat}
      {fields : List Octets}
      {delivery : Delivery}
      (inbox : meeting.inbox = [.datagram (host.reply before fields)])
      (sent : meeting.sent = before + 1)
      (heard : meeting.session.receiveSequence = host.heard before)
      (connected : meeting.session.connection = some host.connection)
      (present : meeting.session.stage ≠ .disconnected)
      (brings : Session.Brings fields delivery) :
      Finds host meeting (some delivery)

/-- A conductor that wants to join has made so many turns. -/
structure Joins
    (settings : Settings)
    (host : Host)
    (request : JoinRequest)
    (meeting : Meeting)
    (turns : Nat) :
    Prop where
  underway : Underway settings meeting
  joinRequest : meeting.session.joinRequest = some request
  stands : ∃ delivery?,
    host.Stands request meeting.session.situation delivery? turns ∧
      Finds host meeting delivery?

variable
  {settings : Settings}
  {host : Host}
  {request : JoinRequest}
  {meeting : Meeting}

/-- What is on its way is heeded. -/
theorem Finds.receives
    {delivery? : Option Delivery}
    {turns : Nat}
    (finds : Finds host meeting delivery?)
    (underway : Underway settings meeting)
    (suits : host.Suits request meeting.session.situation)
    (stands :
      host.Stands request meeting.session.situation delivery? turns)
    (now : Nat) :
    Receives host meeting now
      (meeting.session.situation.finding delivery?) := by
  cases finds with
  | nothing inbox heard => exact .of_nothing inbox heard now
  | greeting inbox sent requesting =>
      obtain ⟨changed, read⟩ := stands.changes suits
      have length := host.length_greeting
      refine .of_datagram underway inbox ?_ ?_ ?_ read changed now
      · exact List.ne_nil_of_length_pos (by omega)
      · rw [length]
        decide
      · intro session same _
        have stillRequesting : session.stage = .requestingConnect :=
          (congrArg Situation.stage same).trans requesting
        rw [sent]
        exact ⟨host.delivery_greeting session,
          host.receiveSequence_greeting stillRequesting suits.named⟩
  | @reply before fields delivery inbox sent heard connected present brings =>
      obtain ⟨changed, read⟩ := stands.changes suits
      obtain ⟨command, body, written, other, reads⟩ := brings.read
      have short := brings.short
      obtain ⟨long, limit⟩ := Session.length_reply host.connection
        (host.number before) (host.echo before) fields.flatten
      refine .of_datagram underway inbox ?_ ?_ ?_ read changed now
      · refine List.ne_nil_of_length_pos ?_
        rw [Host.reply]
        omega
      · rw [Host.reply]
        omega
      · intro session same sameSequence
        have stillConnected : session.connection = some host.connection :=
          (congrArg Situation.connection same).trans connected
        have stillPresent : session.stage ≠ .disconnected := by
          rw [show session.stage = _ from congrArg Situation.stage same]
          exact present
        have ahead :
            0 < session.receiveSequence.distance (host.number before) := by
          rw [sameSequence, heard]
          exact host.ahead_number before
        rw [Host.reply, written, sent]
        refine ⟨?_, ?_⟩
        · rw [Session.delivery_reply stillConnected suits.named stillPresent
            ahead]
          exact reads _
        · exact Session.receiveSequence_reply stillConnected suits.named
            stillPresent ahead _ command body other

/-- The answer to what is due is found next. -/
theorem Turned.finds
    {situation : Situation}
    {after : Meeting}
    {turns : Nat}
    (turned : Turned settings host meeting situation after)
    (few : host.participants.length ≤ mostLocalParticipants)
    (stands :
      host.Stands request after.session.situation
        (situation.dueMessage?.bind host.tells) turns) :
    Finds host after (situation.dueMessage?.bind host.tells) := by
  have answered := turned.answered
  have heard := turned.heard
  cases due : situation.dueMessage? with
  | none =>
      rw [due] at answered
      obtain ⟨sent, inbox⟩ := Prod.mk.inj answered
      refine .nothing inbox ?_
      rw [heard, sent]
  | some message =>
      rw [due, Option.bind_some] at stands
      rw [due] at answered
      rw [Option.bind_some]
      cases message with
      | connect opening =>
          obtain ⟨sent, inbox⟩ := Prod.mk.inj answered
          exact .greeting inbox sent stands.requesting
      | join asked =>
          obtain ⟨sent, inbox⟩ := Prod.mk.inj answered
          obtain ⟨connected, present⟩ := stands.linked nofun
          exact .reply inbox sent heard connected present
            (host.brings_joinResponse asked few)
      | requestState asked =>
          obtain ⟨sent, inbox⟩ := Prod.mk.inj answered
          obtain ⟨connected, present⟩ := stands.linked nofun
          exact .reply inbox sent heard connected present
            (host.brings_downloadResponse asked)
      | downloadStatus channel waitingFor laterMask =>
          obtain ⟨sent, inbox⟩ := Prod.mk.inj answered
          obtain ⟨connected, present⟩ := stands.linked nofun
          exact .reply inbox sent heard connected present
            (host.brings_part channel waitingFor)
      | steps expected laterMask run =>
          obtain ⟨sent, inbox⟩ := Prod.mk.inj answered
          refine .nothing inbox ?_
          rw [heard, sent]

/-- What the client has come to once it is in the game. -/
structure Joined
    (settings : Settings)
    (host : Host)
    (meeting : Meeting) :
    Prop where
  standing : meeting.conductor.standing = .synced
  stage : meeting.session.stage = .synced
  snapshot :
    meeting.session.snapshot = some ⟨host.stepId, host.snapshot⟩
  membership : meeting.session.membership = some host.membership
  heeded : meeting.session.traffic.datagramsRejected = 0
  refusals : meeting.refusals = []
  predicts : ∀ payload : Octets,
    payload.length ≤ settings.clamp.1.stepOctets →
      (Session.Action.predict payload meeting.session).result =
        .ok host.stepId

/--
With no step predicted yet, every payload that is not too long is taken
at the next id.
-/
theorem predicts_of_empty
    {session : Session}
    {events : List Session.Event}
    (reached : session = (Session.create settings).1.afterAll events)
    (empty : session.outbound.predicted.steps = [])
    {payload : Octets}
    (admissible : payload.length ≤ settings.clamp.1.stepOctets) :
    (Session.Action.predict payload session).result =
      .ok session.outbound.predicted.nextId := by
  have sameSettings : session.settings = settings.clamp.1 := by
    rw [reached]
    exact Session.settings_afterAll settings events
  have capacity : session.outbound.predicted.capacity =
      settings.clamp.1.predictedSteps.toNat := by
    have held := Session.capacities_afterAll settings events
    rw [← reached, Situation.capacities, Prod.mk.injEq] at held
    exact held.1
  have room := Settings.copies_le_predictedSteps_clamp settings
  have short : ¬session.settings.stepOctets < payload.length := by
    rw [sameSettings]
    exact Nat.not_lt.mpr admissible
  have vacant : session.outbound.predicted.isFull = false := by
    unfold Redundancy.copies at room
    rw [StepQueue.isFull, capacity, empty]
    simp
    omega
  simp [Session.Action.predict, Session.Action.result_bind, short,
    Session.canPredict, StepQueue.write, vacant]

/-- The turn in which the session becomes synced brings the client into the game. -/
theorem Arrives.joined
    {situation : Situation}
    {after : Meeting}
    {events : List Session.Event}
    (arrives : Arrives situation after)
    (reached :
      after.session = (Session.create settings).1.afterAll events)
    (finishes : host.Finishes situation) :
    Joined settings host after := by
  obtain ⟨sendSequence, outbound, same, comesTo⟩ := arrives.comesTo
  have predicted : after.session.outbound.predicted =
      situation.outbound.predicted :=
    (congrArg (fun situation => situation.outbound.predicted)
      comesTo).trans same
  have empty : after.session.outbound.predicted.steps = [] := by
    rw [predicted]
    exact finishes.empty
  constructor
  · exact arrives.standing
  · exact (congrArg Situation.stage comesTo).trans finishes.synced
  · exact (congrArg Situation.snapshot comesTo).trans finishes.snapshot
  · exact (congrArg Situation.membership comesTo).trans finishes.membership
  · exact arrives.refusedCount
  · exact arrives.refusals
  · intro payload admissible
    rw [predicts_of_empty reached empty admissible, predicted,
      finishes.next]

namespace Joins

theorem suits
    {turns : Nat}
    (joins : Joins settings host request meeting turns)
    (admits : host.Admits settings request.localIndices)
    (few : request.localIndices.length ≤
      settings.clamp.1.participants.toNat) :
    host.Suits request meeting.session.situation := by
  obtain ⟨events, reached⟩ := joins.underway.reached
  have same : meeting.session.situation.settings = settings.clamp.1 := by
    rw [reached]
    exact Session.settings_afterAll settings events
  refine ⟨admits.named, joins.joinRequest, ?_, ?_, admits.small⟩
  · rw [same, admits.onePerPlayer]
    exact Nat.le_min.mpr
      ⟨Nat.le_trans few (Settings.participants_clamp_le settings), few⟩
  · rw [same, Settings.snapshotOctets_clamp]
    exact admits.allowed

/-- A turn brings the client one turn further, or into the game when it is time. -/
theorem turn
    {turns : Nat}
    (joins : Joins settings host request meeting turns)
    (admits : host.Admits settings request.localIndices)
    (few : request.localIndices.length ≤
      settings.clamp.1.participants.toNat)
    (now : Nat) :
    if turns = 5 + Assembly.chunksFor host.snapshot.length then
      Joined settings host (meeting.turn host now)
    else
      Joins settings host request (meeting.turn host now) (turns + 1) := by
  have suits := joins.suits admits few
  obtain ⟨delivery?, stands, finds⟩ := joins.stands
  obtain ⟨unsynced, present⟩ := stands.underway
  have receives := finds.receives joins.underway suits stands now
  have moves := stands.moves suits
  by_cases isTime :
      turns = 5 + Assembly.chunksFor host.snapshot.length
  · rw [if_pos isTime] at moves ⊢
    obtain ⟨events, reached⟩ := joins.underway.exists_turned
    exact (joins.underway.arrives present unsynced receives moves.synced
      moves.ready).joined reached moves
  · rw [if_neg isTime] at moves ⊢
    have turned := joins.underway.turn present receives moves.unsynced
      moves.ready
    obtain ⟨sendSequence, waitTicks, atOnce, comesTo⟩ := turned.comesTo
    have stillStands := moves.stands sendSequence waitTicks atOnce
    rw [← comesTo] at stillStands
    refine ⟨turned.underway, ?_, _, stillStands,
      turned.finds suits.few_participants stillStands⟩
    rw [show Session.joinRequest _ = _ from
      congrArg Situation.joinRequest comesTo, Situation.joinRequest_led]
    exact (Situation.joinRequest_finding _ delivery?).trans joins.joinRequest

/--
The client that has made so many turns makes as many more, as long as
it is not time.
-/
theorem turns
    {before : Nat}
    (joins : Joins settings host request meeting before)
    (admits : host.Admits settings request.localIndices)
    (few : request.localIndices.length ≤
      settings.clamp.1.participants.toNat)
    {times : List Nat}
    (early : before + times.length ≤
      5 + Assembly.chunksFor host.snapshot.length) :
    Joins settings host request (meeting.turns host times)
      (before + times.length) := by
  induction times generalizing meeting before with
  | nil => exact joins
  | cons now times inductionHypothesis =>
      rw [List.length_cons] at early
      have next := joins.turn admits few now
      rw [if_neg (by omega)] at next
      have rest := inductionHypothesis next (by omega)
      rw [Nat.add_assoc, Nat.add_comm 1] at rest
      exact rest

end Joins

/-- The client rests before the first turn. -/
theorem joins_opening
    {localIndices : Octets}
    (few : localIndices.length ≤ settings.clamp.1.participants.toNat) :
    Joins settings host ⟨1, localIndices⟩
      (opening settings localIndices) 0 := by
  have short : localIndices.take mostLocalParticipants = localIndices :=
    List.take_of_length_le
      (Nat.le_trans few (Settings.participants_clamp_le settings))
  have session : (opening settings localIndices).session =
      (Session.create settings).1.afterAll
        [.asked (.assignJoinRequest ⟨1, localIndices⟩)] := by
    rw [Meeting.session, opening, Conductor.create_fst]
    exact Conductor.session_call _ (.joinGame localIndices)
  have starts : (opening settings localIndices).session =
      { Session.idle settings.clamp.1 with
        joinRequest := some ⟨1, localIndices⟩ } := by
    rw [session, Session.session_create]
    generalize settings.clamp.1 = clamped
    simp [Session.afterAll, Session.after, Session.ask, Session.answered,
      Session.Action.assignJoinRequest, Session.Action.session_bind,
      Session.cutJoinRequest, short]
  constructor
  · refine ⟨⟨_, session⟩, ?_, ?_, ?_, ?_⟩
    · rw [opening, Conductor.create_fst]
      rfl
    · rw [opening, Conductor.create_fst]
      rfl
    · rw [starts]
      rfl
    · rfl
  · rw [starts]
  · refine ⟨none, .resting ?_ ?_, .nothing rfl ?_⟩
    all_goals rw [starts]; rfl

/--
Whatever the settings, the local players and the time: a conductor that meets a
host which lets its players in is in the game after six updates and one for every
chunk of the snapshot, and not before.  It goes on from the snapshot, and nothing
was refused.
-/
theorem joins_in_time
    (settings : Settings)
    (localIndices : Octets)
    (few : localIndices.length ≤ settings.clamp.1.participants.toNat)
    (host : Host)
    (admits : host.Admits settings localIndices)
    (times : List Nat)
    (enough : times.length =
      6 + Assembly.chunksFor host.snapshot.length) :
    Joined settings host ((opening settings localIndices).turns host times) ∧
      ∀ count < times.length,
        let earlier :=
          (opening settings localIndices).turns host (times.take count)
        earlier.conductor.standing ≠ .synced ∧
          earlier.session.stage ≠ .synced := by
  have starts := @joins_opening settings host localIndices few
  have underway (count : Nat) (early : count < times.length) :
      Joins settings host ⟨1, localIndices⟩
        ((opening settings localIndices).turns host (times.take count))
        count := by
    have length : (times.take count).length = count :=
      List.length_take_of_le (Nat.le_of_lt early)
    have joins := @Joins.turns _ _ _ _ _ starts admits few (times.take count)
      (by omega)
    rw [length, Nat.zero_add] at joins
    exact joins
  refine ⟨?_, fun count early => ?_⟩
  · have last : times ≠ [] := List.ne_nil_of_length_pos (by omega)
    have joins := underway (times.length - 1) (by omega)
    have arrives := joins.turn admits few (times.getLast last)
    rw [if_pos (by omega), ← List.dropLast_eq_take] at arrives
    rw [← List.dropLast_concat_getLast last, Meeting.turns,
      List.foldl_append]
    exact arrives
  · obtain ⟨delivery?, stands, _⟩ := (underway count early).stands
    refine ⟨?_, stands.underway.1⟩
    rw [(underway count early).underway.standing]
    decide

/-- A host of one player, with a snapshot of a single chunk. -/
def soloHost : Host where
  greetingNumber := 9
  connectionId := 7
  flags := ConnectFlags.none
  secret := 11
  firstNumber := 65534
  echo := fun sent => if sent = 1 then some 40 else none
  connectionIndex := 0
  sessionSecret := 17
  participants := [⟨0, 4⟩]
  stepId := 5
  channel := 1
  snapshot := [19, 23]

theorem joins_in_time_soloHost :
    soloHost.Admits Settings.standard [0] ∧
      Joined Settings.standard soloHost
        ((opening Settings.standard [0]).turns soloHost
          [20, 40, 60, 80, 100, 120, 140]) := by
  have admits : soloHost.Admits Settings.standard [0] :=
    ⟨by decide, rfl, by decide, by decide⟩
  exact ⟨admits,
    (joins_in_time Settings.standard [0] (by decide +kernel) soloHost admits
      [20, 40, 60, 80, 100, 120, 140] (by decide)).1⟩

end Meeting

end StepSync
