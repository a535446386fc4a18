import StepSync.Link.Health
import StepSync.Message.Command
import StepSync.Message.Join
import StepSync.Session.Refusal
import StepSync.Session.Settings
import StepSync.Session.Stage

namespace StepSync.Session

/-!
# What the journal hears of a session

Every step of a session says what happened as a list of notices. A notice is
data; its level, topic and words are decided here and nowhere else, and nothing
that a session does depends on them.
-/

/-- Something that happened to a session. -/
inductive Notice where
  | settings (notice : Settings.Notice)
  | created (settings : Settings)
  | resetFrom (stage : Stage)
  | disconnectingFrom (stage : Stage)
  | requestingConnect
  | joiningGame
  | joinRequestCut (count : Nat)
  | joinRequestAssigned (request : JoinRequest)
  | linkGivenUp (verdict : Verdict)
  | tickOffBeat (elapsed expected : Nat)
  | receiveFailed (failure : String)
  | sendFailed (failure : String)
  | datagramRefused (refusal : Refusal)
  | commandReceived (command : Command)
  | leftUnread (command : Command) (octets : Nat)
  | echoAhead (lowerBits : UInt16)
  | statistics (metrics : Metrics) (health : Health)
  | stepPredicted (id : StepId)
  | refillRefused (failure : StepError)
  | connectResponseIgnored (stage : Stage)
  | connected (connectionId : UInt8) (debugStreams : Bool)
  | joinResponseIgnored (progress : JoinProgress)
  | joinNonceDiffers (nonce : UInt64) (requested : Option UInt64)
  | participantAssigned (participant : Participant)
  | joined (count : Nat) (connectionIndex : UInt8)
  | outOfSlots (nonce : UInt64)
  | channelKnown (channel : UInt16)
  | downloadResponseIgnored (stage : Stage) (progress : JoinProgress)
  | snapshotTooLarge (octets limit : Nat)
  | downloadStarted (stepId : StepId) (octets : Nat) (channel : UInt16)
  | chunksMissing (waitingFor : Nat) (laterMask : UInt64)
  | chunkRepeated (index : UInt32)
  | downloadFinished (octets : Nat) (stepId : StepId)
  | predictedAcknowledged (id : StepId) (discarded : Nat)
  | stepRepeated (id : StepId)
  | stepOutside (id expected : StepId)
  | stepsTaken (stored released ready : Nat)
  | sendingSteps (count : Nat) (cursor expected : StepId)
  | connectRequested (application protocolVersion : Version)
  | stateRequested (requestId : UInt8)
  | noJoinRequest
  | health (notice : Health.Notice)
  deriving Repr, DecidableEq

namespace Notice

/-- How important a notice is. -/
def level : Notice → Level
  | settings _ => .warn
  | created _ => .debug
  | resetFrom _ => .debug
  | disconnectingFrom _ => .info
  | requestingConnect => .debug
  | joiningGame => .debug
  | joinRequestCut _ => .warn
  | joinRequestAssigned _ => .debug
  | linkGivenUp _ => .warn
  | tickOffBeat _ _ => .debug
  | receiveFailed _ => .error
  | sendFailed _ => .error
  | datagramRefused (.stale _) => .debug
  | datagramRefused _ => .warn
  | commandReceived _ => .trace
  | leftUnread _ _ => .warn
  | echoAhead _ => .debug
  | statistics _ _ => .debug
  | stepPredicted _ => .trace
  | refillRefused _ => .warn
  | connectResponseIgnored _ => .debug
  | connected _ _ => .info
  | joinResponseIgnored _ => .debug
  | joinNonceDiffers _ _ => .warn
  | participantAssigned _ => .debug
  | joined _ _ => .info
  | outOfSlots _ => .warn
  | channelKnown _ => .debug
  | downloadResponseIgnored _ _ => .debug
  | snapshotTooLarge _ _ => .warn
  | downloadStarted _ _ _ => .info
  | chunksMissing _ _ => .trace
  | chunkRepeated _ => .trace
  | downloadFinished _ _ => .info
  | predictedAcknowledged _ _ => .trace
  | stepRepeated _ => .trace
  | stepOutside _ _ => .debug
  | stepsTaken _ _ _ => .trace
  | sendingSteps _ _ _ => .trace
  | connectRequested _ _ => .debug
  | stateRequested _ => .trace
  | noJoinRequest => .debug
  | health notice => notice.level

/-- A step id as eight hexadecimal digits. -/
def stepText (id : StepId) : String :=
  Text.hexadecimal 8 id.toNat

/-- A channel as four hexadecimal digits. -/
def channelText (channel : UInt16) : String :=
  Text.hexadecimal 4 channel.toNat

/-- A nonce as sixteen hexadecimal digits. -/
def nonceText (nonce : UInt64) : String :=
  Text.hexadecimal 16 nonce.toNat

/-- The notice in words, one text for each line of the journal. -/
def texts : Notice → List String
  | settings notice => [notice.text]
  | created chosen =>
      ["session created for application " ++
        chosen.applicationVersion.text ++
        s!" ({chosen.participants.toNat} participants, " ++
        s!"{chosen.stepOctets} octets per step)"]
  | resetFrom stage => ["reset from state " ++ stage.text]
  | disconnectingFrom stage => ["disconnecting from state " ++ stage.text]
  | requestingConnect => ["requesting connect"]
  | joiningGame => ["joining game"]
  | joinRequestCut count =>
      [s!"join request for {count} local participants, " ++
        s!"keeping the first {mostLocalParticipants}"]
  | joinRequestAssigned request =>
      ["join request " ++ nonceText request.nonce ++
        " for local participants " ++
        Text.bracketed
          (request.localIndices.map fun index => toString index.toNat)]
  | linkGivenUp verdict => ["disconnecting: " ++ verdict.text]
  | tickOffBeat elapsed expected =>
      [s!"tick took {elapsed} ms, expected {expected} ms"]
  | receiveFailed failure => ["receive failed: " ++ failure]
  | sendFailed failure => ["send failed: " ++ failure]
  | datagramRefused (.stale distance) =>
      [s!"dropped duplicate or reordered datagram (delta {distance})"]
  | datagramRefused refusal => ["dropped datagram: " ++ refusal.message]
  | commandReceived command => ["received " ++ command.name]
  | leftUnread command octets =>
      [command.name ++ s!" left {octets} octets unread"]
  | echoAhead lowerBits =>
      ["echoed timestamp " ++ Text.hexadecimal 4 lowerBits.toNat ++
        " is ahead of now"]
  | statistics metrics link =>
      metrics.lines ++ ["quality: " ++ link.describe]
  | stepPredicted id => ["predicted step " ++ stepText id]
  | refillRefused failure =>
      ["could not move pending steps: " ++ failure.message]
  | connectResponseIgnored stage =>
      ["ignoring connect response in state " ++ stage.text]
  | connected connectionId debugStreams =>
      [s!"connected with connection id {connectionId.toNat} " ++
        s!"(debug streams: {debugStreams})"]
  | joinResponseIgnored progress =>
      ["ignoring join response while " ++ progress.text]
  | joinNonceDiffers nonce requested =>
      ["join response nonce " ++ nonceText nonce ++
        " does not match request " ++
        Text.optional (requested.map UInt64.toNat)]
  | participantAssigned participant =>
      [s!"local participant {participant.localIndex.toNat} " ++
        s!"is participant {participant.id.toNat}"]
  | joined count connectionIndex =>
      [s!"joined game with {count} participant(s) " ++
        s!"on connection index {connectionIndex.toNat}"]
  | outOfSlots nonce =>
      ["server is out of participant slots (nonce " ++ nonceText nonce ++ ")"]
  | channelKnown channel =>
      ["download channel " ++ channelText channel ++ " is already known"]
  | downloadResponseIgnored stage progress =>
      ["ignoring download response in state " ++ stage.text ++ " (" ++
        progress.text ++ ")"]
  | snapshotTooLarge octets limit =>
      [s!"game state of {octets} octets exceeds the limit of {limit}"]
  | downloadStarted stepId octets channel =>
      ["downloading game state at step " ++ stepText stepId ++
        s!", {octets} octets on channel " ++ channelText channel]
  | chunksMissing waitingFor laterMask =>
      [s!"game state chunks waiting from ({waitingFor}, {laterMask.toNat})"]
  | chunkRepeated index => [s!"blob chunk {index.toNat} already received"]
  | downloadFinished octets stepId =>
      [s!"game state downloaded ({octets} octets at step " ++
        stepText stepId ++ "), synced"]
  | predictedAcknowledged id discarded =>
      ["server has predicted step " ++ stepText id ++
        s!", discarded {discarded}"]
  | stepRepeated id => ["authoritative step " ++ stepText id ++ " again"]
  | stepOutside id expected =>
      ["authoritative step " ++ stepText id ++
        " is outside the receive window at " ++ stepText expected]
  | stepsTaken stored released ready =>
      [s!"authoritative steps stored {stored}, " ++
        s!"completed {released}, waiting {ready}"]
  | sendingSteps count cursor expected =>
      [s!"sending {count} predicted steps from " ++ stepText cursor ++
        ", waiting for authoritative " ++ stepText expected]
  | connectRequested application protocolVersion =>
      ["connect request for application " ++ application.text ++
        " (protocol " ++ protocolVersion.text ++ ")"]
  | stateRequested requestId =>
      [s!"requesting game state ({requestId.toNat})"]
  | noJoinRequest => ["no join request assigned yet"]
  | health notice => [notice.text]

/-- The topic of repeated chunks, whichever session they belong to. -/
def chunkTopic : Topic :=
  ⟨"lockstep::net::blob"⟩

/-- The topic of the notices on a session's link. -/
def healthTopic (topic : Topic) : Topic :=
  topic.child "quality"

/-- Whose entry a notice becomes, in a session with the given topic. -/
def topic (session : Topic) : Notice → Topic
  | chunkRepeated _ => chunkTopic
  | health _ => healthTopic session
  | _ => session

/-- The notice as entries of the journal. -/
def entries (session : Topic) (notice : Notice) : List Entry :=
  notice.texts.map fun text => ⟨notice.level, notice.topic session, text⟩

end Notice

end StepSync.Session
