import StepSync.Session.Stepping

namespace StepSync.Autoplay

/-!
# Playing without players

For trying out a server: every local participant makes the same kind of input on
every frame, and authoritative steps are only counted.
-/

/-- What the journal hears of an automatic game. -/
inductive Notice where
  | session (notice : Session.Notice)
  | aheadOfWanted (next wanted : StepId)
  | predictedFull
  | stepRead (step : Step)
  deriving Repr, DecidableEq

namespace Notice

/-- The topic of an automatic game. -/
def autoplayTopic : Topic :=
  ⟨"lockstep_demo"⟩

/-- The notice as entries of the journal. -/
def entries (topic : Topic) : Notice → List Entry
  | session notice => notice.entries topic
  | aheadOfWanted next wanted =>
      [⟨.trace, autoplayTopic,
        "predicted " ++ Session.Notice.stepText next ++ " is ahead of " ++
          Session.Notice.stepText wanted ++ ", skipping"⟩]
  | predictedFull =>
      [⟨.debug, autoplayTopic, "predicted step buffer is full"⟩]
  | stepRead step =>
      [⟨.info, autoplayTopic,
        "authoritative step " ++ Session.Notice.stepText step.id ++
          s!": {step.payload.length} octets"⟩]

end Notice

/-- The octet that announces the length of one participant's input. -/
def inputLength : UInt8 :=
  4

/--
The inputs of all participants on a frame: the participant, the length, and the
frame's number.
-/
def inputs (participants : List Participant) (frame : UInt32) : Octets :=
  participants.flatMap fun participant =>
    participant.id :: inputLength :: Octets.ofWord32 frame

/-- What one act of an automatic game leaves. -/
structure Act where
  session : Session
  notices : List Notice
  result : Except Refusal Unit

/--
Write the inputs of a frame, unless prediction is far enough ahead or the
queue is full.
-/
def predict (session : Session) (frame : UInt32) : Act :=
  let next := session.outbound.predicted.nextId
  match session.wantedPrediction.filter fun wanted => wanted < next with
  | some wanted => ⟨session, [.aheadOfWanted next wanted], .ok ()⟩
  | none =>
      if session.canPredict then
        let outcome :=
          Session.Action.predict (inputs session.participants frame) session
        ⟨outcome.session, outcome.notices.map Notice.session,
          outcome.result.map fun _ => ()⟩
      else ⟨session, [.predictedFull], .ok ()⟩

/-- Read authoritative steps until none is ready, at most so many. -/
def drainAtMost : Nat → Session → Session × List Notice
  | 0, session => (session, [])
  | count + 1, session =>
      let outcome := Session.Action.readStep session
      let notices := outcome.notices.map Notice.session
      match outcome.result with
      | .ok (some step) =>
          let (final, others) := drainAtMost count outcome.session
          (final, notices ++ .stepRead step :: others)
      | _ => (outcome.session, notices)

/-- Read authoritative steps until none is ready; no more can come than are held. -/
def drain (session : Session) : Session × List Notice :=
  drainAtMost (session.inbound.held + 1) session

end StepSync.Autoplay
