import StepSync.Datagram.Limits
import StepSync.Journal.Basic
import StepSync.Message.Version
import StepSync.Steps.Redundancy

namespace StepSync

/-!
# Settings of a session

The application hands in its settings as machine words. Values that a session can
not work with are brought into range instead of being refused: a step must be so
short that a datagram holds three of the longest ones.

The length of a step is computed in 64-bit words.  Where it does not fit one,
settings can not be brought into range, and there is no session with them
(`clamp?`).
-/

/-- What the application chooses. -/
structure Settings where
  applicationVersion : Version
  participants : UInt64
  participantOctets : UInt64
  tickDuration : UInt64
  tickTolerance : UInt64
  predictedSteps : UInt64
  snapshotOctets : UInt64
  debugStreams : Bool
  topic : Topic
  deriving Repr, DecidableEq

namespace Settings

/--
The octets of a step datagram around its payloads: header, command,
acknowledgement, and the run's length and first id.
-/
def datagramOverhead : Nat :=
  (1 + 4 + 2 + 2) + 1 + (4 + 8) + Redundancy.runOverhead

/-- The most octets of one step such that a datagram holds every copy in flight. -/
def longestStep : UInt64 :=
  UInt64.ofNat
    ((mostDatagramOctets - datagramOverhead) / Redundancy.copies -
      Redundancy.payloadOverhead)

/-- The octets in front of one participant's part of a step. -/
def participantOverhead : UInt64 :=
  2

/-- The fewest predicted steps that a session holds: the copies in flight. -/
def fewestPredictedSteps : UInt64 :=
  UInt64.ofNat Redundancy.copies

/-- A tick's duration where none is given, in milliseconds. -/
def standardTickDuration : UInt64 :=
  16

/-- The settings of an application that chooses nothing. -/
def standard : Settings where
  applicationVersion := ⟨0, 0, 0⟩
  participants := UInt64.ofNat mostLocalParticipants
  participantOctets := 32
  tickDuration := standardTickDuration
  tickTolerance := 4
  predictedSteps := 64
  snapshotOctets := 4 * 1024 * 1024
  debugStreams := false
  topic := Topic.standard

/-- The most octets of a step, one part for each participant. -/
def stepOctets (settings : Settings) : Nat :=
  settings.participants.toNat *
    (settings.participantOctets.toNat + participantOverhead.toNat)

/-- A number as a word, if it fits one. -/
def word? (number : Nat) : Option UInt64 :=
  if number < UInt64.size then some (UInt64.ofNat number) else none

/--
The most octets of a step in words: first those of one part, then those of all.
-/
def stepOctets? (settings : Settings) : Option UInt64 := do
  let part ← word? (settings.participantOctets.toNat + participantOverhead.toNat)
  word? (settings.participants.toNat * part.toNat)

/-- What was brought into range. -/
inductive Notice where
  | participants (given : UInt64)
  | participantOctets (given participants clamped : UInt64)
  | tickDuration
  | predictedSteps (given : UInt64)
  deriving Repr, DecidableEq

namespace Notice

/-- The notice in words. -/
def text : Notice → String
  | participants given =>
      s!"max participants {given.toNat} is out of range, " ++
        s!"using {mostLocalParticipants}"
  | participantOctets given count clamped =>
      s!"step of {given.toNat} octets for {count.toNat} participants " ++
        s!"can not fit a datagram, clamping participant payload to {clamped.toNat}"
  | tickDuration =>
      s!"expected tick duration can not be zero, " ++
        s!"using {standardTickDuration.toNat} ms"
  | predictedSteps given =>
      s!"predicted step capacity {given.toNat} is below the redundancy window"

/-- The notice as an entry of the journal. -/
def entry (topic : Topic) (notice : Notice) : Entry :=
  ⟨.warn, topic, notice.text⟩

end Notice

/-- Bring the number of participants into range. -/
def clampParticipants (settings : Settings) : Settings × List Notice :=
  if settings.participants = 0 ∨
      UInt64.ofNat mostLocalParticipants < settings.participants then
    ({ settings with participants := UInt64.ofNat mostLocalParticipants },
      [.participants settings.participants])
  else (settings, [])

/-- Shorten a participant's part until a step fits. -/
def clampStepOctets (settings : Settings) : Settings × List Notice :=
  if longestStep.toNat < settings.stepOctets then
    let clamped :=
      longestStep / settings.participants - participantOverhead
    ({ settings with participantOctets := clamped },
      [.participantOctets settings.participantOctets settings.participants
        clamped])
  else (settings, [])

/-- Replace a tick without duration. -/
def clampTickDuration (settings : Settings) : Settings × List Notice :=
  if settings.tickDuration = 0 then
    ({ settings with tickDuration := standardTickDuration },
      [.tickDuration])
  else (settings, [])

/-- Make room for the copies in flight. -/
def clampPredictedSteps (settings : Settings) : Settings × List Notice :=
  if settings.predictedSteps < fewestPredictedSteps then
    ({ settings with predictedSteps := fewestPredictedSteps },
      [.predictedSteps settings.predictedSteps])
  else (settings, [])

/--
The settings with every value in range, and what had to be changed.  A length is a
number of any size here.
-/
def clamp (settings : Settings) : Settings × List Notice :=
  let (first, firstNotices) := settings.clampParticipants
  let (second, secondNotices) := first.clampStepOctets
  let (third, thirdNotices) := second.clampTickDuration
  let (fourth, fourthNotices) := third.clampPredictedSteps
  (fourth,
    firstNotices ++ secondNotices ++ thirdNotices ++ fourthNotices)

/--
The settings with every value in range, if the length of a step can be computed
once their participants are in range.
-/
def clamp? (settings : Settings) : Option (Settings × List Notice) :=
  settings.clampParticipants.1.stepOctets?.map fun _ => settings.clamp

end Settings

end StepSync
