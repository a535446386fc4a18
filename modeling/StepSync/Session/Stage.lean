namespace StepSync

/-!
# Stages of a session

A session goes from idle through the handshake, joining and the download of a
snapshot to synced; it may be disconnected from anywhere.
-/

/-- How far a session has come. -/
inductive Stage where
  | idle
  | requestingConnect
  | connected
  | requestingState
  | downloadingState
  | synced
  | disconnected
  deriving Repr, DecidableEq

namespace Stage

/-- The stage in words. -/
def text : Stage → String
  | idle => "idle"
  | requestingConnect => "requesting connect"
  | connected => "connected"
  | requestingState => "requesting game state"
  | downloadingState => "downloading game state"
  | synced => "synced"
  | disconnected => "disconnected"

end Stage

/-- How far the local players have come in joining. -/
inductive JoinProgress where
  | joining
  | joined
  | outOfSlots
  deriving Repr, DecidableEq

namespace JoinProgress

/-- The progress in words. -/
def text : JoinProgress → String
  | joining => "joining participant"
  | joined => "joined participant"
  | outOfSlots => "out of participant slots"

end JoinProgress

end StepSync
