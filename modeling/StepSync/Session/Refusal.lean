import StepSync.Download.Chunk
import StepSync.Steps.Basic
import StepSync.Text.Listing

namespace StepSync

/-!
# Refusals

Why a session refuses a datagram or a call, and failures of the transport. Only
the latter end a tick; a refused datagram is dropped and the session carries on.
-/

/-- Why a well-formed message was not expected. -/
inductive Unexpected where
  | clientCommand
  | noConnectionId
  | otherRequest
  | snapshotTooLarge
  | partWithoutDownload
  | partOnOtherChannel
  deriving Repr, DecidableEq

namespace Unexpected

/-- The cause in words. -/
def message : Unexpected → String
  | clientCommand => "client command received from server"
  | noConnectionId => "connect response without connection id"
  | otherRequest => "download response for another request"
  | snapshotTooLarge => "game state larger than allowed"
  | partWithoutDownload => "game state part without download"
  | partOnOtherChannel => "game state part on another channel"

end Unexpected

/-- Why something was refused. -/
inductive Refusal where
  | transport (failure : String)
  | tooShort (octets : Nat)
  | foreign (expected : Option UInt8) (found : UInt8)
  | disconnected
  | brokenSeal
  | stale (distance : Int)
  | unknownCommand (code : UInt8)
  | outOfBand (code : UInt8)
  | malformed (failure : CursorError)
  | tooManyParticipants (count : Nat)
  | unexpected (cause : Unexpected)
  | predictedFull
  | stepTooLarge (size limit : Nat)
  | chunk (failure : ChunkError)
  | step (failure : StepError)
  deriving Repr, DecidableEq

namespace Refusal

/-- The refusal in words. -/
def message : Refusal → String
  | transport failure => "transport failed: " ++ failure
  | tooShort octets =>
      s!"datagram of {octets} octets is shorter than the header"
  | foreign expected found =>
      "datagram for connection " ++ toString found.toNat ++
        " while assigned " ++ Text.optional (expected.map UInt8.toNat)
  | disconnected => "session is disconnected"
  | brokenSeal => "integrity tag does not match connection"
  | stale distance =>
      s!"duplicate or reordered datagram (delta {distance})"
  | unknownCommand code => "unknown command " ++ Text.markedOctet code
  | outOfBand code =>
      "command " ++ Text.markedOctet code ++ " is not accepted out of band"
  | malformed failure => "malformed message: " ++ failure.message
  | tooManyParticipants count =>
      s!"server reported {count} participants, more than supported"
  | unexpected cause => "unexpected response: " ++ cause.message
  | predictedFull => "predicted step buffer is full"
  | stepTooLarge size limit =>
      s!"step of {size} octets exceeds limit of {limit}"
  | chunk failure => "state download failed: " ++ failure.message
  | step failure => failure.message

/-- The transport failed, which ends the tick. -/
def isTransport : Refusal → Bool
  | transport _ => true
  | _ => false

end Refusal

end StepSync
