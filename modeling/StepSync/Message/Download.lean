import StepSync.Message.Command
import StepSync.Steps.Basic

namespace StepSync

/-!
# Announcing a download

A client that takes part asks for a snapshot of the game. The server announces
the snapshot's step and size and the channel on which its parts will come.
-/

/-- A wish for a snapshot; the number ties the answer to it. -/
structure DownloadRequest where
  requestId : UInt8
  deriving Repr, DecidableEq

namespace DownloadRequest

/-- The written form, command first. -/
def fields (request : DownloadRequest) : List Octets :=
  Command.downloadGameStateRequest.fields ++ [[request.requestId]]

/-- Take a request whose command was taken already. -/
def decode : Decoder DownloadRequest := do
  return ⟨← Decoder.octet⟩

end DownloadRequest

/-- The announcement of a snapshot. -/
structure DownloadResponse where
  requestId : UInt8
  stepId : StepId
  octetCount : UInt32
  channel : UInt16
  deriving Repr, DecidableEq

namespace DownloadResponse

/-- The written form, command first. -/
def fields (response : DownloadResponse) : List Octets :=
  Command.downloadGameStateResponse.fields ++
    [[response.requestId], Octets.ofWord32 response.stepId,
      Octets.ofWord32 response.octetCount, Octets.ofWord16 response.channel]

/-- Take a response whose command was taken already. -/
def decode : Decoder DownloadResponse := do
  let requestId ← Decoder.octet
  let stepId ← Decoder.word32
  let octetCount ← Decoder.word32
  let channel ← Decoder.word16
  return ⟨requestId, stepId, octetCount, channel⟩

end DownloadResponse

end StepSync
