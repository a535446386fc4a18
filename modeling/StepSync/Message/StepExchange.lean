import StepSync.Message.Command
import StepSync.Steps.Basic

namespace StepSync

/-!
# Exchanging steps

In both directions steps travel in runs of consecutive ids, of which only the
first is written. The server's runs follow a report on what it has received.

A run is written as its length in one octet, the first id unless the run is
empty, and each payload behind its length in two octets; of a greater length the
low bits are written, and all payloads and octets follow.
-/

/-- The server's report in front of authoritative steps. -/
structure StepReport where
  bufferCount : UInt8
  bufferDelta : Int8
  echoedTime : UInt16
  lastPredicted : StepId
  deriving Repr, DecidableEq

namespace StepReport

/-- The written form, command first. -/
def fields (report : StepReport) : List Octets :=
  Command.gameStepResponse.fields ++
    [[report.bufferCount], [report.bufferDelta.toUInt8],
      Octets.ofWord16 report.echoedTime,
      Octets.ofWord32 report.lastPredicted]

/-- Take a report whose command was taken already. -/
def decode : Decoder StepReport := do
  let bufferCount ← Decoder.octet
  let bufferDelta ← Decoder.signedOctet
  let echoedTime ← Decoder.word16
  let lastPredicted ← Decoder.word32
  return ⟨bufferCount, bufferDelta, echoedTime, lastPredicted⟩

end StepReport

namespace StepRun

/-- The written form of one payload. -/
def payloadFields (payload : Octets) : List Octets :=
  [Octets.ofWord16 (UInt16.ofNat payload.length), payload]

/-- The written form of a run of payloads whose ids count up from the first. -/
def fields (first : StepId) : List Octets → List Octets
  | [] => [[0]]
  | payloads =>
      [UInt8.ofNat payloads.length] :: Octets.ofWord32 first ::
        payloads.flatMap payloadFields

/-- Take one payload. -/
def decodePayload : Decoder Octets := do
  let length ← Decoder.word16
  Decoder.octets length.toNat

/-- Number payloads from the first id on, wrapping around. -/
def number (first : StepId) : List Octets → List Step
  | [] => []
  | payload :: payloads => ⟨first, payload⟩ :: number (first + 1) payloads

/-- Take a run of steps. -/
def decode : Decoder (List Step) := do
  let count ← Decoder.octet
  if count = 0 then return []
  else
    let first ← Decoder.word32
    let payloads ← Decoder.times count.toNat decodePayload
    return number first payloads

end StepRun

end StepSync
