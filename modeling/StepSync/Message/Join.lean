import StepSync.Message.Command

namespace StepSync

/-!
# Joining

A connected client asks for its local players to take part; the server answers
with one participant for each, or says that it has no slots left. A nonce ties
an answer to its request.

A list is written behind its length in one octet: of a longer list the length
keeps its low eight bits, and all entries are written.
-/

/-- A wish that local players take part. -/
structure JoinRequest where
  nonce : UInt64
  localIndices : Octets
  deriving Repr, DecidableEq

namespace JoinRequest

/-- The written form, command first. -/
def fields (request : JoinRequest) : List Octets :=
  Command.joinGameRequest.fields ++
    [Octets.ofWord64 request.nonce,
      [UInt8.ofNat request.localIndices.length]] ++
    request.localIndices.map fun index => [index]

/-- Take a request whose command was taken already. -/
def decode : Decoder JoinRequest := do
  let nonce ← Decoder.word64
  let count ← Decoder.octet
  let localIndices ← Decoder.octets count.toNat
  return ⟨nonce, localIndices⟩

end JoinRequest

/-- A local player and the participant it has become. -/
structure Participant where
  localIndex : UInt8
  id : UInt8
  deriving Repr, DecidableEq

namespace Participant

/-- The written form: two fields of one octet. -/
def fields (participant : Participant) : List Octets :=
  [[participant.localIndex], [participant.id]]

/-- Take a participant. -/
def decode : Decoder Participant := do
  let localIndex ← Decoder.octet
  let id ← Decoder.octet
  return ⟨localIndex, id⟩

end Participant

/-- The server's answer to a join request. -/
structure JoinResponse where
  nonce : UInt64
  connectionIndex : UInt8
  sessionSecret : UInt64
  participants : List Participant
  deriving Repr, DecidableEq

namespace JoinResponse

/-- The written form, command first. -/
def fields (response : JoinResponse) : List Octets :=
  Command.joinGameResponse.fields ++
    [Octets.ofWord64 response.nonce, [response.connectionIndex],
      Octets.ofWord64 response.sessionSecret,
      [UInt8.ofNat response.participants.length]] ++
    response.participants.flatMap Participant.fields

/-- Take a response whose command was taken already. -/
def decode : Decoder JoinResponse := do
  let nonce ← Decoder.word64
  let connectionIndex ← Decoder.octet
  let sessionSecret ← Decoder.word64
  let count ← Decoder.octet
  let participants ← Decoder.times count.toNat Participant.decode
  return ⟨nonce, connectionIndex, sessionSecret, participants⟩

end JoinResponse

/-- The server's answer that no slot is left. -/
structure OutOfSlots where
  nonce : UInt64
  deriving Repr, DecidableEq

namespace OutOfSlots

/-- The written form, command first. -/
def fields (answer : OutOfSlots) : List Octets :=
  Command.joinGameOutOfParticipantSlots.fields ++
    [Octets.ofWord64 answer.nonce]

/-- Take an answer whose command was taken already. -/
def decode : Decoder OutOfSlots := do
  return ⟨← Decoder.word64⟩

end OutOfSlots

end StepSync
