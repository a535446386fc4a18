import StepSync.Message.Command
import StepSync.Message.Version

namespace StepSync

/-!
# Handshake

A client asks for a connection with its versions and wishes; the server answers
with the id and the secret of the connection.
-/

/-- A set of connection options, one bit each. -/
structure ConnectFlags where
  bits : UInt8
  deriving Repr, DecidableEq

namespace ConnectFlags

/-- No option. -/
def none : ConnectFlags :=
  ⟨0⟩

/-- The only option there is: debug streams are used. -/
def debugStreams : ConnectFlags :=
  ⟨1⟩

/-- The options with a meaning; bits without one are dropped. -/
def ofBits (bits : UInt8) : ConnectFlags :=
  ⟨bits &&& debugStreams.bits⟩

/-- Debug streams are among the options. -/
def usesDebugStreams (flags : ConnectFlags) : Bool :=
  flags.bits &&& debugStreams.bits == debugStreams.bits

/-- Take options. -/
def decode : Decoder ConnectFlags := do
  return ofBits (← Decoder.octet)

end ConnectFlags

/-- A client's wish to connect. -/
structure ConnectRequest where
  protocolVersion : Version
  applicationVersion : Version
  flags : ConnectFlags
  deriving Repr, DecidableEq

namespace ConnectRequest

/-- The written form, command first. -/
def fields (request : ConnectRequest) : List Octets :=
  Command.connectRequest.fields ++ request.protocolVersion.fields ++
    request.applicationVersion.fields ++ [[request.flags.bits]]

/-- Take a request whose command was taken already. -/
def decode : Decoder ConnectRequest := do
  let protocolVersion ← Version.decode
  let applicationVersion ← Version.decode
  let flags ← ConnectFlags.decode
  return ⟨protocolVersion, applicationVersion, flags⟩

end ConnectRequest

/-- The server's answer: the connection's id, its options and its secret. -/
structure ConnectResponse where
  connectionId : UInt8
  flags : ConnectFlags
  secret : UInt64
  deriving Repr, DecidableEq

namespace ConnectResponse

/-- The written form, command first. -/
def fields (response : ConnectResponse) : List Octets :=
  Command.connectResponse.fields ++
    [[response.connectionId], [response.flags.bits],
      Octets.ofWord64 response.secret]

/-- Take a response whose command was taken already. -/
def decode : Decoder ConnectResponse := do
  let connectionId ← Decoder.octet
  let flags ← ConnectFlags.decode
  let secret ← Decoder.word64
  return ⟨connectionId, flags, secret⟩

end ConnectResponse

end StepSync
