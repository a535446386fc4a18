import StepSync.Octets.Reader

namespace StepSync

/-!
# Commands

The octet in front of a message says what it is. A client's commands are below
`0x10`, a server's from `0x11` on.
-/

/-- What a message is. -/
inductive Command where
  | joinGameRequest
  | gameStep
  | downloadGameStateRequest
  | downloadGameStateStatus
  | connectRequest
  | joinGameResponse
  | gameStepResponse
  | downloadGameStateResponse
  | gameStatePart
  | connectResponse
  | joinGameOutOfParticipantSlots
  deriving Repr, DecidableEq

namespace Command

/-- The octet that stands for a command. -/
def code : Command → UInt8
  | joinGameRequest => 0x01
  | gameStep => 0x02
  | downloadGameStateRequest => 0x03
  | downloadGameStateStatus => 0x04
  | connectRequest => 0x05
  | joinGameResponse => 0x11
  | gameStepResponse => 0x12
  | downloadGameStateResponse => 0x13
  | gameStatePart => 0x14
  | connectResponse => 0x15
  | joinGameOutOfParticipantSlots => 0x16

/-- Every command, by its code. -/
def all : List Command :=
  [joinGameRequest, gameStep, downloadGameStateRequest,
    downloadGameStateStatus, connectRequest, joinGameResponse,
    gameStepResponse, downloadGameStateResponse, gameStatePart,
    connectResponse, joinGameOutOfParticipantSlots]

/-- The command that an octet stands for. -/
def ofCode? (octet : UInt8) : Option Command :=
  all.find? fun command => command.code == octet

/-- The command's name. -/
def name : Command → String
  | joinGameRequest => "JoinGameRequest"
  | gameStep => "GameStep"
  | downloadGameStateRequest => "DownloadGameStateRequest"
  | downloadGameStateStatus => "DownloadGameStateStatus"
  | connectRequest => "ConnectRequest"
  | joinGameResponse => "JoinGameResponse"
  | gameStepResponse => "GameStepResponse"
  | downloadGameStateResponse => "DownloadGameStateResponse"
  | gameStatePart => "GameStatePart"
  | connectResponse => "ConnectResponse"
  | joinGameOutOfParticipantSlots => "JoinGameOutOfParticipantSlots"

/-- The written form of a command: one field of one octet. -/
def fields (command : Command) : List Octets :=
  [[command.code]]

/-- A command is found again by its code. -/
theorem ofCode?_code (command : Command) :
    ofCode? command.code = some command := by
  cases command <;> rfl

/-- Only its own code stands for a command. -/
theorem code_of_ofCode?
    {octet : UInt8}
    {command : Command}
    (found : ofCode? octet = some command) :
    command.code = octet := by
  have matched := List.find?_some found
  simpa using matched

end Command

end StepSync
