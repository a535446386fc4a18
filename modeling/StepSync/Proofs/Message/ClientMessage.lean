import StepSync.Datagram.Limits
import StepSync.Message.Download
import StepSync.Message.Handshake
import StepSync.Message.Join
import StepSync.Proofs.Message.StepRun
import StepSync.Proofs.Steps.Window

namespace StepSync

/-!
# What a client says

A client has five things to say, each under a command of its own.  Who takes the
command and goes on with the decoder that belongs to it gets the message back, and
nothing is left (`ClientMessage.reads_octets`).  For that the message has to be
`Writable`: its lengths fit the octets in which they are written.
-/

open Decoder

/-- A message from a client to the server. -/
inductive ClientMessage where
  | connect (request : ConnectRequest)
  | join (request : JoinRequest)
  | requestState (request : DownloadRequest)
  | downloadStatus (channel : UInt16) (waitingFor : Nat) (laterMask : UInt64)
  | steps (expected : StepId) (laterMask : UInt64) (run : List Step)
  deriving Repr, DecidableEq

/-- A version is read back. -/
theorem Version.reads_fields (version : Version) :
    decode.Reads version.fields.flatten version := by
  have reads :
      decode.Reads
        (Octets.ofWord16 version.major ++
          (Octets.ofWord16 version.minor ++ Octets.ofWord16 version.patch))
        version :=
    (Reads.word16 _).bind
      ((Reads.word16 _).bind ((Reads.word16 _).map (Version.mk _ _)))
  simpa [fields] using reads

/-- Octets that are written one by one. -/
theorem Octets.flatten_singles (octets : Octets) :
    (octets.map fun octet => [octet]).flatten = octets := by
  rw [← List.flatMap_def, List.flatMap_singleton']

/-- Of a connect request only the options with a meaning are read. -/
theorem ConnectRequest.reads_body (request : ConnectRequest) :
    decode.Reads
      (request.protocolVersion.fields.flatten ++
        (request.applicationVersion.fields.flatten ++ [request.flags.bits]))
      { request with flags := .ofBits request.flags.bits } := by
  have flags :
      ConnectFlags.decode.Reads [request.flags.bits]
        (.ofBits request.flags.bits) :=
    (Reads.octet _).map ConnectFlags.ofBits
  exact (Version.reads_fields _).bind
    ((Version.reads_fields _).bind (flags.map (ConnectRequest.mk _ _)))

/-- A join request is read back if its players can be counted in an octet. -/
theorem JoinRequest.reads_body
    {request : JoinRequest}
    (few : request.localIndices.length < UInt8.size) :
    decode.Reads
      (Octets.ofWord64 request.nonce ++
        ([UInt8.ofNat request.localIndices.length] ++ request.localIndices))
      request := by
  have count :
      (UInt8.ofNat request.localIndices.length).toNat =
        request.localIndices.length :=
    UInt8.toNat_ofNat_of_lt' few
  have indices :
      (Decoder.octets
          (UInt8.ofNat request.localIndices.length).toNat).Reads
        request.localIndices request.localIndices := by
    rw [count]
    exact Reads.octets _
  exact (Reads.word64 _).bind
    ((Reads.octet _).bind (indices.map (JoinRequest.mk _)))

namespace StepRun

/-- The written form of consecutive steps. -/
def fieldsOf (run : List Step) : List Octets :=
  fields (run.head?.elim 0 Step.id) (run.map Step.payload)

theorem fieldsOf_number (first : StepId) (payloads : List Octets) :
    fieldsOf (number first payloads) = fields first payloads := by
  rw [fieldsOf, payloads_number]
  cases payloads with
  | nil => rfl
  | cons payload payloads => rfl

/--
Consecutive steps whose number and lengths fit the octets they are written in.
-/
def Writable (run : List Step) : Prop :=
  ∃ first payloads,
    run = number first payloads ∧ payloads.length < UInt8.size ∧
      ∀ payload ∈ payloads, payload.length < UInt16.size

end StepRun

namespace ClientMessage

/-- The written form, command first. -/
def fields : ClientMessage → List Octets
  | connect request => request.fields
  | join request => request.fields
  | requestState request => request.fields
  | downloadStatus channel waitingFor laterMask =>
      Command.downloadGameStateStatus.fields ++
        [Octets.ofWord16 channel, Octets.ofWord32 (UInt32.ofNat waitingFor),
          Octets.ofWord64 laterMask]
  | steps expected laterMask run =>
      Command.gameStep.fields ++
        [Octets.ofWord32 expected, Octets.ofWord64 laterMask] ++
        StepRun.fieldsOf run

/-- The octets of a message, command first. -/
def octets (message : ClientMessage) : Octets :=
  message.fields.flatten

/-- The octets that a message takes. -/
theorem length_octets (message : ClientMessage) :
    message.octets.length =
      match message with
      | connect _ => 14
      | join request => 10 + request.localIndices.length
      | requestState _ => 2
      | downloadStatus _ _ _ => 15
      | steps _ _ run => 13 + (StepRun.fieldsOf run).flatten.length := by
  cases message with
  | connect request =>
      simp [octets, fields, ConnectRequest.fields, Command.fields,
        Version.fields]
  | join request =>
      simp [octets, fields, JoinRequest.fields, Command.fields,
        Octets.flatten_singles]
      omega
  | requestState request =>
      simp [octets, fields, DownloadRequest.fields, Command.fields]
  | downloadStatus channel waitingFor laterMask =>
      simp [octets, fields, Command.fields]
  | steps expected laterMask run =>
      simp [octets, fields, Command.fields, -List.length_flatten]
      omega

theorem octets_ne_nil (message : ClientMessage) : message.octets ≠ [] := by
  intro empty
  have length := message.length_octets
  rw [empty, List.length_nil] at length
  cases message <;> simp only at length <;> omega

/--
Take the message behind a command; no client has a message under a
server's command.
-/
def decodeBehind : Command → Decoder (Option ClientMessage)
  | .connectRequest => do return some (connect (← ConnectRequest.decode))
  | .joinGameRequest => do return some (join (← JoinRequest.decode))
  | .downloadGameStateRequest => do
      return some (requestState (← DownloadRequest.decode))
  | .downloadGameStateStatus => do
      let channel ← Decoder.word16
      let waitingFor ← Decoder.word32
      let laterMask ← Decoder.word64
      return some (downloadStatus channel waitingFor.toNat laterMask)
  | .gameStep => do
      let expected ← Decoder.word32
      let laterMask ← Decoder.word64
      let run ← StepRun.decode
      return some (steps expected laterMask run)
  | .joinGameResponse | .gameStepResponse | .downloadGameStateResponse
  | .gameStatePart | .connectResponse | .joinGameOutOfParticipantSlots =>
      return none

/-- Take a command and the message behind it. -/
def decode : Decoder (Option ClientMessage) := do
  match Command.ofCode? (← Decoder.octet) with
  | some command => decodeBehind command
  | none => return none

/--
The message of a datagram, behind the header that it has within a
connection or outside.
-/
def ofDatagram? : Octets → Option ClientMessage
  | [] => none
  | id :: rest =>
      let header := if id = noConnectionId then 4 else 8
      match decode (Reader.ofOctets (rest.drop header)) with
      | (.ok message?, _) => message?
      | (.error _, _) => none

/-- The message fits the octets in which its lengths and options are written. -/
def Writable : ClientMessage → Prop
  | connect request =>
      ConnectFlags.ofBits request.flags.bits = request.flags
  | join request => request.localIndices.length < UInt8.size
  | requestState _ => True
  | downloadStatus _ waitingFor _ => waitingFor < UInt32.size
  | steps _ _ run => StepRun.Writable run

/-- A message is read by the decoder of the command in front of it. -/
theorem reads_behind
    (command : Command)
    {written : Octets}
    {message : ClientMessage}
    (reads : (decodeBehind command).Reads written (some message)) :
    decode.Reads ([command.code] ++ written) (some message) := by
  refine (Reads.octet command.code).bind ?_
  rw [Command.ofCode?_code]
  exact reads

/-- A connect request is read back if all of its option bits have a meaning. -/
theorem reads_connect
    {request : ConnectRequest}
    (known : ConnectFlags.ofBits request.flags.bits = request.flags) :
    decode.Reads (connect request).octets (some (connect request)) := by
  have body := request.reads_body
  rw [known] at body
  have reads := reads_behind .connectRequest
    (body.map (some ∘ connect))
  simpa [octets, fields, ConnectRequest.fields, Command.fields] using reads

/-- A join request is read back if its players can be counted in an octet. -/
theorem reads_join
    {request : JoinRequest}
    (few : request.localIndices.length < UInt8.size) :
    decode.Reads (join request).octets (some (join request)) := by
  have reads := reads_behind .joinGameRequest
    ((JoinRequest.reads_body few).map (some ∘ join))
  simpa [octets, fields, JoinRequest.fields, Command.fields,
    Octets.flatten_singles] using reads

theorem reads_requestState (request : DownloadRequest) :
    decode.Reads (requestState request).octets
      (some (requestState request)) := by
  have body : DownloadRequest.decode.Reads [request.requestId] request :=
    (Reads.octet _).map DownloadRequest.mk
  have reads := reads_behind .downloadGameStateRequest
    (body.map (some ∘ requestState))
  simpa [octets, fields, DownloadRequest.fields, Command.fields] using reads

/-- A status is read back if the awaited index fits a word. -/
theorem reads_downloadStatus
    (channel : UInt16)
    {waitingFor : Nat}
    (laterMask : UInt64)
    (small : waitingFor < UInt32.size) :
    decode.Reads (downloadStatus channel waitingFor laterMask).octets
      (some (downloadStatus channel waitingFor laterMask)) := by
  have number : (UInt32.ofNat waitingFor).toNat = waitingFor :=
    UInt32.toNat_ofNat_of_lt' small
  have body :
      (decodeBehind .downloadGameStateStatus).Reads
        (Octets.ofWord16 channel ++
          (Octets.ofWord32 (UInt32.ofNat waitingFor) ++
            Octets.ofWord64 laterMask))
        (some (downloadStatus channel (UInt32.ofNat waitingFor).toNat
          laterMask)) :=
    (Reads.word16 _).bind
      ((Reads.word32 _).bind
        ((Reads.word64 _).map (some ∘ downloadStatus _ _)))
  rw [number] at body
  simpa [octets, fields, Command.fields] using reads_behind _ body

/-- Steps are read back if the run can be written. -/
theorem reads_steps
    (expected : StepId)
    (laterMask : UInt64)
    {run : List Step}
    (writable : StepRun.Writable run) :
    decode.Reads (steps expected laterMask run).octets
      (some (steps expected laterMask run)) := by
  obtain ⟨first, payloads, rfl, few, short⟩ := writable
  have body :
      (decodeBehind .gameStep).Reads
        (Octets.ofWord32 expected ++
          (Octets.ofWord64 laterMask ++
            (StepRun.fields first payloads).flatten))
        (some (steps expected laterMask (StepRun.number first payloads))) :=
    (Reads.word32 _).bind
      ((Reads.word64 _).bind
        ((StepRun.reads_fields first few short).map (some ∘ steps _ _)))
  simpa [octets, fields, Command.fields, StepRun.fieldsOf_number] using
    reads_behind _ body

/-- A message is read back, and nothing of it is left. -/
theorem reads_octets
    {message : ClientMessage}
    (writable : message.Writable) :
    decode.Reads message.octets (some message) := by
  cases message with
  | connect request => exact reads_connect writable
  | join request => exact reads_join writable
  | requestState request => exact reads_requestState request
  | downloadStatus channel waitingFor laterMask =>
      exact reads_downloadStatus channel laterMask writable
  | steps expected laterMask run => exact reads_steps expected laterMask writable

end ClientMessage

end StepSync
