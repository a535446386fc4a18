import StepSync.Proofs.Message.ClientMessage
import StepSync.Proofs.Message.ServerMessage
import StepSync.Proofs.Octets.Canonical

namespace StepSync

/-!
# Formats of messages

A `Format` puts the writing and the reading of one kind of message side by side.
It is `Lawful` when the two undo each other: what is written is read back and ends
where it ends, a cut message is missed, and whatever is read was written that way,
up to option bits without a meaning.  `formats_lawful` goes through the formats
one by one; `Format.lawful` says what each has to bring.
-/

open Decoder

/-- How the messages of one kind are written and read. -/
structure Format (Message : Type) where
  /-- The command in front of a message, which is taken before the message is. -/
  command : Option Command := none
  fields : Message → List Octets
  decode : Decoder Message
  /-- Its lists can be counted in an octet, and its options have a meaning. -/
  Writable : Message → Prop := fun _ => True
  /-- The place of the octet of options, behind the command. -/
  optionsAt : Option Nat := none

namespace Format

variable {Message : Type}

/-- The octets in front of every message of the kind. -/
def heading (format : Format Message) : Octets :=
  format.command.elim [] fun command => [command.code]

/-- A written message. -/
def encoding (format : Format Message) (message : Message) : Octets :=
  (format.fields message).flatten

/-- A written message without the command in front. -/
def body (format : Format Message) (message : Message) : Octets :=
  (format.encoding message).drop format.heading.length

/-- The octets of a message, without the option bits that have no meaning. -/
def cleared (format : Format Message) (octets : Octets) : Octets :=
  format.optionsAt.elim octets fun place =>
    octets.modify place fun bits => (ConnectFlags.ofBits bits).bits

/-- Writing and reading undo each other, and a message says where it ends. -/
structure Lawful (format : Format Message) : Prop where
  headed :
    ∀ message,
      format.encoding message = format.heading ++ format.body message
  /-- Who has room for the whole message writes it, and nobody else does. -/
  written :
    ∀ (writer : Writer) message,
      writer.octets.length ≤ writer.capacity →
        if (format.encoding message).length ≤ writer.remaining then
          writer.putAll (format.fields message) =
            (.ok (), { writer with
              octets := writer.octets ++ format.encoding message })
        else
          ∃ place wanted,
            (writer.putAll (format.fields message)).1 =
              .error (.overflow place wanted writer.capacity)
  /-- A written message is read back from whatever follows it. -/
  restored :
    ∀ message,
      format.Writable message →
        format.decode.Reads (format.body message) message
  /-- A message that was cut is missed. -/
  missed :
    ∀ message beginning position,
      format.Writable message →
        beginning <+: format.body message →
          beginning ≠ format.body message →
            ∃ place wanted,
              (format.decode ⟨position, beginning⟩).1 =
                .error (.underflow place wanted (position + beginning.length))
  /-- What is read is what would have been written. -/
  canonical :
    ∀ reader message after,
      format.decode reader = (.ok message, after) →
        ∃ taken,
          reader.rest = taken ++ after.rest ∧
            after.position = reader.position + taken.length ∧
            format.Writable message ∧
            format.encoding message =
              format.heading ++ format.cleared taken

/-- A format whose form is read back, and which accepts only its form, is lawful. -/
theorem lawful
    {format : Format Message}
    (form : Message → Octets)
    (headed :
      ∀ message, format.encoding message = format.heading ++ form message)
    (restored :
      ∀ message,
        format.Writable message → format.decode.Reads (form message) message)
    (accepts :
      format.decode.Accepts fun message octets =>
        form message = format.cleared octets ∧ format.Writable message) :
    format.Lawful := by
  have body : ∀ message, format.body message = form message := by
    intro message
    rw [Format.body, headed, List.drop_left]
  constructor
  case headed =>
    intro message
    rw [body, headed]
  case written =>
    intro writer message proper
    split
    case isTrue fits =>
      refine Writer.putAll_eq_ok ?_
      rw [Writer.remaining] at fits
      rw [encoding] at fits
      omega
    case isFalse long =>
      exact Writer.putAll_eq_overflow (Nat.lt_of_not_le long)
  case restored =>
    intro message writable
    rw [body]
    exact restored message writable
  case missed =>
    intro message beginning position writable
    rw [body]
    intro begins shorter
    exact accepts.misses_beginning (restored message writable) begins shorter
      position
  case canonical =>
    intro reader message after finds
    obtain ⟨taken, inFront, reads, same, writable⟩ := accepts.taken finds
    refine ⟨taken, inFront, ?_, writable, ?_⟩
    · rw [reads.after_eq inFront finds]
    · rw [headed, same]

end Format

/-- A version is read from its own written form only. -/
theorem Version.accepts_fields :
    decode.Accepts fun version octets => octets = version.fields.flatten := by
  refine (Accepts.word16.bind fun _ => Accepts.word16.bind fun _ =>
    Accepts.word16.map (Version.mk _ _)).mono ?_
  rintro _ _ ⟨major, _, _, rfl, rfl, minor, _, _, rfl, rfl, patch, rfl, rfl⟩
  rfl

/-- Flags are read from any octet, and from each what its known bits say. -/
theorem ConnectFlags.accepts :
    decode.Accepts fun flags octets =>
      ∃ bits, flags = .ofBits bits ∧ octets = [bits] :=
  Accepts.octet.map ConnectFlags.ofBits

/-- Options with a meaning stay when the others are dropped. -/
theorem ConnectFlags.ofBits_ofBits (bits : UInt8) :
    ConnectFlags.ofBits (ConnectFlags.ofBits bits).bits = .ofBits bits := by
  rw [ofBits, ofBits, UInt8.and_assoc, UInt8.and_self]

/-- A participant is read from its own written form only. -/
theorem Participant.accepts_fields :
    decode.Accepts fun participant octets =>
      octets = participant.fields.flatten := by
  refine (Accepts.octet.bind fun _ =>
    Accepts.octet.map (Participant.mk _)).mono ?_
  rintro _ _ ⟨localIndex, _, _, rfl, rfl, id, rfl, rfl⟩
  rfl

/-- The octet in which a list is counted tells its length, and the list is short. -/
theorem Octets.count_of_length
    {Entry : Type}
    {count : UInt8}
    {entries : List Entry}
    (counted : entries.length = count.toNat) :
    [UInt8.ofNat entries.length] = [count] ∧
      entries.length < UInt8.size := by
  rw [counted, UInt8.ofNat_toNat]
  exact ⟨rfl, count.toNat_lt⟩

def Version.format : Format Version where
  fields := Version.fields
  decode := Version.decode

def ConnectRequest.format : Format ConnectRequest where
  command := some .connectRequest
  fields := ConnectRequest.fields
  decode := ConnectRequest.decode
  Writable request := ConnectFlags.ofBits request.flags.bits = request.flags
  optionsAt := some 12

def ConnectResponse.format : Format ConnectResponse where
  command := some .connectResponse
  fields := ConnectResponse.fields
  decode := ConnectResponse.decode
  Writable response := ConnectFlags.ofBits response.flags.bits = response.flags
  optionsAt := some 1

def JoinRequest.format : Format JoinRequest where
  command := some .joinGameRequest
  fields := JoinRequest.fields
  decode := JoinRequest.decode
  Writable request := request.localIndices.length < UInt8.size

def JoinResponse.format : Format JoinResponse where
  command := some .joinGameResponse
  fields := JoinResponse.fields
  decode := JoinResponse.decode
  Writable response := response.participants.length < UInt8.size

def OutOfSlots.format : Format OutOfSlots where
  command := some .joinGameOutOfParticipantSlots
  fields := OutOfSlots.fields
  decode := OutOfSlots.decode

def DownloadRequest.format : Format DownloadRequest where
  command := some .downloadGameStateRequest
  fields := DownloadRequest.fields
  decode := DownloadRequest.decode

def DownloadResponse.format : Format DownloadResponse where
  command := some .downloadGameStateResponse
  fields := DownloadResponse.fields
  decode := DownloadResponse.decode

def StepReport.format : Format StepReport where
  command := some .gameStepResponse
  fields := StepReport.fields
  decode := StepReport.decode

/-- Versions have one written form each. -/
theorem Version.lawful_format : Version.format.Lawful :=
  Format.lawful (fun version => version.fields.flatten)
    (fun _ => rfl)
    (fun version _ => version.reads_fields)
    (Version.accepts_fields.mono fun _ _ same => ⟨same.symm, trivial⟩)

/-- So have connect requests, but for option bits without a meaning. -/
theorem ConnectRequest.lawful_format : ConnectRequest.format.Lawful := by
  refine Format.lawful
    (fun request =>
      request.protocolVersion.fields.flatten ++
        (request.applicationVersion.fields.flatten ++ [request.flags.bits]))
    (fun _ => rfl) ?_ ?_
  · intro request known
    have reads := request.reads_body
    rw [known] at reads
    exact reads
  · refine (Version.accepts_fields.bind fun _ =>
      Version.accepts_fields.bind fun _ =>
        ConnectFlags.accepts.map (ConnectRequest.mk _ _)).mono ?_
    rintro _ _ ⟨protocol, _, _, rfl, rfl, application, _, _, rfl, rfl,
      _, rfl, bits, rfl, rfl⟩
    exact ⟨rfl, ConnectFlags.ofBits_ofBits bits⟩

/-- The same of connect responses. -/
theorem ConnectResponse.lawful_format : ConnectResponse.format.Lawful := by
  refine Format.lawful
    (fun response =>
      [response.connectionId] ++
        ([response.flags.bits] ++ Octets.ofWord64 response.secret))
    (fun _ => rfl) ?_ ?_
  · intro response known
    have reads := response.reads_body
    rw [known] at reads
    exact reads
  · refine (Accepts.octet.bind fun _ => ConnectFlags.accepts.bind fun _ =>
      Accepts.word64.map (ConnectResponse.mk _ _)).mono ?_
    rintro _ _ ⟨id, _, _, rfl, rfl, _, _, _, rfl, ⟨bits, rfl, rfl⟩,
      secret, rfl, rfl⟩
    exact ⟨rfl, ConnectFlags.ofBits_ofBits bits⟩

/--
A join request is read back as long as its players can be counted in an octet.
-/
theorem JoinRequest.lawful_format : JoinRequest.format.Lawful := by
  refine Format.lawful
    (fun request =>
      Octets.ofWord64 request.nonce ++
        ([UInt8.ofNat request.localIndices.length] ++ request.localIndices))
    ?_ (fun _ few => JoinRequest.reads_body few) ?_
  · intro request
    simp [Format.encoding, Format.heading, format, fields, Command.fields,
      Octets.flatten_singles]
  · refine (Accepts.word64.bind fun _ => Accepts.octet.bind fun count =>
      (Accepts.octets count.toNat).map (JoinRequest.mk _)).mono ?_
    rintro _ _ ⟨nonce, _, _, rfl, rfl, count, _, _, rfl, rfl,
      indices, rfl, rfl, counted⟩
    obtain ⟨sameCount, few⟩ := Octets.count_of_length counted
    exact ⟨by rw [sameCount]; rfl, few⟩

/-- A join response is read back as long as its participants can be counted so. -/
theorem JoinResponse.lawful_format : JoinResponse.format.Lawful := by
  refine Format.lawful
    (fun response =>
      Octets.ofWord64 response.nonce ++
        ([response.connectionIndex] ++
          (Octets.ofWord64 response.sessionSecret ++
            ([UInt8.ofNat response.participants.length] ++
              response.participants.flatMap fun participant =>
                participant.fields.flatten))))
    ?_ (fun _ few => JoinResponse.reads_body few) ?_
  · intro response
    simp [Format.encoding, Format.heading, format, fields, Command.fields,
      List.flatMap_def, List.flatten_flatten, Function.comp_def]
  · refine (Accepts.word64.bind fun _ => Accepts.octet.bind fun _ =>
      Accepts.word64.bind fun _ => Accepts.octet.bind fun count =>
        (Accepts.times Participant.accepts_fields count.toNat).map
          (JoinResponse.mk _ _ _)).mono ?_
    rintro _ _ ⟨nonce, _, _, rfl, rfl, index, _, _, rfl, rfl,
      secret, _, _, rfl, rfl, count, _, _, rfl, rfl,
      participants, rfl, counted, rfl⟩
    obtain ⟨sameCount, few⟩ := Octets.count_of_length counted
    exact ⟨by rw [sameCount]; rfl, few⟩

/-- An answer that lets one player in. -/
example :
    JoinResponse.format.encoding ⟨0x0102, 4, 0xFEED, [⟨0, 3⟩]⟩ =
      [0x11, 2, 1, 0, 0, 0, 0, 0, 0, 4, 0xED, 0xFE, 0, 0, 0, 0, 0, 0,
        1, 0, 3] := by
  decide

theorem OutOfSlots.lawful_format : OutOfSlots.format.Lawful := by
  refine Format.lawful (fun answer => Octets.ofWord64 answer.nonce)
    (fun _ => rfl)
    (fun _ _ => (Reads.word64 _).map OutOfSlots.mk)
    ((Accepts.word64.map OutOfSlots.mk).mono ?_)
  rintro _ _ ⟨nonce, rfl, rfl⟩
  exact ⟨rfl, trivial⟩

/-- A download request is no more than its id. -/
theorem DownloadRequest.lawful_format : DownloadRequest.format.Lawful := by
  refine Format.lawful (fun request => [request.requestId])
    (fun _ => rfl)
    (fun _ _ => (Reads.octet _).map DownloadRequest.mk)
    ((Accepts.octet.map DownloadRequest.mk).mono ?_)
  rintro _ _ ⟨requestId, rfl, rfl⟩
  exact ⟨rfl, trivial⟩

/-- A download response has four fields of fixed length. -/
theorem DownloadResponse.lawful_format : DownloadResponse.format.Lawful := by
  refine Format.lawful
    (fun response =>
      [response.requestId] ++
        (Octets.ofWord32 response.stepId ++
          (Octets.ofWord32 response.octetCount ++
            Octets.ofWord16 response.channel)))
    (fun _ => rfl) (fun response _ => response.reads_body)
    ((Accepts.octet.bind fun _ => Accepts.word32.bind fun _ =>
      Accepts.word32.bind fun _ =>
        Accepts.word16.map (DownloadResponse.mk _ _ _)).mono ?_)
  rintro _ _ ⟨requestId, _, _, rfl, rfl, stepId, _, _, rfl, rfl,
    octetCount, _, _, rfl, rfl, channel, rfl, rfl⟩
  exact ⟨rfl, trivial⟩

/-- A report has four fields of fixed length, one of them with a sign. -/
theorem StepReport.lawful_format : StepReport.format.Lawful := by
  refine Format.lawful
    (fun report =>
      [report.bufferCount] ++
        ([report.bufferDelta.toUInt8] ++
          (Octets.ofWord16 report.echoedTime ++
            Octets.ofWord32 report.lastPredicted)))
    (fun _ => rfl) (fun report _ => report.reads_body)
    ((Accepts.octet.bind fun _ => Accepts.signedOctet.bind fun _ =>
      Accepts.word16.bind fun _ =>
        Accepts.word32.map (StepReport.mk _ _ _)).mono ?_)
  rintro _ _ ⟨bufferCount, _, _, rfl, rfl, bufferDelta, _, _, rfl, rfl,
    echoedTime, _, _, rfl, rfl, lastPredicted, rfl, rfl⟩
  exact ⟨rfl, trivial⟩

/--
Every format is inverse to its reading, canonical and says where a message ends.
-/
theorem formats_lawful :
    Version.format.Lawful ∧
      ConnectRequest.format.Lawful ∧
      ConnectResponse.format.Lawful ∧
      JoinRequest.format.Lawful ∧
      JoinResponse.format.Lawful ∧
      OutOfSlots.format.Lawful ∧
      DownloadRequest.format.Lawful ∧
      DownloadResponse.format.Lawful ∧
      StepReport.format.Lawful :=
  ⟨Version.lawful_format, ConnectRequest.lawful_format,
    ConnectResponse.lawful_format, JoinRequest.lawful_format,
    JoinResponse.lawful_format, OutOfSlots.lawful_format,
    DownloadRequest.lawful_format, DownloadResponse.lawful_format,
    StepReport.lawful_format⟩

end StepSync
