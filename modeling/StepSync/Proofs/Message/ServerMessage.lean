import StepSync.Datagram.Limits
import StepSync.Download.Chunk
import StepSync.Message.Download
import StepSync.Message.Handshake
import StepSync.Message.Join
import StepSync.Message.StepExchange
import StepSync.Proofs.Octets.Codec

namespace StepSync

/-!
# What a server answers

What a server answers is read back from its written form: the connection, the
participants, the announcement of a snapshot, its chunks, and the report in front of
authoritative steps.
-/

open Decoder

/-- Of a connect response only the options with a meaning are read. -/
theorem ConnectResponse.reads_body (response : ConnectResponse) :
    decode.Reads
      ([response.connectionId] ++
        ([response.flags.bits] ++ Octets.ofWord64 response.secret))
      { response with flags := .ofBits response.flags.bits } := by
  have flags :
      ConnectFlags.decode.Reads [response.flags.bits]
        (.ofBits response.flags.bits) :=
    (Reads.octet _).map ConnectFlags.ofBits
  exact (Reads.octet _).bind
    (flags.bind ((Reads.word64 _).map (ConnectResponse.mk _ _)))

theorem Participant.reads_fields (participant : Participant) :
    decode.Reads participant.fields.flatten participant :=
  (Reads.octet _).bind ((Reads.octet _).map (Participant.mk _))

/-- A join response is read back if its participants can be counted in an octet. -/
theorem JoinResponse.reads_body
    {response : JoinResponse}
    (few : response.participants.length < UInt8.size) :
    decode.Reads
      (Octets.ofWord64 response.nonce ++
        ([response.connectionIndex] ++
          (Octets.ofWord64 response.sessionSecret ++
            ([UInt8.ofNat response.participants.length] ++
              response.participants.flatMap fun participant =>
                participant.fields.flatten))))
      response := by
  have count :
      (UInt8.ofNat response.participants.length).toNat =
        response.participants.length :=
    UInt8.toNat_ofNat_of_lt' few
  have participants :
      (Decoder.times (UInt8.ofNat response.participants.length).toNat
          Participant.decode).Reads
        (response.participants.flatMap fun participant =>
          participant.fields.flatten)
        response.participants := by
    rw [count]
    exact Reads.times fun participant _ => participant.reads_fields
  exact (Reads.word64 _).bind
    ((Reads.octet _).bind
      ((Reads.word64 _).bind
        ((Reads.octet _).bind
          (participants.map (JoinResponse.mk _ _ _)))))

/-- An announcement is read field by field. -/
theorem DownloadResponse.reads_body (response : DownloadResponse) :
    decode.Reads
      ([response.requestId] ++
        (Octets.ofWord32 response.stepId ++
          (Octets.ofWord32 response.octetCount ++
            Octets.ofWord16 response.channel)))
      response :=
  (Reads.octet _).bind
    ((Reads.word32 _).bind
      ((Reads.word32 _).bind
        ((Reads.word16 _).map (DownloadResponse.mk _ _ _))))

theorem StepReport.reads_body (report : StepReport) :
    decode.Reads
      ([report.bufferCount] ++
        ([report.bufferDelta.toUInt8] ++
          (Octets.ofWord16 report.echoedTime ++
            Octets.ofWord32 report.lastPredicted)))
      report :=
  (Reads.octet _).bind
    ((Reads.signedOctet _).bind
      ((Reads.word16 _).bind
        ((Reads.word32 _).map (StepReport.mk _ _ _))))

/-- A chunk is read back if its length fits the word that it is written in. -/
theorem Chunk.reads_fields
    {chunk : Chunk}
    (short : chunk.octets.length < UInt16.size) :
    decode.Reads chunk.fields.flatten chunk := by
  have length :
      (UInt16.ofNat chunk.octets.length).toNat = chunk.octets.length :=
    UInt16.toNat_ofNat_of_lt' short
  have octets :
      (Decoder.octets (UInt16.ofNat chunk.octets.length).toNat).Reads
        chunk.octets chunk.octets := by
    rw [length]
    exact Reads.octets _
  have reads :
      decode.Reads
        (Octets.ofWord32 chunk.index ++
          (Octets.ofWord16 (UInt16.ofNat chunk.octets.length) ++
            chunk.octets))
        chunk :=
    (Reads.word32 _).bind
      ((Reads.word16 _).bind (octets.map (Chunk.mk _)))
  simpa [fields] using reads

end StepSync
