import StepSync.Message.StepExchange
import StepSync.Proofs.Octets.Codec

namespace StepSync.StepRun

/-!
# Runs of steps are read back

A run whose length fits one octet, and whose payloads each have a length that
fits two, is read back as the steps that count up from its first id.
-/

open Decoder

/-- A payload is read back if its length fits the two octets in front of it. -/
theorem reads_payload {payload : Octets} (short : payload.length < UInt16.size) :
    Reads decodePayload (payloadFields payload).flatten payload := by
  have length : (UInt16.ofNat payload.length).toNat = payload.length :=
    UInt16.toNat_ofNat_of_lt' short
  have both :
      Reads decodePayload
        (Octets.ofWord16 (UInt16.ofNat payload.length) ++ payload) payload := by
    refine (Reads.word16 (UInt16.ofNat payload.length)).bind ?_
    rw [length]
    exact Reads.octets payload
  simpa [payloadFields] using both

/-- The octets of payloads, one behind the other. -/
def payloadOctets (payloads : List Octets) : Octets :=
  payloads.flatMap fun payload => (payloadFields payload).flatten

theorem length_payloadOctets_cons
    (payload : Octets)
    (payloads : List Octets) :
    (payloadOctets (payload :: payloads)).length =
      2 + payload.length + (payloadOctets payloads).length := by
  simp [payloadOctets, payloadFields, Nat.add_assoc]

/-- The octets of a run that is not empty. -/
theorem flatten_fields_cons
    (first : StepId)
    (payload : Octets)
    (payloads : List Octets) :
    (fields first (payload :: payloads)).flatten =
      [UInt8.ofNat (payload :: payloads).length] ++
        (Octets.ofWord32 first ++ payloadOctets (payload :: payloads)) := by
  rw [fields, List.flatten_cons, List.flatten_cons, payloadOctets,
    List.flatten_eq_flatMap, List.flatMap_assoc]
  · simp only [← List.flatten_eq_flatMap]
  · exact List.cons_ne_nil _ _

/-- A run is read back with the ids that follow from its first one. -/
theorem reads_fields
    (first : StepId)
    {payloads : List Octets}
    (few : payloads.length < UInt8.size)
    (short : ∀ payload ∈ payloads, payload.length < UInt16.size) :
    Reads decode (fields first payloads).flatten (number first payloads) := by
  cases payloads with
  | nil => exact (Reads.octet 0).bind (Reads.pure [])
  | cons payload payloads =>
      have length :
          (UInt8.ofNat (payload :: payloads).length).toNat =
            (payload :: payloads).length :=
        UInt8.toNat_ofNat_of_lt' few
      have counted : UInt8.ofNat (payload :: payloads).length ≠ 0 := by
        intro zero
        rw [zero] at length
        cases length
      have all :
          Reads (Decoder.times (payload :: payloads).length decodePayload)
            (payloadOctets (payload :: payloads)) (payload :: payloads) :=
        Reads.times fun payload member => reads_payload (short payload member)
      have run :
          Reads decode
            ([UInt8.ofNat (payload :: payloads).length] ++
              (Octets.ofWord32 first ++ payloadOctets (payload :: payloads)))
            (number first (payload :: payloads)) := by
        refine (Reads.octet (UInt8.ofNat (payload :: payloads).length)).bind ?_
        rw [if_neg counted, length]
        exact (Reads.word32 first).bind (all.map (number first))
      rw [flatten_fields_cons]
      exact run

/-- A run takes its length, its first id, and the octets of its payloads. -/
theorem length_flatten_fields_le (first : StepId) (payloads : List Octets) :
    (fields first payloads).flatten.length ≤
      1 + 4 + (payloadOctets payloads).length := by
  cases payloads with
  | nil => exact Nat.succ_le_succ (Nat.zero_le _)
  | cons payload payloads =>
      rw [flatten_fields_cons, List.length_append, List.length_append,
        Octets.length_ofWord32, ← Nat.add_assoc]
      exact Nat.le_refl _

end StepSync.StepRun
