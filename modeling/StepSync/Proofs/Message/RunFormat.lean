import StepSync.Proofs.Message.Format

namespace StepSync.StepRun

/-!
# The format of runs

A run says how many payloads follow, the first id unless there are none, and the
length in front of each payload.  So it is a format like that of a message
(`lawful_format`), with no command in front: it is read back from whatever follows
it, missed when it was cut, and what is read was written that way.  A writer without
room for the whole of a run is left with a beginning of it (`run_codec`).
-/

open Decoder

theorem accepts_payload :
    decodePayload.Accepts fun payload octets =>
      octets = (payloadFields payload).flatten ∧
        payload.length < UInt16.size := by
  refine (Accepts.word16.bind fun length =>
    Accepts.octets length.toNat).mono ?_
  rintro payload _ ⟨length, _, _, rfl, rfl, rfl, counted⟩
  refine ⟨?_, counted ▸ length.toNat_lt⟩
  rw [payloadFields, counted, UInt16.ofNat_toNat]
  simp

/-- What is read as a run is the written form of one. -/
theorem accepts_fields :
    decode.Accepts fun run octets =>
      octets = (fieldsOf run).flatten ∧ Writable run := by
  refine (Accepts.octet.bind
    (?_ : ∀ count : UInt8, Decoder.Accepts _ fun run octets =>
      [count] ++ octets = (fieldsOf run).flatten ∧ Writable run)).mono ?_
  · intro count
    by_cases empty : count = 0
    · rw [if_pos empty]
      refine (Accepts.pure []).mono ?_
      rintro _ _ ⟨rfl, rfl⟩
      exact ⟨by rw [empty]; rfl, 0, [], rfl, by decide, nofun⟩
    · rw [if_neg empty]
      refine (Accepts.word32.bind fun first =>
        (Accepts.times_proper accepts_payload count.toNat).map
          (number first)).mono ?_
      rintro _ _ ⟨first, _, _, rfl, rfl, payloads, rfl, counted, rfl, short⟩
      obtain ⟨sameCount, few⟩ := Octets.count_of_length counted
      refine ⟨?_, first, payloads, rfl, few, short⟩
      cases payloads with
      | nil => exact absurd (UInt8.toNat_inj.mp counted.symm) empty
      | cons payload payloads =>
          rw [fieldsOf_number, flatten_fields_cons, sameCount]
          rfl
  · rintro run _ ⟨count, _, octets, rfl, rfl, same, writable⟩
    exact ⟨same, writable⟩

def format : Format (List Step) where
  fields := fieldsOf
  decode := decode
  Writable := Writable

theorem lawful_format : format.Lawful := by
  refine Format.lawful (fun run => (fieldsOf run).flatten) (fun _ => rfl) ?_
    (accepts_fields.mono fun _ _ ⟨same, writable⟩ => ⟨same.symm, writable⟩)
  rintro _ ⟨first, payloads, rfl, few, short⟩
  rw [fieldsOf_number]
  exact reads_fields first few short

/-- The payloads of a run are numbered by their places behind the first id. -/
theorem number_eq_mapIdx (first : StepId) (payloads : List Octets) :
    number first payloads =
      payloads.mapIdx fun index payload =>
        ⟨first + UInt32.ofNat index, payload⟩ := by
  apply List.ext_getElem?
  intro index
  rw [getElem?_number, List.getElem?_mapIdx]

/-- A run takes one octet at least. -/
theorem length_fields_pos (first : StepId) (payloads : List Octets) :
    0 < (fields first payloads).flatten.length := by
  cases payloads with
  | nil => exact Nat.one_pos
  | cons payload payloads =>
      rw [flatten_fields_cons]
      exact Nat.succ_pos _

/--
A run that was written is read back from whatever follows it, and missed
when it was cut.
-/
structure Restored (first : StepId) (payloads : List Octets) : Prop where
  readBack :
    decode.Reads (fields first payloads).flatten
      (payloads.mapIdx fun index payload =>
        ⟨first + UInt32.ofNat index, payload⟩)
  missed :
    ∀ beginning position,
      beginning <+: (fields first payloads).flatten →
        beginning ≠ (fields first payloads).flatten →
          ∃ place wanted,
            (decode ⟨position, beginning⟩).1 =
              .error (.underflow place wanted (position + beginning.length))

/-- What a reader has passed is the written form of a run. -/
def Passed (before after : Reader) (run : List Step) : Prop :=
  ∃ taken,
    before.rest = taken ++ after.rest ∧
      after.position = before.position + taken.length ∧
      (fields (run.head?.elim 0 Step.id) (run.map Step.payload)).flatten =
        taken

/-- With room for a run the whole of it is written, and else a beginning. -/
def Written
    (writer : Writer)
    (first : StepId)
    (payloads : List Octets) :
    Prop :=
  if (fields first payloads).flatten.length ≤ writer.remaining then
    writer.putAll (fields first payloads) =
      (.ok (), { writer with
        octets := writer.octets ++ (fields first payloads).flatten })
  else
    (∃ place wanted,
      (writer.putAll (fields first payloads)).1 =
        .error (.overflow place wanted writer.capacity)) ∧
      ∃ written,
        written <+: (fields first payloads).flatten ∧
          (writer.putAll (fields first payloads)).2 =
            { writer with octets := writer.octets ++ written }

/--
Runs are read back, whatever is read as a run was written as one, and without
room only a beginning is written.
-/
theorem run_codec :
    (∀ first payloads,
      payloads.length ≤ 255 →
        (∀ payload ∈ payloads, payload.length ≤ 65535) →
          Restored first payloads) ∧
      (∀ before after run,
        decode before = (.ok run, after) → Passed before after run) ∧
      ∀ writer first payloads, Written writer first payloads := by
  refine ⟨?_, ?_, ?_⟩
  · intro first payloads few short
    have writable : format.Writable (number first payloads) :=
      ⟨first, payloads, rfl, Nat.lt_succ_of_le few,
        fun payload member => Nat.lt_succ_of_le (short payload member)⟩
    have readBack := lawful_format.restored _ writable
    have missed := fun beginning position =>
      lawful_format.missed _ beginning position writable
    have body :
        format.body (number first payloads) =
          (fields first payloads).flatten :=
      congrArg List.flatten (fieldsOf_number first payloads)
    rw [body, number_eq_mapIdx] at readBack
    rw [body] at missed
    exact ⟨readBack, missed⟩
  · intro before after run finds
    obtain ⟨taken, inFront, position, -, same⟩ :=
      lawful_format.canonical before run after finds
    exact ⟨taken, inFront, position, same⟩
  · intro writer first payloads
    unfold Written
    split
    case isTrue fits =>
      -- Only a writer that is not full yet has room for a run.
      have positive := length_fields_pos first payloads
      refine Writer.putAll_eq_ok ?_
      unfold Writer.remaining at fits
      omega
    case isFalse long =>
      exact ⟨Writer.putAll_eq_overflow (Nat.lt_of_not_le long),
        writer.putAll_isPrefix _⟩

/-- A run whose ids go around zero, and one with an octet behind it. -/
theorem run_codec_aroundZero :
    Restored 0xFFFFFFFF [[1], [2, 3], []] ∧
      decode (Reader.ofOctets [1, 7, 0, 0, 0, 1, 0, 9, 4]) =
        (.ok [⟨7, [9]⟩], ⟨8, [4]⟩) ∧
      Passed (Reader.ofOctets [1, 7, 0, 0, 0, 1, 0, 9, 4]) ⟨8, [4]⟩
        [⟨7, [9]⟩] ∧
      Written (Writer.ofCapacity 9) 7 [[9], [4]] :=
  ⟨run_codec.1 0xFFFFFFFF [[1], [2, 3], []] (by decide) (by decide), rfl,
    run_codec.2.1 _ _ _ rfl, run_codec.2.2 _ _ _⟩

end StepSync.StepRun
