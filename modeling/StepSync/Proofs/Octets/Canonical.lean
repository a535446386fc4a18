import StepSync.Proofs.Octets.Codec

namespace StepSync

/-!
# What is read was written

`Decoder.Reads` says that a written form is read back.  `Decoder.Accepts` is the
other direction: what a decoder finds stood in front of it in a known form, and
nothing but a lack of octets makes it fail.  Both go through `bind`.  Together they
leave no room for a second ending: a decoder that reads a written form back misses
octets on every shorter beginning of it (`Decoder.Accepts.misses_beginning`).
-/

namespace Decoder

variable {Value Result : Type}

/--
What is found was in front, in this form; only a lack of octets makes
the decoder fail.
-/
structure Accepts
    (decoder : Decoder Value)
    (form : Value → Octets → Prop) : Prop where
  taken :
    ∀ {reader after : Reader} {found : Value},
      decoder reader = (.ok found, after) →
        ∃ octets,
          reader.rest = octets ++ after.rest ∧ decoder.Reads octets found ∧
            form found octets
  missed :
    ∀ {reader after : Reader} {failure : CursorError},
      decoder reader = (.error failure, after) →
        ∃ place wanted, failure = .underflow place wanted reader.size

/-- A decoder that is read past some octets counts them as passed. -/
theorem Reads.after_eq
    {decoder : Decoder Value}
    {octets : Octets}
    {found : Value}
    {reader after : Reader}
    (reads : decoder.Reads octets found)
    (inFront : reader.rest = octets ++ after.rest)
    (finds : decoder reader = (.ok found, after)) :
    after = ⟨reader.position + octets.length, after.rest⟩ := by
  have again := reads reader.position after.rest
  rw [← inFront, finds] at again
  exact congrArg Prod.snd again

namespace Accepts

variable {form wider : Value → Octets → Prop}

/-- A form may be described by what follows from it. -/
theorem mono
    {decoder : Decoder Value}
    (accepts : decoder.Accepts form)
    (widens : ∀ found octets, form found octets → wider found octets) :
    decoder.Accepts wider where
  taken finds := by
    obtain ⟨octets, inFront, reads, shaped⟩ := accepts.taken finds
    exact ⟨octets, inFront, reads, widens _ _ shaped⟩
  missed := accepts.missed

/-- What is found without reading takes no octets. -/
theorem pure (found : Value) :
    Accepts (Pure.pure found : Decoder Value)
      fun value octets => value = found ∧ octets = [] where
  taken finds := by
    obtain ⟨⟨⟩, rfl⟩ := Prod.mk.injEq .. ▸ finds
    exact ⟨[], rfl, .pure found, rfl, rfl⟩
  missed fails := by cases congrArg Prod.fst fails

/-- Two decoders in a row take two forms in a row. -/
theorem bind
    {decoder : Decoder Value}
    {next : Value → Decoder Result}
    {formAfter : Value → Result → Octets → Prop}
    (accepts : decoder.Accepts form)
    (continues : ∀ found, (next found).Accepts (formAfter found)) :
    (decoder >>= next).Accepts fun result octets =>
      ∃ found first second,
        octets = first ++ second ∧ form found first ∧
          formAfter found result second where
  taken {reader after result} finds := by
    rcases decoded : decoder reader with ⟨failure | found, between⟩
    · rw [bind_of_error decoded] at finds
      cases congrArg Prod.fst finds
    · rw [bind_of_ok decoded] at finds
      obtain ⟨first, inFront, readsFirst, shapedFirst⟩ :=
        accepts.taken decoded
      obtain ⟨second, behind, readsSecond, shapedSecond⟩ :=
        (continues found).taken finds
      exact ⟨first ++ second, by rw [inFront, behind, List.append_assoc],
        readsFirst.bind readsSecond,
        found, first, second, rfl, shapedFirst, shapedSecond⟩
  missed {reader after failure} fails := by
    rcases decoded : decoder reader with ⟨earlier | found, between⟩
    · rw [bind_of_error decoded] at fails
      obtain ⟨⟨⟩, -⟩ := Prod.mk.injEq .. ▸ fails
      exact accepts.missed decoded
    · rw [bind_of_ok decoded] at fails
      obtain ⟨first, inFront, readsFirst, -⟩ := accepts.taken decoded
      -- The string is as long to the second decoder as to the first.
      have sameSize : between.size = reader.size := by
        rw [readsFirst.after_eq inFront decoded, Reader.size, Reader.size,
          inFront, List.length_append, Nat.add_assoc]
      rw [← sameSize]
      exact (continues found).missed fails

/-- A change of what is found leaves the octets that it is read from. -/
theorem map
    {decoder : Decoder Value}
    (accepts : decoder.Accepts form)
    (change : Value → Result) :
    Accepts (do return change (← decoder)) fun result octets =>
      ∃ found, result = change found ∧ form found octets :=
  (accepts.bind fun found => pure (change found)).mono
    fun _ _ ⟨found, first, _, whole, shaped, changed, nothing⟩ =>
      ⟨found, changed, by rwa [whole, nothing, List.append_nil]⟩

/-- So many octets are read from themselves. -/
theorem octets (count : Nat) :
    (Decoder.octets count).Accepts fun found octets =>
      octets = found ∧ found.length = count where
  taken {reader after found} finds := by
    by_cases enough : count ≤ reader.rest.length
    · rw [Decoder.octets, if_pos enough] at finds
      obtain ⟨⟨⟩, rfl⟩ := Prod.mk.injEq .. ▸ finds
      have long : (reader.rest.take count).length = count :=
        List.length_take_of_le enough
      have reads := Reads.octets (reader.rest.take count)
      rw [long] at reads
      exact ⟨_, (List.take_append_drop ..).symm, reads, rfl, long⟩
    · rw [Decoder.octets, if_neg enough] at finds
      cases congrArg Prod.fst finds
  missed {reader after failure} fails := by
    by_cases enough : count ≤ reader.rest.length
    · rw [Decoder.octets, if_pos enough] at fails
      cases congrArg Prod.fst fails
    · rw [Decoder.octets, if_neg enough] at fails
      obtain ⟨⟨⟩, -⟩ := Prod.mk.injEq .. ▸ fails
      exact ⟨_, _, rfl⟩

/-- A number is what octets of its width denote. -/
theorem map_number
    (width : Nat)
    (change : Nat → Result) :
    Accepts (do return change (← number width)) fun result octets =>
      octets.length = width ∧ result = change octets.value :=
  (((octets width).map Octets.value).map change).mono
    fun _ _ ⟨_, changed, _, valued, same, long⟩ =>
      ⟨same ▸ long, by rw [changed, valued, same]⟩

theorem octet : Decoder.octet.Accepts fun found octets => octets = [found] := by
  refine (map_number 1 UInt8.ofNat).mono ?_
  rintro _ octets ⟨long, rfl⟩
  have written := Octets.littleEndian_value octets
  rw [long] at written
  exact written.symm

/-- An integer with a sign is read from the octet that it fits. -/
theorem signedOctet :
    Decoder.signedOctet.Accepts fun found octets =>
      octets = [found.toUInt8] := by
  refine (octet.map UInt8.toInt8).mono ?_
  rintro _ _ ⟨found, rfl, rfl⟩
  rw [UInt8.toUInt8_toInt8]

/-- A word is read from the octets that it is written with, the low one first. -/
theorem word16 :
    Decoder.word16.Accepts fun found octets => octets = .ofWord16 found := by
  refine (map_number 2 UInt16.ofNat).mono ?_
  rintro _ octets ⟨long, rfl⟩
  exact (Octets.ofWord16_value long).symm

theorem word32 :
    Decoder.word32.Accepts fun found octets => octets = .ofWord32 found := by
  refine (map_number 4 UInt32.ofNat).mono ?_
  rintro _ octets ⟨long, rfl⟩
  exact (Octets.ofWord32_value long).symm

theorem word64 :
    Decoder.word64.Accepts fun found octets => octets = .ofWord64 found := by
  refine (map_number 8 UInt64.ofNat).mono ?_
  rintro _ octets ⟨long, rfl⟩
  exact (Octets.ofWord64_value long).symm

/--
Values that are taken one by one are as many as wanted, in a row, and
each is proper.
-/
theorem times_proper
    {decoder : Decoder Value}
    {write : Value → Octets}
    {Proper : Value → Prop}
    (accepts :
      decoder.Accepts fun found octets => octets = write found ∧ Proper found)
    (count : Nat) :
    (Decoder.times count decoder).Accepts fun values octets =>
      values.length = count ∧ octets = values.flatMap write ∧
        ∀ value ∈ values, Proper value := by
  induction count with
  | zero =>
      refine (pure []).mono ?_
      rintro _ _ ⟨rfl, rfl⟩
      exact ⟨rfl, rfl, nofun⟩
  | succ count inductionHypothesis =>
      refine (accepts.bind fun first =>
        inductionHypothesis.map fun others => first :: others).mono ?_
      rintro _ _ ⟨first, _, _, rfl, ⟨rfl, proper⟩, others, rfl, rfl, rfl,
        othersProper⟩
      exact ⟨rfl, rfl, List.forall_mem_cons.mpr ⟨proper, othersProper⟩⟩

/-- Values that are taken one by one are as many as wanted, in a row. -/
theorem times
    {decoder : Decoder Value}
    {write : Value → Octets}
    (accepts : decoder.Accepts fun found octets => octets = write found)
    (count : Nat) :
    (Decoder.times count decoder).Accepts fun values octets =>
      values.length = count ∧ octets = values.flatMap write :=
  (times_proper (accepts.mono fun _ _ same => ⟨same, trivial⟩) count).mono
    fun _ _ ⟨counted, whole, _⟩ => ⟨counted, whole⟩

/-- A form that is read back is missed on every beginning that is shorter. -/
theorem misses_beginning
    {decoder : Decoder Value}
    {written beginning : Octets}
    {found : Value}
    (accepts : decoder.Accepts form)
    (reads : decoder.Reads written found)
    (begins : beginning <+: written)
    (shorter : beginning ≠ written)
    (position : Nat) :
    ∃ place wanted,
      (decoder ⟨position, beginning⟩).1 =
        .error (.underflow place wanted (position + beginning.length)) := by
  obtain ⟨missing, rfl⟩ := begins
  rcases decoded : decoder ⟨position, beginning⟩ with ⟨failure | other, after⟩
  · obtain ⟨place, wanted, rfl⟩ := accepts.missed decoded
    exact ⟨place, wanted, rfl⟩
  · obtain ⟨octets, inFront, readsOther, -⟩ := accepts.taken decoded
    -- Another ending would leave the missing octets unread where nothing is left.
    have whole := reads position []
    have early := readsOther position (after.rest ++ missing)
    rw [← List.append_assoc, ← inFront, ← List.append_nil (_ ++ missing),
      whole] at early
    have leftOver : [] = after.rest ++ missing :=
      congrArg (fun outcome => outcome.2.rest) early
    have complete : missing = [] := (List.append_eq_nil_iff.mp leftOver.symm).2
    rw [complete, List.append_nil] at shorter
    exact absurd rfl shorter

end Accepts

end Decoder

end StepSync
