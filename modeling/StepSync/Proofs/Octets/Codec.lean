import StepSync.Octets.Reader
import StepSync.Octets.Writer

namespace StepSync

/-!
# What is written is read back

A decoder `Reads` a written form when it takes exactly these octets off the front
of whatever follows.  The property goes through `bind`, so a message is read back
as soon as its fields are.  Pieces that fit a writer together are all written.
-/

/-- Octets that are not fewer than two begin with two octets. -/
theorem Octets.exists_cons_cons
    {octets : Octets}
    (long : ¬octets.length < 2) :
    ∃ first second rest, octets = first :: second :: rest := by
  match octets, long with
  | [], long => exact absurd Nat.zero_lt_two long
  | [_], long => exact absurd Nat.one_lt_two long
  | first :: second :: rest, _ => exact ⟨first, second, rest, rfl⟩

/-- Any two octets are the written form of the word that they denote. -/
theorem Octets.ofWord16_value
    {octets : Octets}
    (wide : octets.length = 2) :
    Octets.ofWord16 (UInt16.ofNat (Octets.value octets)) = octets := by
  have small := Octets.value_lt octets
  have written := Octets.littleEndian_value octets
  rw [wide] at small written
  rw [Octets.ofWord16, UInt16.toNat_ofNat_of_lt' small]
  exact written

/-- Any four octets are the written form of the word that they denote. -/
theorem Octets.ofWord32_value
    {octets : Octets}
    (wide : octets.length = 4) :
    Octets.ofWord32 (UInt32.ofNat (Octets.value octets)) = octets := by
  have small := Octets.value_lt octets
  have written := Octets.littleEndian_value octets
  rw [wide] at small written
  rw [Octets.ofWord32, UInt32.toNat_ofNat_of_lt' small]
  exact written

/-- Any eight octets are the written form of the word that they denote. -/
theorem Octets.ofWord64_value
    {octets : Octets}
    (wide : octets.length = 8) :
    Octets.ofWord64 (UInt64.ofNat (Octets.value octets)) = octets := by
  have small := Octets.value_lt octets
  have written := Octets.littleEndian_value octets
  rw [wide] at small written
  rw [Octets.ofWord64, UInt64.toNat_ofNat_of_lt' small]
  exact written

/-- Any four octets are the written form of a word. -/
theorem Octets.exists_ofWord32
    {octets : Octets}
    (wide : octets.length = 4) :
    ∃ word, Octets.ofWord32 word = octets :=
  ⟨_, Octets.ofWord32_value wide⟩

namespace Decoder

variable {Value Result : Type}

/-- From a string that begins with the written form, exactly that is taken. -/
def Reads (decoder : Decoder Value) (written : Octets) (found : Value) :
    Prop :=
  ∀ position rest,
    decoder ⟨position, written ++ rest⟩ =
      (.ok found, ⟨position + written.length, rest⟩)

namespace Reads

theorem pure (found : Value) : Reads (Pure.pure found) [] found :=
  fun _ _ => rfl

theorem bind
    {decoder : Decoder Value}
    {next : Value → Decoder Result}
    {first second : Octets}
    {found : Value}
    {result : Result}
    (reads : Reads decoder first found)
    (continues : Reads (next found) second result) :
    Reads (decoder >>= next) (first ++ second) result := by
  intro position rest
  rw [List.append_assoc, bind_of_ok (reads position (second ++ rest)),
    continues, List.length_append, Nat.add_assoc]

theorem map
    {decoder : Decoder Value}
    {written : Octets}
    {found : Value}
    (reads : Reads decoder written found)
    (change : Value → Result) :
    Reads (do return change (← decoder)) written (change found) := by
  have both :
      Reads (do return change (← decoder)) (written ++ []) (change found) :=
    reads.bind (pure (change found))
  rw [List.append_nil] at both
  exact both

theorem octets (written : Octets) :
    Reads (Decoder.octets written.length) written written :=
  fun position rest => octets_append written rest position

theorem number (written : Octets) :
    Reads (Decoder.number written.length) written written.value :=
  (octets written).map Octets.value

theorem octet (found : UInt8) : Reads Decoder.octet [found] found := by
  have reads := (number [found]).map UInt8.ofNat
  have same : UInt8.ofNat (Octets.value [found]) = found := by
    simp [Octets.value]
  rw [same] at reads
  exact reads

theorem signedOctet (found : Int8) :
    Reads Decoder.signedOctet [found.toUInt8] found := by
  have reads := (octet found.toUInt8).map UInt8.toInt8
  rw [Int8.toInt8_toUInt8] at reads
  exact reads

theorem word16 (word : UInt16) :
    Reads Decoder.word16 (Octets.ofWord16 word) word := by
  have reads := (number (Octets.ofWord16 word)).map UInt16.ofNat
  rw [Octets.value_ofWord16, UInt16.ofNat_toNat] at reads
  exact reads

theorem word32 (word : UInt32) :
    Reads Decoder.word32 (Octets.ofWord32 word) word := by
  have reads := (number (Octets.ofWord32 word)).map UInt32.ofNat
  rw [Octets.value_ofWord32, UInt32.ofNat_toNat] at reads
  exact reads

theorem word64 (word : UInt64) :
    Reads Decoder.word64 (Octets.ofWord64 word) word := by
  have reads := (number (Octets.ofWord64 word)).map UInt64.ofNat
  rw [Octets.value_ofWord64, UInt64.ofNat_toNat] at reads
  exact reads

/-- Values that are read one by one are read together. -/
theorem times
    {decoder : Decoder Value}
    {write : Value → Octets}
    {values : List Value}
    (reads : ∀ value ∈ values, Reads decoder (write value) value) :
    Reads (Decoder.times values.length decoder) (values.flatMap write)
      values := by
  induction values with
  | nil => exact pure []
  | cons first others inductionHypothesis =>
      have readsOthers := inductionHypothesis
        fun value member => reads value (List.mem_cons_of_mem _ member)
      exact (reads first List.mem_cons_self).bind
        (readsOthers.map fun others => first :: others)

end Reads

/-- A number that is not there whole is missed, and nothing is taken. -/
theorem map_number_of_short
    {width : Nat}
    {reader : Reader}
    (short : reader.rest.length < width)
    (change : Nat → Result) :
    (do return change (← number width) : Decoder Result) reader =
      (.error (reader.underflow width), reader) := by
  have missed : octets width reader = (.error (reader.underflow width), reader) :=
    if_neg (Nat.not_le.mpr short)
  exact bind_of_error (bind_of_error missed)

end Decoder

namespace Writer

/-- Pieces that fit together are all written, one behind the other. -/
theorem putAll_eq_ok
    {writer : Writer}
    {pieces : List Octets}
    (fits :
      writer.octets.length + pieces.flatten.length ≤ writer.capacity) :
    writer.putAll pieces =
      (.ok (), { writer with octets := writer.octets ++ pieces.flatten }) := by
  induction pieces generalizing writer with
  | nil => simp [putAll]
  | cons piece pieces inductionHypothesis =>
      rw [List.flatten_cons, List.length_append] at fits
      have first :
          writer.put piece =
            .ok { writer with octets := writer.octets ++ piece } := by
        rw [put, if_pos]
        unfold remaining
        omega
      rw [putAll, first]
      dsimp only
      rw [inductionHypothesis, List.flatten_cons, List.append_assoc]
      dsimp only
      rw [List.length_append]
      omega

/--
A piece behind which nothing fits any more leaves a list of pieces unfinished.
-/
theorem putAll_eq_overflow
    {writer : Writer}
    {pieces : List Octets}
    (tooLong : writer.remaining < pieces.flatten.length) :
    ∃ place wanted,
      (writer.putAll pieces).1 =
        .error (.overflow place wanted writer.capacity) := by
  induction pieces generalizing writer with
  | nil => exact absurd tooLong (Nat.not_lt_zero _)
  | cons piece pieces inductionHypothesis =>
      rw [List.flatten_cons, List.length_append] at tooLong
      rw [putAll, put]
      by_cases fits : piece.length ≤ writer.remaining
      · rw [if_pos fits]
        refine inductionHypothesis ?_
        simp only [remaining, List.length_append] at tooLong fits ⊢
        omega
      · rw [if_neg fits]
        exact ⟨_, _, rfl⟩

/--
Whether or not all pieces fit, what is written of them is a
beginning of the whole.
-/
theorem putAll_isPrefix (writer : Writer) (pieces : List Octets) :
    ∃ written,
      written <+: pieces.flatten ∧
        (writer.putAll pieces).2 =
          { writer with octets := writer.octets ++ written } := by
  induction pieces generalizing writer with
  | nil => exact ⟨[], List.prefix_rfl, by rw [putAll, List.append_nil]⟩
  | cons piece pieces inductionHypothesis =>
      rw [putAll, put]
      by_cases fits : piece.length ≤ writer.remaining
      · rw [if_pos fits]
        obtain ⟨written, begins, leaves⟩ := inductionHypothesis
          { writer with octets := writer.octets ++ piece }
        refine ⟨piece ++ written, ?_, ?_⟩
        · rw [List.flatten_cons, List.prefix_append_right_inj]
          exact begins
        · dsimp only
          rw [leaves, List.append_assoc]
      · rw [if_neg fits]
        exact ⟨[], List.nil_prefix, by rw [List.append_nil]⟩

/-- A word is filled in over the octets that were written in its place. -/
theorem patch_append
    (before room after : Octets)
    (capacity : Nat)
    (word : UInt32)
    (wide : room.length = 4) :
    Writer.patch ⟨before ++ room ++ after, capacity⟩ before.length word =
      .ok ⟨before ++ Octets.ofWord32 word ++ after, capacity⟩ := by
  have inside :
      before.length + 4 ≤ (before ++ room ++ after).length := by
    simp only [List.length_append]
    omega
  have behind : (before ++ room ++ after).drop (before.length + 4) = after := by
    rw [← wide, ← List.length_append, List.drop_left]
  have front : (before ++ room ++ after).take before.length = before := by
    rw [List.append_assoc, List.take_left]
  rw [patch, if_pos inside, front, behind]

end Writer

end StepSync
