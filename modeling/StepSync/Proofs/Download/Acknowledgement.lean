import StepSync.Proofs.Download.Buffer
import StepSync.Proofs.Message.ServerMessage
import StepSync.Proofs.Steps.Window

namespace StepSync

/-!
# What an assembly acknowledges

Whatever comes, an assembly has gathered the chunks that fit
(`Assembly.gathers_reached`).  Its acknowledgement names the first of those that
are missing and shows which of the next have come.  A sender that answers each
acknowledgement with the chunk that it names therefore fills one slot with each
answer, and is done when as many were answered as were missing
(`Assembly.missing_afterAnswers`).
-/

/--
Take the chunk that a reader comes to; there is no result if something
leaves its range.
-/
def SnapshotBuffer.receive? (buffer : SnapshotBuffer) (reader : Reader) :
    Option (Except ChunkError Assembly.Receipt × SnapshotBuffer) :=
  match Chunk.decode reader with
  | (.error failure, _) => some (.error (.malformed failure), buffer)
  | (.ok chunk, _) => buffer.insert? chunk

namespace Assembly

/-- Take the chunk that a reader comes to; one that is refused changes nothing. -/
def receive (assembly : Assembly) (reader : Reader) :
    Except ChunkError Receipt × Assembly :=
  match Chunk.decode reader with
  | (.error failure, _) => (.error (.malformed failure), assembly)
  | (.ok chunk, _) =>
      match assembly.insert chunk with
      | .error failure => (.error failure, assembly)
      | .ok (receipt, after) => (.ok receipt, after)

/-- What is left of a new assembly when one reader after the other has come. -/
def reached (octetCount : Nat) (arrivals : List Reader) : Assembly :=
  arrivals.foldl (fun assembly reader => (assembly.receive reader).2)
    (empty octetCount)

/-- The chunk that a reader comes to, if it has its place in the snapshot. -/
def fitting? (octetCount : Nat) (reader : Reader) : Option Chunk :=
  (Chunk.decode reader).1.toOption.filter fun chunk =>
    chunk.Fits octetCount

/-- The chunks that have come and fit, in the order in which they came. -/
def fitting (octetCount : Nat) (arrivals : List Reader) : List Chunk :=
  arrivals.filterMap (fitting? octetCount)

/-- How many chunks are missing. -/
def missing (assembly : Assembly) : Nat :=
  assembly.slots.countP Option.isNone

/-- A sender reads the acknowledgement and answers with the chunk that it names. -/
def answer (reply : UInt32 → Octets) (assembly : Assembly) : Assembly :=
  match Decoder.word32 (Reader.ofOctets assembly.ackFields.flatten) with
  | (.error _, _) => assembly
  | (.ok awaited, _) =>
      let chunk : Chunk := ⟨awaited, reply awaited⟩
      (assembly.receive (Reader.ofOctets chunk.fields.flatten)).2

/-- An assembly after so many answers. -/
def afterAnswers (reply : UInt32 → Octets) (assembly : Assembly) :
    Nat → Assembly
  | 0 => assembly
  | count + 1 => (assembly.afterAnswers reply count).answer reply

variable {octetCount : Nat} {parts : List Chunk} {assembly : Assembly}

/-- What a reader brings to an assembly is gathered, if it fits. -/
theorem Gathers.receive
    (gathers : Gathers octetCount parts assembly)
    (reader : Reader) :
    Gathers octetCount (parts ++ (fitting? octetCount reader).toList)
      (assembly.receive reader).2 := by
  unfold Assembly.receive fitting?
  rcases Chunk.decode reader with ⟨failure | chunk, rest⟩
  · simpa [Except.toOption] using gathers
  · by_cases fits : chunk.Fits octetCount
    · obtain ⟨receipt, after, inserted, further⟩ :=
        gathers.insert_of_fits fits
      simpa [Except.toOption, Option.filter, fits, inserted] using further
    · obtain ⟨failure, refused⟩ := gathers.insert_of_not_fits fits
      simpa [Except.toOption, Option.filter, fits, refused] using gathers

/-- Whatever comes, the chunks that fit are gathered. -/
theorem gathers_reached (octetCount : Nat) (arrivals : List Reader) :
    Gathers octetCount (fitting octetCount arrivals)
      (reached octetCount arrivals) := by
  have goesOn
      (parts : List Chunk)
      (assembly : Assembly)
      (gathers : Gathers octetCount parts assembly) :
      Gathers octetCount (parts ++ fitting octetCount arrivals)
        (arrivals.foldl (fun assembly reader => (assembly.receive reader).2)
          assembly) := by
    induction arrivals generalizing parts assembly with
    | nil => simpa [fitting] using gathers
    | cons reader arrivals inductionHypothesis =>
        have further := inductionHypothesis _ _ (gathers.receive reader)
        rw [List.append_assoc] at further
        cases found : fitting? octetCount reader with
        | none => simpa [fitting, found] using further
        | some chunk => simpa [fitting, found] using further
  exact goesOn [] (empty octetCount) (gathers_empty octetCount)

/-! ## The acknowledgement -/

theorem waitingFor_le (assembly : Assembly) :
    assembly.waitingFor ≤ assembly.slots.length :=
  List.findIdx_le_length

/-- The chunks in front of the awaited one are there. -/
theorem isSome_of_lt_waitingFor
    {index : Nat}
    (before : index < assembly.waitingFor) :
    (assembly.slots.map Option.isSome)[index]? = some true := by
  have inRange := Nat.lt_of_lt_of_le before assembly.waitingFor_le
  have held := List.not_of_lt_findIdx before
  rw [List.getElem?_map, List.getElem?_eq_getElem inRange, Option.map_some,
    ← Option.not_isNone, held]
  rfl

/-- The awaited chunk is missing. -/
theorem vacant_waitingFor
    (inRange : assembly.waitingFor < assembly.slots.length) :
    assembly.slots[assembly.waitingFor]? = some none := by
  have missing : (assembly.slots[assembly.waitingFor]).isNone = true :=
    List.findIdx_getElem
  rw [List.getElem?_eq_getElem inRange, Option.isNone_iff_eq_none.mp missing]

/-- An index behind which some slots are filled is passed. -/
theorem lt_waitingFor
    {index : Nat}
    (inRange : index < assembly.slots.length)
    (filled : ∀ place, place ≤ index →
      (assembly.slots.map Option.isSome)[place]? = some true) :
    index < assembly.waitingFor := by
  refine Nat.lt_of_not_le fun notPassed => ?_
  have inside := Nat.lt_of_le_of_lt notPassed inRange
  have vacant := vacant_waitingFor inside
  have held := filled assembly.waitingFor notPassed
  rw [List.getElem?_map, vacant] at held
  cases held

/-- A bit of the mask says of a chunk behind the awaited one whether it is there. -/
theorem testBit_laterMask
    (assembly : Assembly)
    {bit : Nat}
    (inMask : bit < 64) :
    assembly.laterMask.toNat.testBit bit = true ↔
      (assembly.slots.map Option.isSome)[assembly.waitingFor + 1 + bit]? =
        some true := by
  rw [laterMask, testBit_ackMask _ inMask, List.getD_eq_getElem?_getD,
    List.getElem?_map, List.getElem?_take_of_lt inMask, List.getElem?_drop,
    List.getElem?_map]
  cases assembly.slots[assembly.waitingFor + 1 + bit]? with
  | none => simp
  | some slot => simp

/-- Nothing is missing from a complete assembly, and from no other. -/
theorem Counted.isComplete_iff_missing (counted : assembly.Counted) :
    assembly.isComplete = true ↔ assembly.missing = 0 := by
  rw [counted.isComplete_iff, missing, List.countP_eq_zero]
  simp [Option.ne_none_iff_isSome]

/-- While some chunk is missing one is awaited. -/
theorem waitingFor_lt_iff :
    assembly.waitingFor < assembly.slots.length ↔ 0 < assembly.missing := by
  rw [waitingFor, missing, List.findIdx_lt_length, List.countP_pos_iff]

/-! ## Answers -/

/-- Nothing that comes makes more chunks missing. -/
theorem missing_receive_le (assembly : Assembly) (reader : Reader) :
    (assembly.receive reader).2.missing ≤ assembly.missing := by
  unfold receive
  rcases Chunk.decode reader with ⟨failure | chunk, rest⟩
  · exact Nat.le_refl _
  · cases inserted : assembly.insert chunk with
    | error failure => simp [inserted]
    | ok stored =>
        simp only [inserted]
        rcases insert_cases inserted with unchanged | ⟨vacant, filled⟩
        · exact Nat.le_of_eq (congrArg missing unchanged)
        · obtain ⟨inRange, _⟩ := List.getElem?_eq_some_iff.mp vacant
          rw [filled, missing, missing, List.countP_set inRange]
          simp

/-- The chunk that is awaited is stored, and then a later one is awaited. -/
theorem Gathers.receive_awaited
    (gathers : Gathers octetCount parts assembly)
    {reader : Reader}
    {chunk : Chunk}
    (decodes : (Chunk.decode reader).1 = .ok chunk)
    (awaited : chunk.index.toNat = assembly.waitingFor)
    (fits : chunk.Fits octetCount) :
    (assembly.receive reader).1 = .ok .stored ∧
      assembly.waitingFor < (assembly.receive reader).2.waitingFor ∧
      (assembly.receive reader).2.missing + 1 = assembly.missing := by
  obtain ⟨inRange, length⟩ := fits
  rw [← gathers.announced] at length
  rw [awaited, ← gathers.sized] at inRange
  have vacant := vacant_waitingFor inRange
  rw [← awaited] at vacant
  have inserted :
      assembly.insert chunk =
        .ok (.stored,
          { assembly with
            slots := assembly.slots.set chunk.index.toNat (some chunk.octets)
            filled := assembly.filled + 1 }) := by
    simp only [Assembly.insert, vacant, chunkLength, length, ↓reduceIte]
  have received :
      assembly.receive reader =
        (.ok .stored,
          { assembly with
            slots := assembly.slots.set chunk.index.toNat (some chunk.octets)
            filled := assembly.filled + 1 }) := by
    rcases decoded : Chunk.decode reader with ⟨failure | found, rest⟩
    · rw [decoded] at decodes
      cases decodes
    · rw [decoded] at decodes
      obtain rfl := Except.ok.inj decodes
      simp only [Assembly.receive, decoded, inserted]
  rw [received]
  refine ⟨rfl, ?_, ?_⟩
  · refine lt_waitingFor (by simpa using inRange) fun place notBehind => ?_
    rw [List.map_set, awaited]
    rcases Nat.eq_or_lt_of_le notBehind with rfl | before
    · rw [List.getElem?_set_self (by simpa using inRange)]
      rfl
    · rw [List.getElem?_set_ne (Nat.ne_of_gt before)]
      exact isSome_of_lt_waitingFor before
  · obtain ⟨inside, empty⟩ := List.getElem?_eq_some_iff.mp vacant
    have unfilled : 0 < assembly.missing := waitingFor_lt_iff.mp inRange
    unfold missing at unfilled ⊢
    rw [List.countP_set inside, empty]
    simp only [Option.isNone_none, ↓reduceIte, Option.isNone_some,
      Bool.false_eq_true]
    omega

/-- The indices of chunks are words, and so are those that a mask reaches to. -/
theorem Gathers.waitingFor_add_lt
    (gathers : Gathers octetCount parts assembly)
    (small : octetCount < UInt32.size) :
    assembly.waitingFor + 64 < UInt32.size := by
  have within := assembly.waitingFor_le
  rw [gathers.sized] at within
  unfold chunksFor Chunk.size at within
  unfold UInt32.size at small ⊢
  omega

/-- A sender that always has a chunk that fits. -/
def Serves (octetCount : Nat) (reply : UInt32 → Octets) : Prop :=
  ∀ index, index.toNat < chunksFor octetCount →
    Chunk.Fits octetCount ⟨index, reply index⟩

/-- An answer to the acknowledgement fills one slot, if one is empty. -/
theorem Gathers.answer
    (gathers : Gathers octetCount parts assembly)
    (small : octetCount < UInt32.size)
    {reply : UInt32 → Octets}
    (serves : Serves octetCount reply) :
    (∃ further, Gathers octetCount further (assembly.answer reply)) ∧
      (assembly.answer reply).missing = assembly.missing - 1 := by
  have fitsWord :
      (UInt32.ofNat assembly.waitingFor).toNat = assembly.waitingFor := by
    refine UInt32.toNat_ofNat_of_lt' ?_
    have reaches := gathers.waitingFor_add_lt small
    omega
  have read :
      Decoder.word32 (Reader.ofOctets assembly.ackFields.flatten) =
        (.ok (UInt32.ofNat assembly.waitingFor),
          ⟨4, Octets.ofWord64 assembly.laterMask⟩) := by
    have reads :=
      Decoder.Reads.word32 (UInt32.ofNat assembly.waitingFor) 0
        (Octets.ofWord64 assembly.laterMask)
    simpa [ackFields, Reader.ofOctets] using reads
  generalize UInt32.ofNat assembly.waitingFor = awaited at fitsWord read
  unfold Assembly.answer
  rw [read]
  dsimp only
  refine ⟨⟨_, gathers.receive _⟩, ?_⟩
  by_cases inRange : assembly.waitingFor < assembly.slots.length
  · have inSnapshot : awaited.toNat < chunksFor octetCount := by
      rw [fitsWord, ← gathers.sized]
      exact inRange
    have fits := serves awaited inSnapshot
    have short : (reply awaited).length < UInt16.size :=
      Nat.lt_of_le_of_lt (Nat.le_trans (Nat.le_of_eq fits.2)
        (Nat.min_le_left _ _)) (by decide)
    have reads := @Chunk.reads_fields ⟨awaited, reply awaited⟩ short 0 []
    have decodes := congrArg Prod.fst reads
    rw [List.append_nil] at decodes
    have stored := (gathers.receive_awaited decodes fitsWord fits).2.2
    exact Nat.eq_sub_of_add_eq stored
  · have filled : assembly.missing = 0 :=
      Nat.eq_zero_of_not_pos (mt waitingFor_lt_iff.mpr inRange)
    have noMore := missing_receive_le assembly
      (Reader.ofOctets (Chunk.fields ⟨awaited, reply awaited⟩).flatten)
    omega

/-- Each answer fills one slot, until none is empty. -/
theorem missing_afterAnswers
    (gathers : Gathers octetCount parts assembly)
    (small : octetCount < UInt32.size)
    {reply : UInt32 → Octets}
    (serves : Serves octetCount reply)
    (count : Nat) :
    (∃ further,
        Gathers octetCount further (assembly.afterAnswers reply count)) ∧
      (assembly.afterAnswers reply count).missing =
        assembly.missing - count := by
  induction count with
  | zero => exact ⟨⟨parts, gathers⟩, rfl⟩
  | succ count inductionHypothesis =>
      obtain ⟨⟨further, gathered⟩, left⟩ := inductionHypothesis
      obtain ⟨more, fewer⟩ := gathered.answer small serves
      exact ⟨more, by rw [afterAnswers, fewer, left, Nat.sub_sub]⟩

/-! ## The account -/

/--
What is to be said of an assembly to which some readers came, and of the answers
to its acknowledgement.
-/
structure Account
    (octetCount : Nat)
    (arrivals : List Reader)
    (assembly : Assembly) :
    Prop where
  inRange : ∀ reader,
    assembly.buffer.receive? reader =
      some ((assembly.receive reader).1, (assembly.receive reader).2.buffer)
  refused : ∀ reader failure,
    (assembly.receive reader).1 = .error failure →
      (assembly.receive reader).2 = assembly
  sized :
    assembly.buffer.octets.length = octetCount ∧
      assembly.buffer.arrived.length = assembly.chunkCount
  counted : assembly.buffer.count = assembly.buffer.arrived.count true
  complete :
    assembly.isComplete = true ↔
      ∀ mark ∈ assembly.buffer.arrived, mark = true
  arrived : ∀ index, index < assembly.chunkCount →
    assembly.buffer.arrived[index]? =
      some (firstPart? (fitting octetCount arrivals) index).isSome
  octets : ∀ index octets, index < assembly.chunkCount →
    firstPart? (fitting octetCount arrivals) index = some octets →
      (assembly.buffer.octets.drop (index * Chunk.size)).take Chunk.size =
        octets
  whole :
    assembly.octets? =
      if assembly.isComplete then some assembly.buffer.octets else none
  below : ∀ index, index < assembly.waitingFor →
    assembly.buffer.arrived[index]? = some true
  awaited :
    assembly.waitingFor = assembly.chunkCount ∨
      assembly.buffer.arrived[assembly.waitingFor]? = some false
  mask : ∀ bit, bit < 64 →
    (assembly.laterMask.toNat.testBit bit = true ↔
      assembly.buffer.arrived[assembly.waitingFor + 1 + bit]? = some true)
  words : assembly.waitingFor + 64 < UInt32.size
  advances : ∀ reader chunk,
    (Chunk.decode reader).1 = .ok chunk →
      chunk.index.toNat = assembly.waitingFor →
        chunk.Fits octetCount →
          assembly.waitingFor < (assembly.receive reader).2.waitingFor
  answered : ∀ reply, Serves octetCount reply →
    ∀ count,
      (assembly.afterAnswers reply count).isComplete = true ↔
        assembly.missing ≤ count

/--
Whatever comes to a new assembly, it keeps the first octets that fit each chunk,
tells what is missing, and is completed by as many answers as chunks are missing.
-/
theorem assembly_account
    (octetCount : Nat)
    (small : octetCount < UInt32.size)
    (arrivals : List Reader) :
    Account octetCount arrivals (reached octetCount arrivals) := by
  have gathers := gathers_reached octetCount arrivals
  generalize reached octetCount arrivals = assembly at gathers
  have chunks : assembly.chunkCount = chunksFor octetCount := gathers.sized
  constructor
  case inRange =>
    intro reader
    unfold SnapshotBuffer.receive? receive
    rcases Chunk.decode reader with ⟨failure | chunk, rest⟩
    · rfl
    · dsimp only
      rw [gathers.insert?_buffer small]
      rcases assembly.insert chunk with failure | ⟨receipt, after⟩ <;> rfl
  case refused =>
    intro reader failure
    unfold receive
    rcases Chunk.decode reader with ⟨failure | chunk, rest⟩
    · exact fun _ => rfl
    · dsimp only
      rcases assembly.insert chunk with failure | ⟨receipt, after⟩
      · exact fun _ => rfl
      · nofun
  case sized => exact ⟨gathers.length_octets_buffer, List.length_map _⟩
  case counted =>
    have marked :
        (fun mark => mark == true) ∘ Option.isSome (α := Octets) =
          Option.isSome := by
      funext slot
      cases slot <;> rfl
    rw [buffer, List.count, List.countP_map, marked]
    exact gathers.counted
  case complete =>
    rw [gathers.counted.isComplete_iff, buffer, List.forall_mem_map]
  case arrived =>
    rw [chunks]
    exact fun index inRange => gathers.getElem?_arrived_buffer inRange
  case octets =>
    rw [chunks]
    exact fun index octets => gathers.take_drop_octets_buffer
  case whole =>
    unfold octets?
    split
    case isTrue complete => rw [gathers.joined_eq_octets_buffer complete]
    case isFalse => rfl
  case below => exact fun index => isSome_of_lt_waitingFor
  case awaited =>
    rcases Nat.eq_or_lt_of_le assembly.waitingFor_le with all | inRange
    · exact .inl all
    · right
      rw [buffer, List.getElem?_map, vacant_waitingFor inRange]
      rfl
  case mask => exact fun bit => assembly.testBit_laterMask
  case words => exact gathers.waitingFor_add_lt small
  case advances =>
    exact fun reader chunk decodes awaited fits =>
      (gathers.receive_awaited decodes awaited fits).2.1
  case answered =>
    intro reply serves count
    obtain ⟨⟨further, gathered⟩, left⟩ :=
      missing_afterAnswers gathers small serves count
    rw [gathered.counted.isComplete_iff_missing, left]
    exact Nat.sub_eq_zero_iff_le

/--
Of a snapshot of three chunks the last one comes first, and then another last one
and a piece of the first: the first one is awaited, and two answers are enough.
-/
theorem assembly_account_lastFirst :
    let chunk (index : UInt32) (octets : Octets) :=
      Reader.ofOctets (Chunk.fields ⟨index, octets⟩).flatten
    let arrivals := [chunk 2 [5, 6], chunk 2 [7, 8], chunk 0 [9]]
    let assembly := reached 2050 arrivals
    2050 < UInt32.size ∧
      assembly.waitingFor = 0 ∧
      assembly.laterMask = 2 ∧
      assembly.missing = 2 ∧
      Account 2050 arrivals assembly := by
  intro chunk arrivals assembly
  refine ⟨by decide, by decide +kernel, by decide +kernel,
    by decide +kernel, ?_⟩
  exact assembly_account 2050 (by decide) arrivals

end Assembly

end StepSync
