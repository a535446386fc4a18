import StepSync.Proofs.Download.Assembly

namespace StepSync

/-!
# What an assembly gathers

Parts of a snapshot come in any order, more than once, and with the wrong size.  An
assembly has gathered some parts when each slot holds the octets of the first of
them that bears its index (`Assembly.Gathers`).  Once there is one for each slot,
their octets joined are the snapshot: as long as announced, and chunk by chunk what
came first.
-/

namespace Octets

/-- The pieces into which a string of octets falls that is cut at every `size`. -/
structure Sliced (size total : Nat) (pieces : List Octets) : Prop where
  count : pieces.length = (total + (size - 1)) / size
  lengths : ∀ index piece, pieces[index]? = some piece →
    piece.length = min size (total - index * size)

namespace Sliced

variable {size total : Nat} {piece : Octets} {pieces : List Octets}

/-- Behind the first piece lie the pieces of the rest. -/
theorem tail
    (sliced : Sliced size total (piece :: pieces))
    (positive : 0 < size) :
    Sliced size (total - size) pieces := by
  have count := sliced.count
  constructor
  · rw [List.length_cons] at count
    by_cases longer : size ≤ total
    · have moved : total + (size - 1) = total - size + (size - 1) + size := by
        omega
      rw [moved, Nat.add_div_right _ positive] at count
      exact Nat.succ.inj count
    · have one : (total + (size - 1)) / size ≤ 1 := by
        rw [Nat.div_le_iff_le_mul_add_pred positive]
        omega
      have noMore : (total - size + (size - 1)) / size = 0 := by
        apply Nat.div_eq_of_lt
        omega
      omega
  · intro index other found
    have length := sliced.lengths (index + 1) other found
    rw [length, Nat.add_one_mul, Nat.add_comm (index * size), Nat.sub_sub]

theorem total_of_nil (sliced : Sliced size total []) (positive : 0 < size) :
    total = 0 := by
  have count := sliced.count
  rw [List.length_nil, eq_comm, Nat.div_eq_zero_iff] at count
  omega

/-- The pieces together are as long as the whole. -/
theorem length_flatten
    (sliced : Sliced size total pieces)
    (positive : 0 < size) :
    pieces.flatten.length = total := by
  induction pieces generalizing total with
  | nil => exact (sliced.total_of_nil positive).symm
  | cons piece pieces inductionHypothesis =>
      have first := sliced.lengths 0 piece rfl
      rw [List.flatten_cons, List.length_append,
        inductionHypothesis (sliced.tail positive), first]
      omega

/-- Each piece is found again in its place. -/
theorem take_drop_flatten
    (sliced : Sliced size total pieces)
    (positive : 0 < size)
    {index : Nat}
    (found : pieces[index]? = some piece) :
    (pieces.flatten.drop (index * size)).take size = piece := by
  induction pieces generalizing total index with
  | nil => simp at found
  | cons head rest inductionHypothesis =>
      have first := sliced.lengths 0 head rfl
      have restLength := (sliced.tail positive).length_flatten positive
      rw [Nat.zero_mul, Nat.sub_zero] at first
      cases index with
      | zero =>
          obtain rfl : head = piece := Option.some.inj found
          rw [Nat.zero_mul, List.drop_zero, List.flatten_cons,
            List.take_append]
          have whole : head.take size = head :=
            List.take_of_length_le (by omega)
          have nothing : rest.flatten.take (size - head.length) = [] := by
            rw [List.take_eq_nil_iff, List.eq_nil_iff_length_eq_zero]
            omega
          rw [whole, nothing, List.append_nil]
      | succ index =>
          rw [List.getElem?_cons_succ] at found
          have behind : index < rest.length :=
            (List.getElem?_eq_some_iff.mp found).1
          have counted := (sliced.tail positive).count
          have full : head.length = size := by
            have further : 0 < (total - size + (size - 1)) / size := by omega
            have more := Nat.div_pos_iff.mp further
            omega
          rw [List.flatten_cons, List.drop_append,
            List.drop_of_length_le (by rw [full, Nat.add_one_mul]; omega),
            List.nil_append, full, Nat.add_one_mul, Nat.add_sub_cancel]
          exact inductionHypothesis (sliced.tail positive) found

end Sliced

end Octets

/--
The chunk has a place in a snapshot of so many octets, and the size
of that place.
-/
def Chunk.Fits (octetCount : Nat) (chunk : Chunk) : Prop :=
  chunk.index.toNat < Assembly.chunksFor octetCount ∧
    chunk.octets.length =
      min Chunk.size (octetCount - chunk.index.toNat * Chunk.size)

instance (octetCount : Nat) (chunk : Chunk) :
    Decidable (chunk.Fits octetCount) := by
  unfold Chunk.Fits
  infer_instance

/-- The octets of the first part that bears an index. -/
def firstPart? (parts : List Chunk) (index : Nat) : Option Octets :=
  (parts.find? fun part => part.index.toNat == index).map Chunk.octets

/-- Some part has come for each chunk of a snapshot. -/
def AllCome (octetCount : Nat) (parts : List Chunk) : Prop :=
  ∀ index, index < Assembly.chunksFor octetCount →
    (firstPart? parts index).isSome = true

instance (octetCount : Nat) (parts : List Chunk) :
    Decidable (AllCome octetCount parts) := by
  unfold AllCome
  infer_instance

/-- A further part is the first of its index only if there was none before. -/
theorem firstPart?_append (parts : List Chunk) (part : Chunk) (index : Nat) :
    firstPart? (parts ++ [part]) index =
      (firstPart? parts index).or
        (if part.index.toNat = index then some part.octets else none) := by
  unfold firstPart?
  rw [List.find?_append, List.find?_singleton]
  cases parts.find? fun part => part.index.toNat == index with
  | some found => rfl
  | none =>
      by_cases here : part.index.toNat = index
      · simp [here]
      · simp [here]

namespace Assembly

/-- Each slot holds the octets of the first part for it. -/
structure Gathers
    (octetCount : Nat)
    (parts : List Chunk)
    (assembly : Assembly) :
    Prop where
  announced : assembly.octetCount = octetCount
  sized : assembly.slots.length = chunksFor octetCount
  counted : assembly.Counted
  holds : ∀ index, index < chunksFor octetCount →
    assembly.slots[index]? = some (firstPart? parts index)
  fits : ∀ part ∈ parts, part.Fits octetCount

theorem gathers_empty (octetCount : Nat) :
    Gathers octetCount [] (Assembly.empty octetCount) where
  announced := rfl
  sized := List.length_replicate
  counted := counted_empty octetCount
  holds := fun _ inRange => List.getElem?_replicate_of_lt inRange
  fits := by simp

namespace Gathers

variable {octetCount : Nat} {parts : List Chunk} {assembly : Assembly}

/-- A chunk that does not fit is refused. -/
theorem insert_of_not_fits
    (gathers : Gathers octetCount parts assembly)
    {chunk : Chunk}
    (unfit : ¬chunk.Fits octetCount) :
    ∃ failure, assembly.insert chunk = .error failure := by
  unfold Assembly.insert
  dsimp only
  by_cases inRange : chunk.index.toNat < chunksFor octetCount
  · have wrong :
        chunk.octets.length ≠ assembly.chunkLength chunk.index.toNat := by
      intro right
      rw [chunkLength, gathers.announced] at right
      exact unfit ⟨inRange, right⟩
    rw [gathers.holds _ inRange]
    exact ⟨_, if_neg wrong⟩
  · have outside : assembly.slots[chunk.index.toNat]? = none := by
      rw [List.getElem?_eq_none_iff, gathers.sized]
      exact Nat.le_of_not_lt inRange
    rw [outside]
    exact ⟨_, rfl⟩

/-- A chunk that fits is taken, and counts if it is the first of its index. -/
theorem insert_of_fits
    (gathers : Gathers octetCount parts assembly)
    {chunk : Chunk}
    (fits : chunk.Fits octetCount) :
    ∃ receipt after,
      assembly.insert chunk = .ok (receipt, after) ∧
        Gathers octetCount (parts ++ [chunk]) after := by
  obtain ⟨inRange, right⟩ := fits
  have place := gathers.holds _ inRange
  have length :
      chunk.octets.length = assembly.chunkLength chunk.index.toNat := by
    rw [chunkLength, gathers.announced]
    exact right
  have allFit : ∀ part ∈ parts ++ [chunk], part.Fits octetCount := by
    intro part member
    rcases List.mem_append.mp member with earlier | last
    · exact gathers.fits part earlier
    · rw [List.mem_singleton.mp last]
      exact ⟨inRange, right⟩
  cases first : firstPart? parts chunk.index.toNat with
  | some octets =>
      rw [first] at place
      refine ⟨.repeated, assembly, ?_, gathers.announced, gathers.sized,
        gathers.counted, ?_, allFit⟩
      · simp only [Assembly.insert, place, length, ↓reduceIte]
      · intro index inside
        rw [gathers.holds index inside, firstPart?_append]
        by_cases here : chunk.index.toNat = index
        · rw [← here, first]
          rfl
        · rw [if_neg here, Option.or_none]
  | none =>
      rw [first] at place
      have inserted :
          assembly.insert chunk =
            .ok (.stored,
              { assembly with
                slots :=
                  assembly.slots.set chunk.index.toNat (some chunk.octets)
                filled := assembly.filled + 1 }) := by
        simp only [Assembly.insert, place, length, ↓reduceIte]
      refine ⟨_, _, inserted, gathers.announced, ?_,
        gathers.counted.insert inserted, ?_, allFit⟩
      · rw [List.length_set, gathers.sized]
      · intro index inside
        rw [List.getElem?_set, gathers.holds index inside,
          firstPart?_append]
        by_cases here : chunk.index.toNat = index
        · rw [← here, first, gathers.sized]
          simp [inRange]
        · simp [here]

/-- An assembly is complete once a part has come for each chunk. -/
theorem isComplete_iff (gathers : Gathers octetCount parts assembly) :
    assembly.isComplete = true ↔ AllCome octetCount parts := by
  rw [gathers.counted.isComplete_iff]
  constructor
  · intro filled index inRange
    exact filled _ (List.mem_of_getElem? (gathers.holds index inRange))
  · intro allCome slot member
    obtain ⟨index, inRange, found⟩ := List.mem_iff_getElem.mp member
    have inSlots := inRange
    rw [gathers.sized] at inRange
    have held := gathers.holds index inRange
    rw [List.getElem?_eq_getElem inSlots, found, Option.some.injEq] at held
    rw [held]
    exact allCome index inRange

/-- The first part of an index has the length of its place. -/
theorem length_firstPart
    (gathers : Gathers octetCount parts assembly)
    {index : Nat}
    {octets : Octets}
    (first : firstPart? parts index = some octets) :
    octets.length = min Chunk.size (octetCount - index * Chunk.size) := by
  obtain ⟨part, found, rfl⟩ := Option.map_eq_some_iff.mp first
  have named : part.index.toNat = index := by
    simpa using List.find?_some found
  rw [← named]
  exact (gathers.fits part (List.mem_of_find?_eq_some found)).2

/-- The slots of a complete assembly are the slices of the snapshot. -/
theorem sliced
    (gathers : Gathers octetCount parts assembly)
    (allCome : AllCome octetCount parts) :
    Octets.Sliced Chunk.size octetCount
      (assembly.slots.map fun slot => slot.getD []) := by
  constructor
  · rw [List.length_map, gathers.sized]
    rfl
  · intro index piece found
    rw [List.getElem?_map, Option.map_eq_some_iff] at found
    obtain ⟨slot, held, rfl⟩ := found
    have inRange : index < chunksFor octetCount := by
      rw [← gathers.sized]
      exact (List.getElem?_eq_some_iff.mp held).1
    rw [gathers.holds index inRange, Option.some.injEq] at held
    obtain ⟨octets, first⟩ := Option.isSome_iff_exists.mp
      (allCome index inRange)
    rw [← held, first, Option.getD_some]
    exact gathers.length_firstPart first

/-- The joined octets of a complete assembly are as many as announced. -/
theorem length_joined
    (gathers : Gathers octetCount parts assembly)
    (allCome : AllCome octetCount parts) :
    assembly.joined.length = octetCount := by
  rw [joined, List.flatMap_def]
  exact (gathers.sliced allCome).length_flatten (by decide)

/-- Chunk by chunk the joined octets are those of the first parts. -/
theorem take_drop_joined
    (gathers : Gathers octetCount parts assembly)
    (allCome : AllCome octetCount parts)
    {index : Nat}
    (inRange : index < chunksFor octetCount) :
    firstPart? parts index =
      some ((assembly.joined.drop (index * Chunk.size)).take
        Chunk.size) := by
  obtain ⟨octets, first⟩ := Option.isSome_iff_exists.mp
    (allCome index inRange)
  have placed :
      (assembly.slots.map fun slot => slot.getD [])[index]? =
        some octets := by
    rw [List.getElem?_map, gathers.holds index inRange, first]
    rfl
  have found :=
    (gathers.sliced allCome).take_drop_flatten (by decide) placed
  rw [first, joined, List.flatMap_def, found]

end Gathers

end Assembly

end StepSync
