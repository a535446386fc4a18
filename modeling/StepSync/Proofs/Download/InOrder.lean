import StepSync.Proofs.Download.Gathering

namespace StepSync

/-!
# A snapshot that comes in order

A server that cuts a snapshot into chunks and sends the one that is awaited sends
them in order.  The assembly then waits for as many chunks as have come, and joins
the snapshot when none is missing.
-/

namespace Chunk

/-- The chunk of an index that is cut from a snapshot. -/
def cut (snapshot : Octets) (index : Nat) : Chunk where
  index := UInt32.ofNat index
  octets := (snapshot.drop (index * size)).take size

/-- The first chunks of a snapshot, in order. -/
def cuts (snapshot : Octets) (count : Nat) : List Chunk :=
  (List.range count).map (cut snapshot)

theorem cuts_succ (snapshot : Octets) (count : Nat) :
    cuts snapshot (count + 1) = cuts snapshot count ++ [cut snapshot count] := by
  rw [cuts, List.range_succ, List.map_append]
  rfl

theorem length_cut_le (snapshot : Octets) (index : Nat) :
    (cut snapshot index).octets.length ≤ size :=
  List.length_take_le _ _

end Chunk

namespace Assembly

variable {snapshot : Octets} {index count : Nat} {assembly : Assembly}

/-- A chunk starts where the snapshot has not ended yet. -/
theorem mul_size_lt
    {octetCount : Nat}
    (inRange : index < chunksFor octetCount) :
    index * Chunk.size < octetCount := by
  unfold chunksFor Chunk.size at inRange
  unfold Chunk.size
  omega

/-- The index of a chunk fits the word that it is written in. -/
theorem toNat_index_cut
    (small : snapshot.length < UInt32.size)
    (inRange : index < chunksFor snapshot.length) :
    (Chunk.cut snapshot index).index.toNat = index := by
  have starts := mul_size_lt inRange
  refine UInt32.toNat_ofNat_of_lt' ?_
  unfold Chunk.size at starts
  omega

theorem fits_cut
    (small : snapshot.length < UInt32.size)
    (inRange : index < chunksFor snapshot.length) :
    (Chunk.cut snapshot index).Fits snapshot.length := by
  have number := toNat_index_cut small inRange
  refine ⟨number.symm ▸ inRange, ?_⟩
  rw [number, Chunk.cut, List.length_take, List.length_drop]

/-- Of the first chunks each is the first of its index. -/
theorem firstPart?_cuts
    (small : snapshot.length < UInt32.size)
    (within : count ≤ chunksFor snapshot.length)
    (index : Nat) :
    firstPart? (Chunk.cuts snapshot count) index =
      if index < count then some (Chunk.cut snapshot index).octets
      else none := by
  induction count with
  | zero => rfl
  | succ count inductionHypothesis =>
      have number := toNat_index_cut small (Nat.lt_of_succ_le within)
      rw [Chunk.cuts_succ, firstPart?_append,
        inductionHypothesis (Nat.le_of_succ_le within), number]
      rcases Nat.lt_trichotomy index count with before | rfl | behind
      · rw [if_pos before, if_pos (Nat.lt_succ_of_lt before)]
        rfl
      · simp
      · rw [if_neg (by omega), if_neg (by omega), if_neg (by omega)]
        rfl

namespace Gathers

/-- The next chunk is taken. -/
theorem insert_cut
    (gathers :
      Gathers snapshot.length (Chunk.cuts snapshot count) assembly)
    (small : snapshot.length < UInt32.size)
    (inRange : count < chunksFor snapshot.length) :
    ∃ receipt after,
      assembly.insert (Chunk.cut snapshot count) = .ok (receipt, after) ∧
        Gathers snapshot.length (Chunk.cuts snapshot (count + 1)) after := by
  rw [Chunk.cuts_succ]
  exact gathers.insert_of_fits (fits_cut small inRange)

/-- As many chunks as have come, so many are not waited for. -/
theorem waitingFor_cuts
    (gathers :
      Gathers snapshot.length (Chunk.cuts snapshot count) assembly)
    (small : snapshot.length < UInt32.size)
    (inRange : count < chunksFor snapshot.length) :
    assembly.waitingFor = count := by
  have first := firstPart?_cuts small (Nat.le_of_lt inRange)
  have held (index : Nat) (inside : index < assembly.slots.length) :
      assembly.slots[index] =
        firstPart? (Chunk.cuts snapshot count) index := by
    have place := gathers.holds index (gathers.sized ▸ inside)
    rw [List.getElem?_eq_getElem inside] at place
    exact Option.some.inj place
  have inside : count < assembly.slots.length := gathers.sized.symm ▸ inRange
  refine (List.findIdx_eq inside).mpr ⟨?_, fun index before => ?_⟩
  · rw [held count inside, first, if_neg (Nat.lt_irrefl count)]
    rfl
  · rw [held index (Nat.lt_trans before inside), first, if_pos before]
    rfl

/-- The assembly is complete when the last chunk has come, and not before. -/
theorem isComplete_cuts_iff
    (gathers :
      Gathers snapshot.length (Chunk.cuts snapshot count) assembly)
    (small : snapshot.length < UInt32.size)
    (within : count ≤ chunksFor snapshot.length) :
    assembly.isComplete = true ↔ count = chunksFor snapshot.length := by
  have first := firstPart?_cuts small within
  rw [gathers.isComplete_iff]
  constructor
  · intro allCome
    refine Nat.le_antisymm within (Nat.le_of_not_lt fun missing => ?_)
    have come := allCome count missing
    rw [first, if_neg (Nat.lt_irrefl count)] at come
    cases come
  · rintro rfl index inRange
    rw [first, if_pos inRange]
    rfl

end Gathers

/-- Octets are known by their chunks. -/
theorem eq_of_chunks
    {first second : Octets}
    (lengths : first.length = second.length)
    (chunks : ∀ index, index < chunksFor first.length →
      (first.drop (index * Chunk.size)).take Chunk.size =
        (second.drop (index * Chunk.size)).take Chunk.size) :
    first = second := by
  refine List.ext_getElem lengths fun place inFirst inSecond => ?_
  have split : place / Chunk.size * Chunk.size + place % Chunk.size = place :=
    Nat.div_add_mod' place Chunk.size
  have inChunk : place % Chunk.size < Chunk.size := Nat.mod_lt _ (by decide)
  have inRange : place / Chunk.size < chunksFor first.length := by
    unfold chunksFor
    unfold Chunk.size at split ⊢
    omega
  have same := congrArg (fun octets => octets[place % Chunk.size]?)
    (chunks _ inRange)
  simp only [List.getElem?_take, inChunk, ↓reduceIte, List.getElem?_drop,
    split] at same
  rw [List.getElem?_eq_getElem inFirst, List.getElem?_eq_getElem inSecond]
    at same
  exact Option.some.inj same

/-- The chunks of a snapshot are joined to the snapshot. -/
theorem Gathers.joined_cuts
    (gathers :
      Gathers snapshot.length
        (Chunk.cuts snapshot (chunksFor snapshot.length)) assembly)
    (small : snapshot.length < UInt32.size) :
    assembly.joined = snapshot := by
  have complete := (gathers.isComplete_cuts_iff small (Nat.le_refl _)).mpr rfl
  have allCome := gathers.isComplete_iff.mp complete
  have length := gathers.length_joined allCome
  refine eq_of_chunks length fun index inRange => ?_
  rw [length] at inRange
  have placed := gathers.take_drop_joined allCome inRange
  rw [firstPart?_cuts small (Nat.le_refl _), if_pos inRange] at placed
  exact (Option.some.inj placed).symm

end Assembly

end StepSync
