import StepSync.Proofs.Download.Gathering

namespace StepSync

/-!
# An assembly in memory

A receiver may put the chunks where they belong in one string of octets, mark
those that are there, and count the marks (`SnapshotBuffer`).  Each subtraction,
look-up and overwriting could then leave its range, so each of them says whether
it does.  An assembly that is looked at in this way (`Assembly.buffer`) changes as
the buffer does, and nothing ever leaves its range
(`Assembly.Gathers.insert?_buffer`).
-/

namespace Octets

/--
The octets with a piece written over those at a place, unless it reaches
behind the end.
-/
def overwrite? (octets : Octets) (start : Nat) (piece : Octets) :
    Option Octets :=
  if start + piece.length ≤ octets.length then
    some (octets.take start ++ piece ++ octets.drop (start + piece.length))
  else none

/-- A piece takes the place of another one of its length. -/
theorem overwrite?_append
    (before old after : Octets)
    {piece : Octets}
    (sameLength : piece.length = old.length) :
    (before ++ (old ++ after)).overwrite? before.length piece =
      some (before ++ (piece ++ after)) := by
  have inside :
      before.length + piece.length ≤ (before ++ (old ++ after)).length := by
    simp only [List.length_append]
    omega
  have behind :
      (before ++ (old ++ after)).drop (before.length + piece.length) =
        after := by
    rw [sameLength, ← List.append_assoc, ← List.length_append,
      List.drop_left]
  rw [overwrite?, if_pos inside, List.take_left, behind, List.append_assoc]

namespace Sliced

variable {size total : Nat} {pieces : List Octets}

/-- In front of a piece lie whole ones. -/
theorem length_flatten_take
    (sliced : Sliced size total pieces)
    (positive : 0 < size)
    {index : Nat}
    (inRange : index < pieces.length) :
    (pieces.take index).flatten.length = index * size := by
  induction pieces generalizing total index with
  | nil => exact absurd inRange (Nat.not_lt_zero index)
  | cons piece pieces inductionHypothesis =>
      cases index with
      | zero => simp
      | succ index =>
          have behind : index < pieces.length := Nat.lt_of_succ_lt_succ inRange
          have rest := sliced.tail positive
          have more : 0 < (total - size + (size - 1)) / size := by
            rw [← rest.count]
            omega
          have enough := (Nat.div_pos_iff.mp more).2
          have whole : piece.length = size := by
            have length := sliced.lengths 0 piece rfl
            omega
          rw [List.take_succ_cons, List.flatten_cons, List.length_append,
            inductionHypothesis rest behind, whole, Nat.succ_mul,
            Nat.add_comm]

/-- Writing over the place of a piece exchanges the piece. -/
theorem overwrite?_flatten
    (sliced : Sliced size total pieces)
    (positive : 0 < size)
    {index : Nat}
    {old piece : Octets}
    (found : pieces[index]? = some old)
    (sameLength : piece.length = old.length) :
    overwrite? pieces.flatten (index * size) piece =
      some (pieces.set index piece).flatten := by
  obtain ⟨inRange, here⟩ := List.getElem?_eq_some_iff.mp found
  have start := sliced.length_flatten_take positive inRange
  have split :
      pieces.flatten =
        (pieces.take index).flatten ++
          (old ++ (pieces.drop (index + 1)).flatten) := by
    rw [← List.flatten_cons, ← List.flatten_append, ← here,
      ← List.drop_eq_getElem_cons inRange, List.take_append_drop]
  rw [split, ← start, overwrite?_append _ _ _ sameLength,
    List.set_eq_take_append_cons_drop, if_pos inRange, List.flatten_append,
    List.flatten_cons]

end Sliced

end Octets

/--
The octets of a snapshot as far as they have come, a mark for each chunk that is
there, and the count of the marks.
-/
structure SnapshotBuffer where
  octets : Octets
  arrived : List Bool
  count : Nat
  deriving Repr, DecidableEq

namespace SnapshotBuffer

/--
The octets that the chunk of an index has to carry, unless it begins
behind the end.
-/
def chunkLength? (buffer : SnapshotBuffer) (index : Nat) : Option Nat :=
  if index * Chunk.size ≤ buffer.octets.length then
    some (min Chunk.size (buffer.octets.length - index * Chunk.size))
  else none

/--
Take a chunk: its octets are written to their place, if they have not come before.
There is no result if something leaves its range on the way.
-/
def insert? (buffer : SnapshotBuffer) (chunk : Chunk) :
    Option (Except ChunkError Assembly.Receipt × SnapshotBuffer) := do
  let chunkCount := UInt32.ofNat buffer.arrived.length
  if chunk.index < chunkCount then
    let index := chunk.index.toNat
    let expected ← buffer.chunkLength? index
    if chunk.octets.length = expected then
      if ← buffer.arrived[index]? then return (.ok .repeated, buffer)
      else
        let octets ←
          buffer.octets.overwrite? (index * Chunk.size) chunk.octets
        return (.ok .stored,
          ⟨octets, buffer.arrived.set index true, buffer.count + 1⟩)
    else
      return (.error (.wrongSize chunk.index chunk.octets.length expected),
        buffer)
  else
    return (.error (.outOfRange chunk.index chunkCount.toNat), buffer)

end SnapshotBuffer

namespace Assembly

/-- The octets of each chunk, zeros for one that is missing. -/
def pieces (assembly : Assembly) : List Octets :=
  assembly.slots.mapIdx fun index slot =>
    slot.getD (List.replicate (assembly.chunkLength index) 0)

/-- An assembly as it lies in memory. -/
def buffer (assembly : Assembly) : SnapshotBuffer where
  octets := assembly.pieces.flatten
  arrived := assembly.slots.map Option.isSome
  count := assembly.filled

/-- A chunk whose place is in the snapshot begins before its end. -/
theorem mul_size_le_of_lt_chunksFor
    {octetCount index : Nat}
    (inRange : index < chunksFor octetCount) :
    index * Chunk.size ≤ octetCount := by
  unfold chunksFor Chunk.size at inRange
  unfold Chunk.size
  omega

/-- The chunks of a snapshot are fewer than its octets. -/
theorem chunksFor_le (octetCount : Nat) : chunksFor octetCount ≤ octetCount := by
  unfold chunksFor Chunk.size
  omega

namespace Gathers

variable {octetCount : Nat} {parts : List Chunk} {assembly : Assembly}

/-- The pieces, also those that are missing, have the lengths of their places. -/
theorem sliced_pieces (gathers : Gathers octetCount parts assembly) :
    Octets.Sliced Chunk.size octetCount assembly.pieces := by
  constructor
  · rw [pieces, List.length_mapIdx, gathers.sized]
    rfl
  · intro index piece found
    rw [pieces, List.getElem?_mapIdx, Option.map_eq_some_iff] at found
    obtain ⟨slot, held, rfl⟩ := found
    have inRange : index < chunksFor octetCount := by
      rw [← gathers.sized]
      exact (List.getElem?_eq_some_iff.mp held).1
    rw [gathers.holds index inRange, Option.some.injEq] at held
    cases first : firstPart? parts index with
    | none =>
        rw [← held, first, Option.getD_none, List.length_replicate,
          chunkLength, gathers.announced]
    | some octets =>
        rw [← held, first, Option.getD_some]
        exact gathers.length_firstPart first

/-- There is room for as many octets as were announced. -/
theorem length_octets_buffer (gathers : Gathers octetCount parts assembly) :
    assembly.buffer.octets.length = octetCount :=
  gathers.sliced_pieces.length_flatten (by decide)

/-- The place of a chunk that came holds the octets of the first one. -/
theorem take_drop_octets_buffer
    (gathers : Gathers octetCount parts assembly)
    {index : Nat}
    {octets : Octets}
    (inRange : index < chunksFor octetCount)
    (first : firstPart? parts index = some octets) :
    (assembly.buffer.octets.drop (index * Chunk.size)).take Chunk.size =
      octets := by
  refine gathers.sliced_pieces.take_drop_flatten (by decide) ?_
  rw [pieces, List.getElem?_mapIdx, gathers.holds index inRange, first]
  rfl

/-- A chunk is marked when one came for its index. -/
theorem getElem?_arrived_buffer
    (gathers : Gathers octetCount parts assembly)
    {index : Nat}
    (inRange : index < chunksFor octetCount) :
    assembly.buffer.arrived[index]? =
      some (firstPart? parts index).isSome := by
  rw [buffer, List.getElem?_map, gathers.holds index inRange]
  rfl

/-- A complete assembly is joined to what lies in memory. -/
theorem joined_eq_octets_buffer
    (gathers : Gathers octetCount parts assembly)
    (complete : assembly.isComplete = true) :
    assembly.joined = assembly.buffer.octets := by
  have filled := gathers.counted.isComplete_iff.mp complete
  rw [joined, List.flatMap_def, buffer, pieces]
  congr 1
  apply List.ext_getElem?
  intro index
  rw [List.getElem?_map, List.getElem?_mapIdx]
  cases found : assembly.slots[index]? with
  | none => rfl
  | some slot =>
      have isSome := filled slot (List.mem_of_getElem? found)
      obtain ⟨octets, rfl⟩ := Option.isSome_iff_exists.mp isSome
      rfl

/-- A chunk that is stored lies in its place in memory. -/
theorem buffer_stored
    (gathers : Gathers octetCount parts assembly)
    {chunk : Chunk}
    (vacant : assembly.slots[chunk.index.toNat]? = some none)
    (length : chunk.octets.length = assembly.chunkLength chunk.index.toNat) :
    assembly.buffer.octets.overwrite?
        (chunk.index.toNat * Chunk.size) chunk.octets =
      some
        (buffer
          { assembly with
            slots :=
              assembly.slots.set chunk.index.toNat (some chunk.octets)
            filled := assembly.filled + 1 }).octets := by
  have empty :
      assembly.pieces[chunk.index.toNat]? =
        some (List.replicate
          (assembly.chunkLength chunk.index.toNat) 0) := by
    rw [pieces, List.getElem?_mapIdx, vacant]
    rfl
  have exchanged :=
    gathers.sliced_pieces.overwrite?_flatten (by decide) empty
      (length.trans List.length_replicate.symm)
  rw [buffer, exchanged, buffer, pieces, pieces, List.mapIdx_set]
  rfl

/--
Nothing leaves its range when a chunk is taken in memory, and what becomes of it
is what becomes of it in the assembly.
-/
theorem insert?_buffer
    (gathers : Gathers octetCount parts assembly)
    (small : octetCount < UInt32.size)
    (chunk : Chunk) :
    assembly.buffer.insert? chunk =
      some (match assembly.insert chunk with
        | .error failure => (.error failure, assembly.buffer)
        | .ok (receipt, after) => (.ok receipt, after.buffer)) := by
  have marks : assembly.buffer.arrived.length = chunksFor octetCount := by
    rw [buffer, List.length_map, gathers.sized]
  have countFits :
      (UInt32.ofNat assembly.buffer.arrived.length).toNat =
        chunksFor octetCount := by
    rw [marks]
    exact UInt32.toNat_ofNat_of_lt'
      (Nat.lt_of_le_of_lt (chunksFor_le octetCount) small)
  unfold SnapshotBuffer.insert? Assembly.insert
  simp only [UInt32.lt_iff_toNat_lt, countFits]
  by_cases inRange : chunk.index.toNat < chunksFor octetCount
  · have begins :
        assembly.buffer.chunkLength? chunk.index.toNat =
          some (assembly.chunkLength chunk.index.toNat) := by
      rw [SnapshotBuffer.chunkLength?, gathers.length_octets_buffer,
        if_pos (mul_size_le_of_lt_chunksFor inRange), chunkLength,
        gathers.announced]
    have place := gathers.holds _ inRange
    rw [if_pos inRange, begins, place,
      gathers.getElem?_arrived_buffer inRange]
    by_cases length :
        chunk.octets.length = assembly.chunkLength chunk.index.toNat
    · cases first : firstPart? parts chunk.index.toNat with
      | some octets => simp [length]
      | none =>
          rw [first] at place
          have written := gathers.buffer_stored place length
          simp only [length, written, Option.isSome_none, ↓reduceIte,
            Option.bind_eq_bind, Option.bind_some, Bool.false_eq_true,
            Option.pure_def]
          rw [buffer, buffer, List.map_set]
          rfl
    · simp [length]
  · have outside : assembly.slots[chunk.index.toNat]? = none := by
      rw [List.getElem?_eq_none_iff, gathers.sized]
      exact Nat.le_of_not_lt inRange
    rw [if_neg inRange, outside, chunkCount, gathers.sized]
    rfl

end Gathers

end Assembly

end StepSync
