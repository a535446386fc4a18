import StepSync.Download.Basic

namespace StepSync.Assembly

/-!
# Counting the chunks of an assembly

An assembly counts its filled slots instead of looking through them.  The count
is right from the start and stays right, so an assembly is complete exactly when
no slot is empty, and from then on no chunk changes it.
-/

variable {assembly after : Assembly} {chunk : Chunk} {receipt : Receipt}

/-- The count is that of the filled slots. -/
def Counted (assembly : Assembly) : Prop :=
  assembly.filled = assembly.slots.countP Option.isSome

theorem counted_empty (octetCount : Nat) :
    (Assembly.empty octetCount).Counted := by
  simp [Counted, Assembly.empty, List.countP_replicate]

/-- A chunk that is taken either fills an empty slot or changes nothing. -/
theorem insert_cases
    (inserted : assembly.insert chunk = .ok (receipt, after)) :
    after = assembly ∨
      assembly.slots[chunk.index.toNat]? = some none ∧
        after =
          { assembly with
            slots := assembly.slots.set chunk.index.toNat (some chunk.octets)
            filled := assembly.filled + 1 } := by
  simp only [insert] at inserted
  rcases found : assembly.slots[chunk.index.toNat]? with
    _ | (_ | octets)
  · simp [found] at inserted
  · right
    simp only [found] at inserted
    split at inserted
    · simp only [Except.ok.injEq, Prod.mk.injEq] at inserted
      exact ⟨rfl, inserted.2.symm⟩
    · cases inserted
  · left
    simp only [found] at inserted
    split at inserted
    · simp only [Except.ok.injEq, Prod.mk.injEq] at inserted
      exact inserted.2.symm
    · cases inserted

/-- Taking a chunk adds no slot. -/
theorem length_slots_insert
    (inserted : assembly.insert chunk = .ok (receipt, after)) :
    after.slots.length = assembly.slots.length := by
  rcases insert_cases inserted with rfl | ⟨_, rfl⟩
  · rfl
  · exact List.length_set

namespace Counted

/-- Taking a chunk keeps the count right. -/
theorem insert
    (counted : assembly.Counted)
    (inserted : assembly.insert chunk = .ok (receipt, after)) :
    after.Counted := by
  rcases insert_cases inserted with unchanged | ⟨vacant, filled⟩
  · rw [unchanged]
    exact counted
  · obtain ⟨inRange, isNone⟩ := List.getElem?_eq_some_iff.mp vacant
    unfold Counted at counted
    rw [filled, Counted, List.countP_set inRange, isNone]
    simp [counted]

/-- An assembly is complete when no slot is empty. -/
theorem isComplete_iff (counted : assembly.Counted) :
    assembly.isComplete = true ↔
      ∀ slot ∈ assembly.slots, slot.isSome = true := by
  rw [isComplete, beq_iff_eq, counted, List.countP_eq_length]

/-- A complete assembly is not changed by any chunk. -/
theorem insert_of_isComplete
    (counted : assembly.Counted)
    (complete : assembly.isComplete = true)
    (inserted : assembly.insert chunk = .ok (receipt, after)) :
    after = assembly := by
  rcases insert_cases inserted with unchanged | ⟨vacant, _⟩
  · exact unchanged
  · have filled :=
      counted.isComplete_iff.mp complete none (List.mem_of_getElem? vacant)
    cases filled

end Counted

/-- An assembly is complete from the start only if there is nothing to assemble. -/
theorem joined_empty_of_isComplete
    {octetCount : Nat}
    (complete : (Assembly.empty octetCount).isComplete = true) :
    (Assembly.empty octetCount).joined = [] := by
  have noChunk : 0 = chunksFor octetCount := by
    simpa [isComplete, Assembly.empty] using complete
  simp [joined, Assembly.empty, ← noChunk]

end StepSync.Assembly
