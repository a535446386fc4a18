import StepSync.Proofs.Steps.Holding
import StepSync.Proofs.Steps.Queue

namespace StepSync

/-!
# Reading until nothing is ready

Reading takes a step from the queue of ready ones and may let waiting ones follow,
so what is ready does not say how often a step can be read.  The steps that are
`outstanding` do: the ready ones, and behind them those that wait in the window
without a gap.  Releasing moves steps between the two parts and leaves the whole
as it is, and each reading takes the first of the whole away
(`Inbound.Ordered.read`).
-/

namespace ReceiveWindow

/-- Empty slots behind the others complete nothing. -/
theorem completed_append_empty (slots : List (Option Octets)) (count : Nat) :
    completed (slots ++ List.replicate count none) = completed slots := by
  induction slots with
  | nil => cases count <;> rfl
  | cons slot slots inductionHypothesis =>
      cases slot with
      | none => rfl
      | some payload =>
          exact congrArg (payload :: ·) inductionHypothesis

/-- When completed steps move away, the later ones are still completed. -/
theorem completed_drop
    {slots : List (Option Octets)}
    {moved : Nat}
    (few : moved ≤ (completed slots).length) :
    completed (slots.drop moved) = (completed slots).drop moved := by
  induction slots generalizing moved with
  | nil => simp [completed]
  | cons slot slots inductionHypothesis =>
      cases moved with
      | zero => rfl
      | succ moved =>
          cases slot with
          | none => exact absurd few (Nat.not_succ_le_zero moved)
          | some payload =>
              exact inductionHypothesis (Nat.le_of_succ_le_succ few)

/-- The completed steps are as many as there are filled slots at the front. -/
theorem length_completed (slots : List (Option Octets)) :
    (completed slots).length = (slots.takeWhile Option.isSome).length := by
  induction slots with
  | nil => rfl
  | cons slot slots inductionHypothesis =>
      cases slot with
      | none => rfl
      | some payload => exact congrArg (· + 1) inductionHypothesis

/-- No more steps are completed than are stored. -/
theorem length_completed_le_storedCount (window : ReceiveWindow) :
    (completed window.slots).length ≤ window.storedCount := by
  rw [storedCount]
  induction window.slots with
  | nil => exact Nat.le_refl 0
  | cons slot slots inductionHypothesis =>
      cases slot with
      | none => exact Nat.zero_le _
      | some payload =>
          rw [List.countP_cons_of_pos rfl]
          exact Nat.succ_le_succ inductionHypothesis

theorem completed_eq_nil_iff
    {slots : List (Option Octets)}
    (nonempty : slots ≠ []) :
    completed slots = [] ↔ slots[0]? = some none := by
  cases slots with
  | nil => exact absurd rfl nonempty
  | cons slot slots => cases slot <;> simp [completed]

end ReceiveWindow

namespace Inbound

variable {inbound : Inbound}

/-- The steps that can be read if nothing more comes, in order. -/
def outstanding (inbound : Inbound) : List Step :=
  inbound.ready.steps ++
    StepRun.number inbound.window.expected
      (ReceiveWindow.completed inbound.window.slots)

theorem length_outstanding (inbound : Inbound) :
    inbound.outstanding.length =
      inbound.ready.length +
        (inbound.window.slots.takeWhile Option.isSome).length := by
  rw [outstanding, List.length_append, StepRun.length_number,
    ReceiveWindow.length_completed, StepQueue.length]

/-- No more steps can be read than are held. -/
theorem length_outstanding_le_held (inbound : Inbound) :
    inbound.outstanding.length ≤ inbound.held := by
  have few := inbound.window.length_completed_le_storedCount
  rw [length_outstanding, held, ← ReceiveWindow.length_completed]
  omega

/-- Releasing moves steps from the one part to the other. -/
theorem outstanding_release
    (goesOn : inbound.ready.nextId = inbound.window.expected)
    {moved : Nat}
    {released : Inbound}
    (succeeds : inbound.release = .ok (moved, released)) :
    released.outstanding = inbound.outstanding := by
  rw [release_eq goesOn] at succeeds
  obtain ⟨_, rfl⟩ := Prod.mk.inj (Except.ok.inj succeeds)
  let first := ReceiveWindow.completed inbound.window.slots
  let moving := ReceiveWindow.moving inbound.window.slots inbound.ready
  have front : moving <+: first := List.take_prefix ..
  have whole : moving ++ first.drop moving.length = first :=
    (List.prefix_iff_eq_append.mp front)
  change
    (inbound.ready.steps ++ StepRun.number inbound.ready.nextId moving) ++
        StepRun.number (inbound.window.expected + UInt32.ofNat moving.length)
          (ReceiveWindow.completed
            (inbound.window.slots.drop moving.length ++
              List.replicate moving.length none)) =
      inbound.ready.steps ++ StepRun.number inbound.window.expected first
  rw [ReceiveWindow.completed_append_empty,
    ReceiveWindow.completed_drop front.length_le, goesOn, List.append_assoc,
    ← StepRun.number_append, whole]

theorem goesOn_leaving
    (goesOn : inbound.ready.nextId = inbound.window.expected)
    (rest : List Step) :
    (inbound.leaving rest).ready.nextId =
      (inbound.leaving rest).window.expected :=
  goesOn

/-- Behind what is read, nothing is refused a place among the ready steps. -/
theorem refused_read
    (goesOn : inbound.ready.nextId = inbound.window.expected)
    {reading : Reading}
    (found : inbound.read = some reading) :
    reading.refused = none := by
  unfold read StepQueue.read at found
  cases steps : inbound.ready.steps with
  | nil => simp [steps] at found
  | cons step rest =>
      have released := release_eq (goesOn_leaving goesOn rest)
      rw [leaving] at released
      simp only [steps] at found
      split at found
      case isTrue =>
        cases found
        rfl
      case isFalse =>
        rw [released] at found
        cases found
        rfl

/--
The ready steps go on into the window, and no step waits in front of the window
while there is room among them.
-/
structure Ordered (inbound : Inbound) : Prop where
  sized : inbound.window.slots.length = ReceiveWindow.size
  goesOn : inbound.ready.nextId = inbound.window.expected
  settled : inbound.Settled
  spacious : 0 < inbound.ready.capacity

namespace Ordered

/-- The slot in front is empty, unless no further step can be ready. -/
theorem front (ordered : inbound.Ordered) :
    inbound.window.slots[0]? = some none ∨ inbound.ready.isFull = true := by
  have settled := ordered.settled
  unfold Settled ReceiveWindow.payload? at settled
  rw [UInt32.sub_self] at settled
  have present : (0 : UInt32).toNat < inbound.window.slots.length := by
    rw [ordered.sized]
    decide
  obtain ⟨slot, filled⟩ :
      ∃ slot, inbound.window.slots[(0 : UInt32).toNat]? = some slot :=
    ⟨_, List.getElem?_eq_getElem present⟩
  cases slot with
  | none => exact .inl filled
  | some payload =>
      rw [filled] at settled
      exact .inr (settled rfl)

/-- When nothing is ready, nothing that is outstanding waits. -/
theorem outstanding_of_empty
    (ordered : inbound.Ordered)
    (empty : inbound.ready.steps = []) :
    inbound.outstanding = [] ∧ inbound.window.slots[0]? = some none := by
  have notFull : inbound.ready.isFull = false := by
    have spacious := ordered.spacious
    rw [StepQueue.isFull, empty]
    simp only [List.length_nil, decide_eq_false_iff_not]
    omega
  have slotEmpty : inbound.window.slots[0]? = some none := by
    rcases ordered.front with slotEmpty | full
    · exact slotEmpty
    · rw [notFull] at full
      cases full
  have nonempty : inbound.window.slots ≠ [] := by
    intro noSlots
    rw [noSlots] at slotEmpty
    cases slotEmpty
  have nothing := (ReceiveWindow.completed_eq_nil_iff nonempty).mpr slotEmpty
  rw [outstanding, empty, nothing]
  exact ⟨rfl, slotEmpty⟩

/--
Reading takes the first outstanding step, if there is one, and
leaves the others.
-/
theorem read (ordered : inbound.Ordered) :
    (inbound.read = none ∧ inbound.ready.steps = []) ∨
      ∃ reading,
        inbound.read = some reading ∧ reading.refused = none ∧
          inbound.outstanding = reading.step :: reading.inbound.outstanding := by
  cases found : inbound.read with
  | none =>
      refine .inl ⟨rfl, ?_⟩
      unfold Inbound.read StepQueue.read at found
      cases steps : inbound.ready.steps with
      | nil => rfl
      | cons step rest =>
          simp only [steps] at found
          split at found
          · cases found
          · split at found <;> cases found
  | some reading =>
      refine .inr
        ⟨reading, rfl, refused_read ordered.goesOn found, ?_⟩
      obtain ⟨rest, steps, left⟩ := read_cases ordered.goesOn found
      have taken :
          inbound.outstanding =
            reading.step :: (inbound.leaving rest).outstanding := by
        rw [outstanding, steps]
        rfl
      rcases left with ⟨_, same⟩ | ⟨moved, released⟩
      · rw [taken, same]
      · rw [taken, outstanding_release (goesOn_leaving ordered.goesOn rest)
          released]

end Ordered

end Inbound

end StepSync
