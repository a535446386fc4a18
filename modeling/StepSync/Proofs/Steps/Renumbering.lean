import StepSync.Proofs.Steps.Queue

namespace StepSync

/-!
# Counting steps from another number

Steps are counted from the number of the first one, which the server chooses.
Counting the same steps from a number that is larger by `start` adds `start` to
each id, around the circle.  Writing, reading and looking up a step add and
subtract around the circle too, so they do not notice.  Discarding compares ids as
plain numbers, and does not notice only while none of them goes around the circle
(`StepQueue.countBelow_renumber`).

Two runs of the same operations are compared by what is seen of each operation
(`observeAll`).
-/

section

variable {State Operation Observation : Type}

/--
Carry out operations in order; what is seen of each, and the state
behind the last.
-/
def observeAll (observe : State → Operation → Observation × State) :
    State → List Operation → List Observation × State
  | state, [] => ([], state)
  | state, operation :: operations =>
      let (seen, after) := observe state operation
      let (rest, final) := observeAll observe after operations
      (seen :: rest, final)

/-- The last operation of a run is seen from the state that the others leave. -/
theorem observeAll_append
    (observe : State → Operation → Observation × State)
    (state : State)
    (operations : List Operation)
    (operation : Operation) :
    observeAll observe state (operations ++ [operation]) =
      ((observeAll observe state operations).1 ++
          [(observe (observeAll observe state operations).2 operation).1],
        (observe (observeAll observe state operations).2 operation).2) := by
  induction operations generalizing state with
  | nil => rfl
  | cons first operations inductionHypothesis =>
      simp only [List.cons_append, observeAll, inductionHypothesis]

/--
Two runs are not seen alike if something else is seen of their last operation.
-/
theorem observeAll_append_ne
    {observe other : State → Operation → Observation × State}
    {state start : State}
    {operations : List Operation}
    {operation : Operation}
    (differ :
      (observe (observeAll observe state operations).2 operation).1 ≠
        (other (observeAll other start operations).2 operation).1) :
    (observeAll observe state (operations ++ [operation])).1 ≠
      (observeAll other start (operations ++ [operation])).1 := by
  intro same
  rw [observeAll_append, observeAll_append] at same
  exact differ (List.singleton_inj.mp (List.append_inj' same rfl).2)

end

namespace StepId

/-- The order of ids stays while neither goes around the circle. -/
theorem add_lt_add_iff
    {start first second : StepId}
    (firstFits : start.toNat + first.toNat < UInt32.size)
    (secondFits : start.toNat + second.toNat < UInt32.size) :
    start + first < start + second ↔ first < second := by
  have firstSum := toNat_add_ofNat firstFits
  have secondSum := toNat_add_ofNat secondFits
  rw [UInt32.ofNat_toNat] at firstSum secondSum
  rw [UInt32.lt_iff_toNat_lt, UInt32.lt_iff_toNat_lt, firstSum, secondSum]
  exact Nat.add_lt_add_iff_left

/-- The distance of two ids is the same wherever they are counted from. -/
theorem add_sub_add (start first second : StepId) :
    start + first - (start + second) = first - second := by
  rw [UInt32.sub_eq_iff_eq_add, UInt32.add_comm start second,
    ← UInt32.add_assoc, UInt32.sub_add_cancel, UInt32.add_comm]

/-- The id at the end of the circle is zero. -/
theorem add_ofNat_eq_zero
    {start : StepId}
    {offset : Nat}
    (around : start.toNat + offset = UInt32.size)
    (small : offset < UInt32.size) :
    start + UInt32.ofNat offset = 0 := by
  rw [← UInt32.toNat_inj, UInt32.toNat_add,
    UInt32.toNat_ofNat_of_lt' small, around]
  rfl

/-- On the circle of ids, too, a start that was added can be taken away. -/
theorem add_sub_self (start id : StepId) : start + id - start = id := by
  rw [UInt32.add_comm, UInt32.add_sub_cancel]

end StepId

namespace Step

/-- A step counted from another number. -/
def renumber (start : StepId) (step : Step) : Step :=
  ⟨start + step.id, step.payload⟩

theorem payload_renumber (start : StepId) (step : Step) :
    (step.renumber start).payload = step.payload :=
  rfl

/-- As many steps are in front of a bound while no id goes around the circle. -/
theorem length_takeWhile_renumber
    {start bound : StepId}
    {steps : List Step}
    (fits : start.toNat + bound.toNat < UInt32.size)
    (heldFit : ∀ step ∈ steps,
      start.toNat + step.id.toNat < UInt32.size) :
    ((steps.map (renumber start)).takeWhile fun step =>
        step.id < start + bound).length =
      (steps.takeWhile fun step => step.id < bound).length := by
  induction steps with
  | nil => rfl
  | cons step steps inductionHypothesis =>
      obtain ⟨firstFits, restFit⟩ := List.forall_mem_cons.mp heldFit
      have rest := inductionHypothesis restFit
      simp only [List.map_cons, List.takeWhile_cons, renumber,
        StepId.add_lt_add_iff firstFits fits]
      split
      · rw [List.length_cons, List.length_cons, ← rest]
      · rfl

end Step

namespace StepQueue

/-- A queue whose steps are counted from another number. -/
def renumber (start : StepId) (queue : StepQueue) : StepQueue where
  steps := queue.steps.map (Step.renumber start)
  nextId := start + queue.nextId
  capacity := queue.capacity

variable (start : StepId) (queue : StepQueue)

/-- A queue that starts elsewhere is a renumbered one. -/
theorem renumber_startingAt (capacity : Nat) :
    (startingAt 0 capacity).renumber start = startingAt start capacity := by
  simp [renumber, startingAt]

theorem length_renumber : (queue.renumber start).length = queue.length :=
  List.length_map _

theorem room_renumber : (queue.renumber start).room = queue.room := by
  simp [room, renumber]

/-- The next id to read is renumbered as well. -/
theorem readId_renumber :
    (queue.renumber start).readId = start + queue.readId := by
  unfold readId
  cases steps : queue.steps <;> simp [renumber, steps, Step.renumber]

/-- Payloads are appended under renumbered ids. -/
theorem extend_renumber (payloads : List Octets) :
    (queue.renumber start).extend payloads =
      (queue.extend payloads).renumber start := by
  have numbered (first : StepId) :
      (StepRun.number first payloads).map (Step.renumber start) =
        StepRun.number (start + first) payloads := by
    apply List.ext_getElem?
    intro index
    rw [List.getElem?_map, StepRun.getElem?_number, StepRun.getElem?_number,
      Option.map_map, UInt32.add_assoc]
    rfl
  simp [extend, renumber, numbered, UInt32.add_assoc]

/-- The next step is written wherever the steps are counted from. -/
theorem write_renumber (payload : Octets) :
    (queue.renumber start).write (queue.renumber start).nextId payload =
      (queue.write queue.nextId payload).map (renumber start) := by
  rw [write_nextId, write_nextId, room_renumber, extend_renumber]
  split <;> rfl

/-- The first step is read wherever the steps are counted from. -/
theorem read_renumber :
    (queue.renumber start).read =
      queue.read.map fun (step, rest) =>
        (step.renumber start, rest.renumber start) := by
  unfold read
  cases steps : queue.steps <;> simp [renumber, steps]

/-- A step is found wherever the steps are counted from. -/
theorem stepsFrom_renumber (id : StepId) :
    (queue.renumber start).stepsFrom (start + id) =
      (queue.stepsFrom id).map (Step.renumber start) := by
  have found :
      (queue.renumber start).steps.drop
          (start + id - (queue.renumber start).readId).toNat =
        (queue.steps.drop (id - queue.readId).toNat).map
          (Step.renumber start) := by
    rw [readId_renumber, StepId.add_sub_add, List.map_drop]
    rfl
  unfold stepsFrom
  rw [found]
  cases queue.steps.drop (id - queue.readId).toNat with
  | nil => rfl
  | cons step steps =>
      simp only [List.map_cons, Step.renumber, UInt32.add_right_inj]
      split <;> rfl

variable {start queue}

/-- As many steps are discarded while no id goes around the circle. -/
theorem countBelow_renumber
    {id : StepId}
    (fits : start.toNat + id.toNat < UInt32.size)
    (heldFit : ∀ step ∈ queue.steps,
      start.toNat + step.id.toNat < UInt32.size) :
    (queue.renumber start).countBelow (start + id) =
      queue.countBelow id :=
  Step.length_takeWhile_renumber fits heldFit

/-- While no id goes around the circle, the same steps are discarded. -/
theorem discardBelow_renumber
    {id : StepId}
    (fits : start.toNat + id.toNat < UInt32.size)
    (heldFit : ∀ step ∈ queue.steps,
      start.toNat + step.id.toNat < UInt32.size) :
    (queue.renumber start).discardBelow (start + id) =
      (queue.discardBelow id).renumber start := by
  unfold discardBelow
  rw [countBelow_renumber fits heldFit]
  simp [renumber]

end StepQueue

end StepSync
