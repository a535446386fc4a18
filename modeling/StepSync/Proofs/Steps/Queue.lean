import StepSync.Proofs.Steps.Redundancy

namespace StepSync

/-!
# The steps in a queue count up

A queue is only ever written at its end and cut at its front, so the steps in it
have consecutive ids, wrapping around.  A run written from any step on is therefore
read back as the very steps of the queue.
-/

namespace StepRun

/-- Payloads that follow others are numbered on. -/
theorem number_append (first : StepId) (earlier later : List Octets) :
    number first (earlier ++ later) =
      number first earlier ++
        number (first + UInt32.ofNat earlier.length) later := by
  induction earlier generalizing first with
  | nil => simp [number]
  | cons payload earlier inductionHypothesis =>
      rw [List.cons_append, number, number, inductionHypothesis,
        StepId.add_one_add_ofNat, List.cons_append, List.length_cons]

theorem take_number (first : StepId) (payloads : List Octets) (count : Nat) :
    (number first payloads).take count =
      number first (payloads.take count) := by
  apply List.ext_getElem?
  intro index
  rw [List.getElem?_take, getElem?_number, getElem?_number,
    List.getElem?_take]
  split <;> rfl

/-- What is left of a numbered run is numbered from further on. -/
theorem drop_number (first : StepId) (payloads : List Octets) (count : Nat) :
    (number first payloads).drop count =
      number (first + UInt32.ofNat count) (payloads.drop count) := by
  apply List.ext_getElem?
  intro index
  rw [List.getElem?_drop, getElem?_number, getElem?_number,
    List.getElem?_drop, UInt32.ofNat_add, UInt32.add_assoc]

end StepRun

namespace StepQueue

/-- The steps held count up, to the id of the next one to be written. -/
def CountsUp (queue : StepQueue) : Prop :=
  ∃ first payloads,
    queue.steps = StepRun.number first payloads ∧
      queue.nextId = first + UInt32.ofNat payloads.length

variable {queue : StepQueue}

theorem countsUp_empty (first : StepId) (capacity : Nat) :
    CountsUp ⟨[], first, capacity⟩ :=
  ⟨first, [], rfl, (UInt32.add_zero first).symm⟩

namespace CountsUp

/-- A step that is written next counts up. -/
theorem write
    (countsUp : queue.CountsUp)
    {payload : Octets}
    {longer : StepQueue}
    (written : queue.write queue.nextId payload = .ok longer) :
    longer.CountsUp := by
  obtain ⟨first, payloads, steps, next⟩ := countsUp
  rw [write_nextId] at written
  split at written
  · cases written
  · obtain rfl := Except.ok.inj written
    refine ⟨first, payloads ++ [payload], ?_, ?_⟩
    · rw [StepRun.number_append, ← next, ← steps]
      rfl
    · rw [List.length_append, UInt32.ofNat_add, ← UInt32.add_assoc, ← next]
      rfl

/-- Without some steps at the front, the others still count up. -/
theorem drop
    (countsUp : queue.CountsUp)
    {count : Nat}
    (few : count ≤ queue.steps.length) :
    CountsUp { queue with steps := queue.steps.drop count } := by
  obtain ⟨first, payloads, steps, next⟩ := countsUp
  rw [steps, StepRun.length_number] at few
  refine ⟨first + UInt32.ofNat count, payloads.drop count, ?_, ?_⟩
  · rw [← StepRun.drop_number, ← steps]
  · rw [List.length_drop, UInt32.add_assoc, ← UInt32.ofNat_add,
      Nat.add_sub_cancel' few]
    exact next

/-- No more steps are discarded than are held. -/
theorem countBelow_le (queue : StepQueue) (id : StepId) :
    queue.countBelow id ≤ queue.steps.length :=
  (List.takeWhile_prefix fun step : Step => step.id < id).length_le

/-- Steps are discarded at the front, so the others still count up. -/
theorem discardBelow (countsUp : queue.CountsUp) (id : StepId) :
    (queue.discardBelow id).CountsUp :=
  countsUp.drop (countBelow_le queue id)

/-- The steps from an id on count up from it. -/
theorem stepsFrom (countsUp : queue.CountsUp) (id : StepId) :
    ∃ payloads, queue.stepsFrom id = StepRun.number id payloads := by
  obtain ⟨first, payloads, steps, _⟩ := countsUp
  unfold StepQueue.stepsFrom
  rw [steps, StepRun.drop_number]
  generalize first + UInt32.ofNat (id - queue.readId).toNat = begin
  cases payloads.drop (id - queue.readId).toNat with
  | nil => exact ⟨[], rfl⟩
  | cons payload left =>
      simp only [StepRun.number]
      split
      case isTrue same =>
        subst same
        exact ⟨payload :: left, rfl⟩
      case isFalse => exact ⟨[], rfl⟩

/-- A run from the cursor on has the steps of the queue. -/
theorem number_run
    (countsUp : queue.CountsUp)
    (redundancy : Redundancy)
    (room : Nat) :
    StepRun.number redundancy.cursor (redundancy.run queue room) =
      (queue.stepsFrom redundancy.cursor).take
        (redundancy.run queue room).length := by
  obtain ⟨payloads, found⟩ := countsUp.stepsFrom redundancy.cursor
  have front :=
    Redundancy.fitting_eq_take (room - Redundancy.runOverhead)
      ((queue.stepsFrom redundancy.cursor).take Redundancy.longestRun)
  have few :=
    Redundancy.length_fitting_le (room - Redundancy.runOverhead)
      ((queue.stepsFrom redundancy.cursor).take Redundancy.longestRun)
  rw [List.length_take] at few
  rw [← Redundancy.run] at front few
  generalize redundancy.run queue room = run at front few
  rw [List.take_take, Nat.min_eq_left (Nat.le_trans few (Nat.min_le_left _ _)),
    found, StepRun.take_number, StepRun.payloads_number] at front
  rw [found, StepRun.take_number, ← front]

end CountsUp

end StepQueue

end StepSync
