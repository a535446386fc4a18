import Mathlib.Data.List.Nodup
import Mathlib.Data.List.TakeWhile
import StepSync.Proofs.Steps.Queue

namespace StepSync

/-!
# Looking steps up

The steps in a queue have consecutive ids, so a step is found without a search:
its place is the distance of its id from the first one, around the circle.  What
is found that way is what a search would find (`StepQueue.CountsUp.stepsFrom_eq`).
It is the only step of its id, since a queue is shorter than the circle
(`StepQueue.addresses_steps`).
-/

namespace StepId

/-- An id that is not the first one is one closer to the one after it. -/
theorem toNat_sub_of_ne
    {id first : StepId}
    (other : first ≠ id) :
    (id - first).toNat = (id - (first + 1)).toNat + 1 := by
  have apart : first.toNat ≠ id.toNat := fun same =>
    other (UInt32.toNat_inj.mp same)
  have firstSmall := first.toNat_lt
  have idSmall := id.toNat_lt
  rw [UInt32.toNat_sub, UInt32.toNat_sub, UInt32.toNat_add,
    UInt32.toNat_one]
  omega

end StepId

namespace StepRun

/-- The first step of an id in a run stands as far behind as the id is apart. -/
theorem dropWhile_number
    (first id : StepId)
    (payloads : List Octets) :
    ((number first payloads).dropWhile fun step => step.id ≠ id) =
      (number first payloads).drop (id - first).toNat := by
  induction payloads generalizing first with
  | nil => rw [number, List.dropWhile_nil, List.drop_nil]
  | cons payload payloads inductionHypothesis =>
      by_cases here : first = id
      · subst here
        rw [number, List.dropWhile_cons_of_neg (by simp), UInt32.sub_self,
          UInt32.toNat_zero, List.drop_zero]
      · rw [number, List.dropWhile_cons_of_pos (by simpa using here),
          inductionHypothesis, StepId.toNat_sub_of_ne here,
          List.drop_succ_cons]

/-- A run that is not longer than the circle has no id twice. -/
theorem nodup_ids_number
    {first : StepId}
    {payloads : List Octets}
    (fits : payloads.length ≤ UInt32.size) :
    ((number first payloads).map Step.id).Nodup := by
  rw [List.nodup_iff_getElem?_ne_getElem?]
  intro earlier later before within
  rw [List.length_map, length_number] at within
  have earlierWithin := Nat.lt_trans before within
  simp only [List.getElem?_map, getElem?_number,
    List.getElem?_eq_getElem within,
    List.getElem?_eq_getElem earlierWithin, Option.map_some]
  intro same
  have samePlace :=
    (StepId.add_ofNat_inj first
      (Nat.lt_of_lt_of_le earlierWithin fits)
      (Nat.lt_of_lt_of_le within fits)).mp (Option.some.inj same)
  exact Nat.ne_of_lt before samePlace

end StepRun

/-- Where no id is there twice, a search for the id of a step ends at the step. -/
theorem Step.find?_of_mem
    {steps : List Step}
    (distinct : (steps.map Step.id).Nodup)
    {step : Step}
    (member : step ∈ steps) :
    (steps.find? fun other => other.id = step.id) = some step := by
  have ends :
      (steps.find? fun other => other.id = step.id).isSome = true :=
    List.find?_isSome.mpr ⟨step, member, decide_eq_true rfl⟩
  obtain ⟨other, found⟩ := Option.isSome_iff_exists.mp ends
  have sameId : other.id = step.id := by
    simpa using List.find?_some found
  have same :=
    List.inj_on_of_nodup_map distinct (List.mem_of_find?_eq_some found)
      member sameId
  rw [found, same]

namespace StepQueue

variable {queue : StepQueue}

/-! ## What is found -/

/-- The ids count from the one that is read next. -/
theorem CountsUp.exists_number (countsUp : queue.CountsUp) :
    ∃ payloads,
      queue.steps = StepRun.number queue.readId payloads ∧
        queue.nextId = queue.readId + UInt32.ofNat payloads.length := by
  obtain ⟨first, payloads, steps, next⟩ := countsUp
  have reads : queue.readId = first := by
    rw [readId, steps]
    cases payloads with
    | nil =>
        rw [next]
        exact UInt32.add_zero first
    | cons payload payloads => rfl
  rw [reads]
  exact ⟨payloads, steps, next⟩

/-- The steps from an id on are those that a search from the front would leave. -/
theorem CountsUp.stepsFrom_eq (countsUp : queue.CountsUp) (id : StepId) :
    queue.stepsFrom id = queue.steps.dropWhile fun step => step.id ≠ id := by
  obtain ⟨payloads, steps, _⟩ := countsUp.exists_number
  have dropped :
      queue.steps.drop (id - queue.readId).toNat =
        queue.steps.dropWhile fun step => step.id ≠ id := by
    rw [steps]
    exact (StepRun.dropWhile_number _ id payloads).symm
  rw [StepQueue.stepsFrom, dropped]
  have head :=
    List.head?_dropWhile_not (fun step => step.id ≠ id) queue.steps
  cases found : queue.steps.dropWhile fun step => step.id ≠ id with
  | nil => rfl
  | cons step later =>
      rw [found] at head
      have same : step.id = id := by simpa using head
      exact if_pos same

/-- The step of an id is the one that a search would find. -/
theorem CountsUp.get?_eq (countsUp : queue.CountsUp) (id : StepId) :
    queue.get? id = queue.steps.find? fun step => step.id = id := by
  rw [get?, countsUp.stepsFrom_eq, List.find?_eq_head?_dropWhile_not]
  simp only [decide_not]

/-- From a step that is held on, the steps are an end of those that are held. -/
theorem CountsUp.stepsFrom_of_held
    (countsUp : queue.CountsUp)
    {id : StepId}
    (held : ∃ step ∈ queue.steps, step.id = id) :
    ∃ earlier,
      queue.steps = earlier ++ queue.stepsFrom id ∧
        (queue.stepsFrom id).head?.map Step.id = some id := by
  obtain ⟨step, member, same⟩ := held
  refine ⟨queue.steps.takeWhile fun step => step.id ≠ id, ?_, ?_⟩
  · rw [countsUp.stepsFrom_eq, List.takeWhile_append_dropWhile]
  · have ends : (queue.get? id).isSome = true := by
      rw [countsUp.get?_eq, List.find?_isSome]
      exact ⟨step, member, decide_eq_true same⟩
    obtain ⟨first, found⟩ := Option.isSome_iff_exists.mp ends
    rw [← get?, found, Option.map_some]
    rw [countsUp.get?_eq] at found
    exact congrArg some (of_decide_eq_true (List.find?_some found :))

/-- From a step that is not held on, there are none. -/
theorem CountsUp.stepsFrom_of_missing
    (countsUp : queue.CountsUp)
    {id : StepId}
    (missing : ∀ step ∈ queue.steps, step.id ≠ id) :
    queue.stepsFrom id = [] := by
  rw [countsUp.stepsFrom_eq, List.dropWhile_eq_nil_iff]
  exact fun step member => decide_eq_true (missing step member)

/-! ## Queues that can come about -/

/--
What is done to a queue: a step is written or read, steps are discarded, or
it starts over.
-/
inductive Operation where
  | write (id : StepId) (payload : Octets)
  | read
  | discardBelow (id : StepId)
  | restart (first : StepId)
  deriving Repr, DecidableEq

/--
The queue that an operation leaves; a step that is refused leaves it as it was.
-/
def perform (queue : StepQueue) : Operation → StepQueue
  | .write id payload => (queue.write id payload).toOption.getD queue
  | .read => queue.read.elim queue Prod.snd
  | .discardBelow id => queue.discardBelow id
  | .restart first => queue.restart first

/-- The queue that a run of operations leaves. -/
def reached
    (first : StepId)
    (capacity : Nat)
    (operations : List Operation) :
    StepQueue :=
  operations.foldl perform (startingAt first capacity)

/-- The ids count up, and there are not too many steps. -/
structure Bounded (capacity : Nat) (queue : StepQueue) : Prop where
  countsUp : queue.CountsUp
  sized : queue.capacity = capacity
  few : queue.steps.length ≤ capacity

/--
A step is refused for its id or for want of room, and else it is the newest one.
-/
theorem write_cases (queue : StepQueue) (id : StepId) (payload : Octets) :
    (id ≠ queue.nextId ∧
        queue.write id payload = .error (.outOfOrder queue.nextId id)) ∨
      (id = queue.nextId ∧ queue.capacity ≤ queue.steps.length ∧
        queue.write id payload = .error (.full queue.capacity)) ∨
      (id = queue.nextId ∧ queue.steps.length < queue.capacity ∧
        queue.write id payload = .ok (queue.extend [payload])) := by
  by_cases next : id = queue.nextId
  · subst next
    rw [write_nextId, room]
    by_cases full : queue.capacity ≤ queue.steps.length
    · rw [if_pos (Nat.sub_eq_zero_of_le full)]
      exact .inr (.inl ⟨rfl, full, rfl⟩)
    · rw [if_neg (by omega)]
      exact .inr (.inr ⟨rfl, Nat.lt_of_not_le full, rfl⟩)
  · exact .inl ⟨next, if_pos next⟩

namespace Bounded

variable {capacity : Nat}

/-- Whatever steps go at the front, the others are none too many. -/
theorem drop
    (bounded : Bounded capacity queue)
    {count : Nat}
    (few : count ≤ queue.steps.length) :
    Bounded capacity { queue with steps := queue.steps.drop count } where
  countsUp := bounded.countsUp.drop few
  sized := bounded.sized
  few := Nat.le_trans (List.drop_suffix _ _).length_le bounded.few

theorem write
    (bounded : Bounded capacity queue)
    (id : StepId)
    (payload : Octets) :
    Bounded capacity (queue.perform (.write id payload)) := by
  rw [perform]
  rcases queue.write_cases id payload with
    ⟨_, refused⟩ | ⟨_, _, refused⟩ | ⟨next, notFull, written⟩
  · rw [refused]
    exact bounded
  · rw [refused]
    exact bounded
  · rw [written]
    subst next
    refine ⟨bounded.countsUp.write written, bounded.sized, ?_⟩
    rw [bounded.sized] at notFull
    rw [Except.toOption, Option.getD_some, extend, List.length_append]
    exact notFull

/-- No operation leaves a gap between two steps, or one too many. -/
theorem perform
    (bounded : Bounded capacity queue)
    (operation : Operation) :
    Bounded capacity (queue.perform operation) := by
  cases operation with
  | write id payload => exact bounded.write id payload
  | read =>
      rw [StepQueue.perform, StepQueue.read]
      cases steps : queue.steps with
      | nil => exact bounded
      | cons step later =>
          have nonempty : 1 ≤ queue.steps.length := by
            rw [steps, List.length_cons]
            exact Nat.le_add_left 1 _
          have kept := bounded.drop nonempty
          rw [steps] at kept
          exact kept
  | discardBelow id => exact bounded.drop (CountsUp.countBelow_le queue id)
  | restart first =>
      exact ⟨countsUp_empty first _, bounded.sized, Nat.zero_le _⟩

end Bounded

theorem bounded_reached
    (first : StepId)
    (capacity : Nat)
    (operations : List Operation) :
    Bounded capacity (reached first capacity operations) :=
  List.foldlRecOn operations StepQueue.perform
    ⟨countsUp_empty first capacity, rfl, Nat.zero_le _⟩
    fun _ bounded operation _ => bounded.perform operation

/-- Every step is where its id says, and is found there. -/
structure Addresses (capacity : Nat) (queue : StepQueue) : Prop where
  few : queue.length ≤ capacity
  placed : ∀ index step, queue.steps[index]? = some step →
    step.id = queue.readId + UInt32.ofNat index
  newest : ∀ step ∈ queue.steps.getLast?, step.id = queue.nextId - 1
  next : queue.readId + UInt32.ofNat queue.length = queue.nextId
  found : ∀ id step,
    queue.get? id = some step ↔ step ∈ queue.steps ∧ step.id = id
  onward : ∀ id, (∃ step ∈ queue.steps, step.id = id) →
    ∃ earlier,
      queue.steps = earlier ++ queue.stepsFrom id ∧
        (queue.stepsFrom id).head?.map Step.id = some id
  missing : ∀ id, (∀ step ∈ queue.steps, step.id ≠ id) →
    queue.stepsFrom id = []
  written : ∀ id payload,
    if id = queue.nextId ∧ queue.length < capacity then
      ∃ longer,
        queue.write id payload = .ok longer ∧
          longer.steps = queue.steps ++ [⟨id, payload⟩]
    else
      (∃ failure, queue.write id payload = .error failure) ∧
        queue.perform (.write id payload) = queue

/-- Where the ids count up, and no id is there twice, every step is found. -/
theorem Bounded.addresses
    {capacity : Nat}
    (bounded : Bounded capacity queue)
    (small : capacity < UInt32.size) :
    Addresses capacity queue := by
  obtain ⟨payloads, steps, next⟩ := bounded.countsUp.exists_number
  have length : queue.length = payloads.length := by
    rw [StepQueue.length, steps, StepRun.length_number]
  have few : payloads.length ≤ capacity := length ▸ bounded.few
  have placed (index : Nat) (step : Step)
      (found : queue.steps[index]? = some step) :
      step.id = queue.readId + UInt32.ofNat index := by
    rw [steps, StepRun.getElem?_number, Option.map_eq_some_iff] at found
    obtain ⟨payload, _, rfl⟩ := found
    rfl
  have distinct : (queue.steps.map Step.id).Nodup := by
    rw [steps]
    exact StepRun.nodup_ids_number (Nat.le_of_lt (Nat.lt_of_le_of_lt few small))
  constructor
  case few => exact bounded.few
  case placed => exact placed
  case newest =>
    intro step newest
    rw [Option.mem_def, List.getLast?_eq_getElem?] at newest
    have inside := (List.getElem?_eq_some_iff.mp newest).1
    rw [placed _ step newest, next, ← length, StepQueue.length]
    have last : queue.steps.length = queue.steps.length - 1 + 1 := by omega
    generalize queue.steps.length - 1 = before at last
    rw [last, UInt32.ofNat_add, ← UInt32.add_assoc]
    exact (UInt32.add_sub_cancel _ _).symm
  case next => rw [length, next]
  case found =>
    intro id step
    rw [bounded.countsUp.get?_eq]
    constructor
    · intro found
      exact ⟨List.mem_of_find?_eq_some found,
        by simpa using List.find?_some found⟩
    · rintro ⟨member, rfl⟩
      exact Step.find?_of_mem distinct member
  case onward => exact fun id held => bounded.countsUp.stepsFrom_of_held held
  case missing =>
    exact fun id missing => bounded.countsUp.stepsFrom_of_missing missing
  case written =>
    intro id payload
    have sized := bounded.sized
    rcases queue.write_cases id payload with
      ⟨other, refused⟩ | ⟨_, full, refused⟩ | ⟨same, notFull, written⟩
    · rw [if_neg (fun fits => other fits.1)]
      exact ⟨⟨_, refused⟩, by rw [StepQueue.perform, refused]; rfl⟩
    · rw [if_neg (fun fits => Nat.not_lt.mpr (sized ▸ full) fits.2)]
      exact ⟨⟨_, refused⟩, by rw [StepQueue.perform, refused]; rfl⟩
    · rw [if_pos ⟨same, sized ▸ notFull⟩]
      subst same
      exact ⟨_, written, rfl⟩

/--
Whatever was written, read, discarded or started over, a queue that is shorter
than the circle of ids holds consecutive steps, and finds each of them by its id,
wherever on the circle they are.
-/
theorem addresses_steps
    (first : StepId)
    {capacity : Nat}
    (small : capacity < UInt32.size)
    (operations : List Operation) :
    Addresses capacity (reached first capacity operations) :=
  (bounded_reached first capacity operations).addresses small

/-- Three steps around zero, of which the first was read. -/
def aroundZero : List Operation :=
  [.write 0xFFFFFFFE [1], .write 0xFFFFFFFF [2], .read, .write 0 [3],
    .write 5 [4]]

theorem addresses_steps_aroundZero :
    3 < UInt32.size ∧
      (reached 0xFFFFFFFE 3 aroundZero).steps =
        [⟨0xFFFFFFFF, [2]⟩, ⟨0, [3]⟩] ∧
      Addresses 3 (reached 0xFFFFFFFE 3 aroundZero) :=
  ⟨by decide, by decide,
    addresses_steps 0xFFFFFFFE (by decide) aroundZero⟩

end StepQueue

end StepSync
