import StepSync.Steps.Basic

namespace StepSync

/-!
# Step queues

A queue holds consecutive steps. Steps enter at the end, in the order of their
ids, and leave at the front, by being read or by being discarded.
-/

/--
Steps in order, the id that the next one must have, and the most
steps held at once.
-/
structure StepQueue where
  steps : List Step
  nextId : StepId
  capacity : Nat
  deriving Repr, DecidableEq

namespace StepQueue

/-- An empty queue whose first step will have the given id. -/
def startingAt (first : StepId) (capacity : Nat) : StepQueue :=
  ⟨[], first, capacity⟩

/-- Drop every step and go on from another id. -/
def restart (queue : StepQueue) (first : StepId) : StepQueue :=
  { queue with steps := [], nextId := first }

/-- The number of steps held. -/
def length (queue : StepQueue) : Nat :=
  queue.steps.length

/-- No step is held. -/
def isEmpty (queue : StepQueue) : Bool :=
  queue.steps.isEmpty

/-- No further step fits. -/
def isFull (queue : StepQueue) : Bool :=
  queue.capacity ≤ queue.steps.length

/-- The id of the step that is read next, now or once it is written. -/
def readId (queue : StepQueue) : StepId :=
  match queue.steps with
  | [] => queue.nextId
  | first :: _ => first.id

/-- Append the next step; one of another id, or one too many, is refused. -/
def write (queue : StepQueue) (id : StepId) (payload : Octets) :
    Except StepError StepQueue :=
  if id ≠ queue.nextId then
    .error (.outOfOrder queue.nextId id)
  else if queue.isFull then
    .error (.full queue.capacity)
  else
    .ok { queue with
      steps := queue.steps ++ [⟨id, payload⟩]
      nextId := queue.nextId + 1 }

/-- Take the first step. -/
def read (queue : StepQueue) : Option (Step × StepQueue) :=
  match queue.steps with
  | [] => none
  | first :: rest => some (first, { queue with steps := rest })

/-- The steps from the one of an id on; none when it is not held. -/
def stepsFrom (queue : StepQueue) (id : StepId) : List Step :=
  let found := queue.steps.drop (id - queue.readId).toNat
  match found with
  | [] => []
  | step :: _ => if step.id = id then found else []

/-- The step of an id, if it is held. -/
def get? (queue : StepQueue) (id : StepId) : Option Step :=
  (queue.stepsFrom id).head?

/--
How many steps at the front have an id below the given one, ids compared as
plain numbers.
-/
def countBelow (queue : StepQueue) (id : StepId) : Nat :=
  (queue.steps.takeWhile fun step => step.id < id).length

/-- Drop the steps at the front whose ids are below the given one. -/
def discardBelow (queue : StepQueue) (id : StepId) : StepQueue :=
  { queue with steps := queue.steps.drop (queue.countBelow id) }

end StepQueue

end StepSync
