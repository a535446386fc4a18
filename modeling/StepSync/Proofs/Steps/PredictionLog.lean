import StepSync.Proofs.Steps.Queue

namespace StepSync

/-!
# The log of predicted steps

A log says what has become of the predicted steps since they were anchored: which
were written, and what the server has acknowledged, in order.  The steps that no
later acknowledgement covers are `outstanding`.  As long as the ids do not wrap
around, they are the steps in the queue (`PredictionLog.Kept`), which is written
at its end and cut at its front.
-/

/-- A step was written, or the server says up to which id it has them. -/
inductive PredictionEntry where
  | written (step : Step)
  | acknowledged (last : StepId)
  deriving Repr, DecidableEq

/-- The id that the first step was to have, and what has happened since. -/
structure PredictionLog where
  anchor : StepId
  entries : List PredictionEntry
  deriving Repr, DecidableEq

namespace PredictionEntry

/-- The step that was written. -/
def step? : PredictionEntry → Option Step
  | written step => some step
  | acknowledged _ => none

/--
The server has the step; an acknowledgement with the largest id stands for none.
-/
def Covers (step : Step) : PredictionEntry → Prop
  | written _ => False
  | acknowledged last => last ≠ 0xFFFFFFFF ∧ step.id ≤ last

instance (step : Step) (entry : PredictionEntry) :
    Decidable (entry.Covers step) := by
  cases entry <;> unfold Covers <;> infer_instance

/-- What has become of the queue: written at its end, or cut at its front. -/
def apply (queue : StepQueue) : PredictionEntry → StepQueue
  | written step => queue.extend [step.payload]
  | acknowledged last => queue.discardBelow (last + 1)

/-- The steps of which no later entry says that the server has them. -/
def outstanding : List PredictionEntry → List Step
  | [] => []
  | acknowledged _ :: later => outstanding later
  | written step :: later =>
      if ∃ entry ∈ later, entry.Covers step then outstanding later
      else step :: outstanding later

/-- A step that was just written is outstanding. -/
theorem outstanding_written (entries : List PredictionEntry) (step : Step) :
    outstanding (entries ++ [written step]) = outstanding entries ++ [step] := by
  induction entries with
  | nil => simp [outstanding]
  | cons entry entries inductionHypothesis =>
      cases entry with
      | acknowledged last => exact inductionHypothesis
      | written first =>
          have same :
              (∃ entry ∈ entries ++ [written step], entry.Covers first) ↔
                ∃ entry ∈ entries, entry.Covers first := by
            simp [Covers]
          simp only [List.cons_append, outstanding, same,
            inductionHypothesis]
          split <;> rfl

/-- An acknowledgement takes away what it covers. -/
theorem outstanding_acknowledged
    (entries : List PredictionEntry)
    (last : StepId) :
    outstanding (entries ++ [acknowledged last]) =
      (outstanding entries).filter fun step =>
        ¬(acknowledged last).Covers step := by
  induction entries with
  | nil => rfl
  | cons entry entries inductionHypothesis =>
      cases entry with
      | acknowledged earlier => exact inductionHypothesis
      | written step =>
          have further :
              (∃ entry ∈ entries ++ [acknowledged last],
                  entry.Covers step) ↔
                (∃ entry ∈ entries, entry.Covers step) ∨
                  (acknowledged last).Covers step := by
            simp [or_and_right, exists_or]
          simp only [List.cons_append, outstanding, further,
            inductionHypothesis]
          by_cases covered : ∃ entry ∈ entries, entry.Covers step
          · simp [covered]
          · by_cases now : (acknowledged last).Covers step <;>
              simp [covered, now]

end PredictionEntry

namespace StepId

/--
Below the id after the last one are those up to it, unless that is the
largest of all.
-/
theorem lt_add_one_iff (id last : StepId) :
    id < last + 1 ↔ last ≠ 0xFFFFFFFF ∧ id ≤ last := by
  rw [UInt32.lt_iff_toNat_lt, UInt32.le_iff_toNat_le, UInt32.toNat_add,
    ne_eq, ← UInt32.toNat_inj]
  have bounded := last.toNat_lt
  simp only [UInt32.reduceToNat]
  omega

end StepId

/-- The ids of a run go up, if they do not wrap around. -/
theorem StepRun.pairwise_number
    {first : StepId}
    {payloads : List Octets}
    (fits : first.toNat + payloads.length ≤ UInt32.size) :
    (number first payloads).Pairwise fun earlier later =>
      earlier.id < later.id := by
  rw [List.pairwise_iff_getElem]
  intro one other oneWithin otherWithin before
  have placed (index : Nat) (within : index < (number first payloads).length) :
      ((number first payloads)[index]).id.toNat = first.toNat + index := by
    have found := getElem?_number first payloads index
    rw [length_number] at within
    rw [List.getElem?_eq_getElem (by rwa [length_number]),
      List.getElem?_eq_getElem within] at found
    rw [Option.some.inj found]
    exact StepId.toNat_add_ofNat (by omega)
  rw [UInt32.lt_iff_toNat_lt, placed _ oneWithin, placed _ otherWithin]
  omega

/--
In a queue whose ids go up, discarding from the front takes every step
below the bound.
-/
theorem StepQueue.steps_discardBelow
    {queue : StepQueue}
    (ascending : queue.steps.Pairwise fun earlier later =>
      earlier.id < later.id)
    (bound : StepId) :
    (queue.discardBelow bound).steps =
      queue.steps.filter fun step => ¬step.id < bound := by
  unfold discardBelow countBelow
  dsimp only
  generalize queue.steps = steps at ascending
  induction steps with
  | nil => rfl
  | cons step steps inductionHypothesis =>
      obtain ⟨first, rest⟩ := List.pairwise_cons.mp ascending
      by_cases below : step.id < bound
      · rw [List.takeWhile_cons_of_pos (by simpa using below),
          List.filter_cons_of_neg (by simpa using below)]
        exact inductionHypothesis rest
      · have noneBelow : ∀ later ∈ step :: steps, ¬later.id < bound := by
          refine List.forall_mem_cons.mpr ⟨below, fun later member less => ?_⟩
          exact below (UInt32.lt_trans (first later member) less)
        rw [List.takeWhile_cons_of_neg (by simpa using below),
          List.filter_eq_self.mpr fun later member =>
            decide_eq_true (noneBelow later member)]
        rfl

namespace PredictionLog

/-- Nothing has happened since the anchoring. -/
def anchoredAt (anchor : StepId) : PredictionLog :=
  ⟨anchor, []⟩

/-- Something more has happened. -/
def add (log : PredictionLog) (entry : PredictionEntry) : PredictionLog :=
  { log with entries := log.entries ++ [entry] }

/-- The steps that were written, in order. -/
def written (log : PredictionLog) : List Step :=
  log.entries.filterMap PredictionEntry.step?

/-- The steps that the server is not known to have. -/
def outstanding (log : PredictionLog) : List Step :=
  PredictionEntry.outstanding log.entries

/-- The ids of the written steps are below the largest of all. -/
def InRange (log : PredictionLog) : Prop :=
  log.anchor.toNat + log.written.length < UInt32.size

variable {log : PredictionLog}

/-- The written steps are those of the entries, in order. -/
theorem written_add (entry : PredictionEntry) :
    (log.add entry).written = log.written ++ entry.step?.toList := by
  unfold written add
  rw [List.filterMap_append]
  cases entry <;> rfl

theorem InRange.of_add
    {entry : PredictionEntry}
    (inRange : (log.add entry).InRange) :
    log.InRange := by
  unfold InRange at inRange ⊢
  rw [written_add, List.length_append] at inRange
  exact Nat.lt_of_le_of_lt
    (Nat.add_le_add_left (Nat.le_add_right _ _) _) inRange

/-- The queue is what the log says. -/
structure Kept (log : PredictionLog) (queue : StepQueue) : Prop where
  numbered :
    log.written = StepRun.number log.anchor (log.written.map Step.payload)
  next : queue.nextId = log.anchor + UInt32.ofNat log.written.length
  suffix : queue.steps <:+ log.written
  outstanding : log.InRange → queue.steps = log.outstanding

namespace Kept

variable {queue : StepQueue}

/-- An empty log and an empty queue are kept. -/
theorem anchored (anchor : StepId) (capacity : Nat) :
    Kept (anchoredAt anchor) ⟨[], anchor, capacity⟩ where
  numbered := rfl
  next := (UInt32.add_zero anchor).symm
  suffix := List.suffix_rfl
  outstanding := fun _ => rfl

/-- A step is written to the end of log and queue. -/
theorem write
    (kept : Kept log queue)
    (payload : Octets) :
    Kept (log.add (.written ⟨queue.nextId, payload⟩))
      (queue.extend [payload]) := by
  have further :
      (log.add (.written ⟨queue.nextId, payload⟩)).written =
        log.written ++ [⟨queue.nextId, payload⟩] :=
    written_add _
  constructor
  case numbered =>
    rw [further, List.map_append, StepRun.number_append, List.length_map,
      add, ← kept.numbered, ← kept.next]
    rfl
  case next =>
    rw [further, List.length_append, UInt32.ofNat_add, ← UInt32.add_assoc,
      add, ← kept.next]
    rfl
  case suffix =>
    obtain ⟨gone, whole⟩ := kept.suffix
    rw [further, ← whole, List.append_assoc]
    exact List.suffix_append _ _
  case outstanding =>
    intro inRange
    rw [StepQueue.extend, kept.outstanding inRange.of_add]
    exact (PredictionEntry.outstanding_written _ _).symm

/-- The ids in the queue go up. -/
theorem ascending
    (kept : Kept log queue)
    (inRange : log.InRange) :
    queue.steps.Pairwise fun earlier later => earlier.id < later.id := by
  refine List.Pairwise.sublist kept.suffix.sublist ?_
  rw [kept.numbered]
  refine StepRun.pairwise_number ?_
  rw [List.length_map]
  exact Nat.le_of_lt inRange

/-- An acknowledgement takes exactly the steps that it covers. -/
theorem steps_acknowledge
    (kept : Kept log queue)
    (inRange : log.InRange)
    (last : StepId) :
    (queue.discardBelow (last + 1)).steps =
      queue.steps.filter fun step =>
        ¬(PredictionEntry.acknowledged last).Covers step := by
  rw [StepQueue.steps_discardBelow (kept.ascending inRange)]
  simp only [StepId.lt_add_one_iff]
  rfl

/-- An acknowledgement takes from the queue what it covers in the log. -/
theorem acknowledge
    (kept : Kept log queue)
    (last : StepId) :
    Kept (log.add (.acknowledged last)) (queue.discardBelow (last + 1)) := by
  have same : (log.add (.acknowledged last)).written = log.written := by
    rw [written_add]
    exact List.append_nil _
  constructor
  case numbered =>
    rw [same]
    exact kept.numbered
  case next =>
    rw [same]
    exact kept.next
  case suffix =>
    rw [same]
    exact (List.drop_suffix _ _).trans kept.suffix
  case outstanding =>
    intro inRange
    rw [kept.steps_acknowledge inRange.of_add,
      kept.outstanding inRange.of_add]
    exact (PredictionEntry.outstanding_acknowledged _ last).symm

end Kept

end PredictionLog

end StepSync
