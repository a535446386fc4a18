import Mathlib.Algebra.Ring.Nat
import Mathlib.Data.List.Induction
import StepSync.Proofs.Steps.Exchange
import StepSync.Proofs.Steps.Renumbering

namespace StepSync

/-!
# Predicted steps counted from another number

A run of operations on the sending side is watched with all ids counted from the
anchor, and compared with the run of the same operations anchored at zero.  While
the ids stay below the end of the circle the two go side by side
(`Outbound.reached_eq_renumber`): each state is the other one counted from the
anchor.  `Counted` is the invariant of the run at zero that keeps the comparisons
of ids harmless.

The bound is sharp (`Outbound.sending_renumbered_iff`): the acknowledgement of the
last id of the circle asks to discard what is below id zero, which is nothing.
-/

namespace Redundancy

/-- Counts whose cursor is counted from another number. -/
def renumber (start : StepId) (redundancy : Redundancy) : Redundancy :=
  { redundancy with cursor := start + redundancy.cursor }

variable (start : StepId) (redundancy : Redundancy)

theorem commit_renumber :
    (redundancy.renumber start).commit =
      redundancy.commit.renumber start := by
  simp [commit, renumber, UInt32.add_assoc]

/-- A run has the same payloads wherever the steps are counted from. -/
theorem run_renumber (predicted : StepQueue) (room : Nat) :
    (redundancy.renumber start).run (predicted.renumber start) room =
      redundancy.run predicted room := by
  have fitting_renumber (budget : Nat) (steps : List Step) :
      fitting budget (steps.map (Step.renumber start)) =
        fitting budget steps := by
    induction steps generalizing budget with
    | nil => rfl
    | cons step steps inductionHypothesis =>
        simp only [List.map_cons, fitting, Step.payload_renumber,
          inductionHypothesis]
  unfold run
  rw [renumber, StepQueue.stepsFrom_renumber, ← List.map_take,
    fitting_renumber]

variable {start redundancy}

/-- The cursor skips as many steps while no id goes around the circle. -/
theorem skipTo_renumber
    {available : StepId}
    (cursorFits : start.toNat + redundancy.cursor.toNat < UInt32.size)
    (availableFits : start.toNat + available.toNat < UInt32.size) :
    (redundancy.renumber start).skipTo (start + available) =
      (redundancy.skipTo available).renumber start := by
  unfold skipTo
  simp only [renumber, StepId.add_lt_add_iff cursorFits availableFits,
    StepId.add_sub_add]
  split <;> rfl

end Redundancy

namespace Writer

/-- Whether pieces can be written depends on their lengths only. -/
theorem putAll_congr
    {first second : Writer}
    {firstPieces secondPieces : List Octets}
    (sameCapacity : first.capacity = second.capacity)
    (samePosition : first.position = second.position)
    (sameLengths :
      firstPieces.map List.length = secondPieces.map List.length) :
    (first.putAll firstPieces).1 = (second.putAll secondPieces).1 := by
  induction firstPieces generalizing first second secondPieces with
  | nil =>
      obtain rfl := List.map_eq_nil_iff.mp sameLengths.symm
      rfl
  | cons piece pieces inductionHypothesis =>
      cases secondPieces with
      | nil => simp at sameLengths
      | cons other others =>
          obtain ⟨sameLength, rest⟩ := List.cons.inj sameLengths
          unfold position at samePosition
          simp only [putAll, put, remaining, position, sameCapacity,
            samePosition, sameLength]
          by_cases fits :
              other.length ≤ second.capacity - second.octets.length
          · simp only [fits, ↓reduceIte]
            refine inductionHypothesis rfl ?_ rest
            simp [position, samePosition, sameLength]
          · simp only [fits, ↓reduceIte]

end Writer

namespace Outbound

/-- The sending side with all steps counted from another number. -/
def renumber (start : StepId) (outbound : Outbound) : Outbound where
  predicted := outbound.predicted.renumber start
  redundancy := outbound.redundancy.renumber start

/--
What is done with predicted steps: the next one is written, the server
acknowledges the first `count` of them, or a run is sent, and its datagram is
handed over or not.
-/
inductive Operation where
  | write (payload : Octets)
  | acknowledge (count : Nat)
  | send (writer : Writer) (handedOver : Bool)
  deriving Repr, DecidableEq

/-- What an operation comes to; the first id of a run is counted from the anchor. -/
inductive Outcome where
  | written (refused : Option StepError)
  | dropped (count : Nat)
  | sent (first : StepId) (payloads : List Octets)
      (failed : Option CursorError)
  deriving Repr, DecidableEq

/-- How many steps an operation of this outcome wrote. -/
def Outcome.steps : Outcome → Nat
  | written none => 1
  | _ => 0

/--
The id that acknowledges the first steps behind an anchor; the id before the
anchor stands for none.
-/
def acknowledging (anchor : StepId) (count : Nat) : StepId :=
  anchor + UInt32.ofNat count - 1

/-- Carry out an operation on steps that are counted from an anchor. -/
def perform (anchor : StepId) (outbound : Outbound) :
    Operation → Outcome × Outbound
  | .write payload =>
      match outbound.predicted.write outbound.predicted.nextId payload with
      | .ok longer => (.written none, { outbound with predicted := longer })
      | .error refusal => (.written (some refusal), outbound)
  | .acknowledge count =>
      (.dropped (outbound.acknowledgedCount (acknowledging anchor count)),
        outbound.acknowledge (acknowledging anchor count))
  | .send writer handedOver =>
      let current := outbound.redundancy.skipTo outbound.predicted.readId
      let payloads := current.run outbound.predicted writer.remaining
      let (result, _, composed) := outbound.writeRun writer
      let failed :=
        match result with
        | .ok _ => none
        | .error failure => some failure
      (.sent (current.cursor - anchor) payloads failed,
        if handedOver then composed.commit else composed)

/--
What is seen of an operation: its outcome, and the length of the queue and the
offset of the cursor behind it.
-/
structure Observation where
  outcome : Outcome
  length : Nat
  cursor : StepId
  deriving Repr, DecidableEq

/-- Carry out an operation and note what is seen of it. -/
def observe (anchor : StepId) (outbound : Outbound) (operation : Operation) :
    Observation × Outbound :=
  let (outcome, after) := outbound.perform anchor operation
  (⟨outcome, after.predicted.length, after.redundancy.cursor - anchor⟩, after)

/-- What is seen of a run of operations from an anchor on. -/
def history (anchor : StepId) (capacity : Nat) (operations : List Operation) :
    List Observation :=
  (observeAll (observe anchor) (startingAt anchor capacity) operations).1

/-- The sending side after a run of operations from an anchor on. -/
def reached (anchor : StepId) (capacity : Nat) (operations : List Operation) :
    Outbound :=
  (observeAll (observe anchor) (startingAt anchor capacity) operations).2

/-- How many steps a run of operations writes. -/
def writtenIn (anchor : StepId) (capacity : Nat) (operations : List Operation) :
    Nat :=
  ((history anchor capacity operations).map
    fun observation => observation.outcome.steps).sum

/-- The server only acknowledges steps that were written before. -/
def Admissible
    (anchor : StepId)
    (capacity : Nat)
    (operations : List Operation) : Prop :=
  ∀ earlier count later,
    operations = earlier ++ .acknowledge count :: later →
      count ≤ writtenIn anchor capacity earlier

/--
What holds of the sending side that was anchored at zero when so many
steps were written.
-/
structure Counted (written : Nat) (outbound : Outbound) : Prop where
  countsUp : outbound.predicted.CountsUp
  next : outbound.predicted.nextId = UInt32.ofNat written
  few : outbound.predicted.length ≤ written
  counted :
    outbound.redundancy.cursor.toNat +
      outbound.redundancy.sendCounts.length ≤ written
  composed :
    outbound.redundancy.cursor.toNat + outbound.redundancy.lastRun ≤ written

namespace Counted

variable {written : Nat} {outbound : Outbound}

theorem startingAt (capacity : Nat) :
    Counted 0 (Outbound.startingAt 0 capacity) where
  countsUp := StepQueue.countsUp_empty 0 capacity
  next := rfl
  few := Nat.le_refl 0
  counted := Nat.le_refl 0
  composed := Nat.le_refl 0

/-- The steps held are the last ones that were written. -/
theorem steps_eq (counted : Counted written outbound) :
    ∃ payloads,
      payloads.length = outbound.predicted.length ∧
        outbound.predicted.steps =
          StepRun.number
            (UInt32.ofNat (written - outbound.predicted.length))
            payloads := by
  obtain ⟨first, payloads, steps, next⟩ := counted.countsUp
  have sameLength : payloads.length = outbound.predicted.length := by
    rw [StepQueue.length, steps, StepRun.length_number]
  have begins :
      first = UInt32.ofNat (written - outbound.predicted.length) := by
    have whole := Nat.sub_add_cancel counted.few
    rw [counted.next, ← whole, UInt32.ofNat_add, ← sameLength,
      UInt32.add_left_inj] at next
    rw [← next, sameLength]
  exact ⟨payloads, sameLength, begins ▸ steps⟩

/-- Each id held is the number of steps that were written before it. -/
theorem toNat_id
    (counted : Counted written outbound)
    (small : written < UInt32.size)
    {index : Nat}
    {step : Step}
    (held : outbound.predicted.steps[index]? = some step) :
    step.id.toNat = written - outbound.predicted.length + index := by
  obtain ⟨payloads, sameLength, steps⟩ := counted.steps_eq
  have inRange := (List.getElem?_eq_some_iff.mp held).1
  rw [steps, StepRun.length_number, sameLength] at inRange
  rw [steps, StepRun.getElem?_number, Option.map_eq_some_iff] at held
  obtain ⟨_, _, rfl⟩ := held
  have few := counted.few
  rw [← UInt32.ofNat_add]
  exact UInt32.toNat_ofNat_of_lt' (by omega)

theorem toNat_lt
    (counted : Counted written outbound)
    (small : written < UInt32.size)
    {step : Step}
    (member : step ∈ outbound.predicted.steps) :
    step.id.toNat < written := by
  obtain ⟨index, held⟩ := List.mem_iff_getElem?.mp member
  have number := counted.toNat_id small held
  have inRange := (List.getElem?_eq_some_iff.mp held).1
  have few := counted.few
  unfold StepQueue.length at number few
  omega

theorem toNat_readId
    (counted : Counted written outbound)
    (small : written < UInt32.size) :
    outbound.predicted.readId.toNat =
      written - outbound.predicted.length := by
  unfold StepQueue.readId
  cases steps : outbound.predicted.steps with
  | nil =>
      rw [counted.next, UInt32.toNat_ofNat_of_lt' small, StepQueue.length,
        steps]
      rfl
  | cons step rest =>
      have front : outbound.predicted.steps[0]? = some step := by
        rw [steps]
        rfl
      exact counted.toNat_id small front

theorem write
    (counted : Counted written outbound)
    {payload : Octets}
    {longer : StepQueue}
    (success :
      outbound.predicted.write outbound.predicted.nextId payload =
        .ok longer) :
    Counted (written + 1) { outbound with predicted := longer } where
  countsUp := counted.countsUp.write success
  next := by
    rw [StepQueue.write_nextId] at success
    split at success
    · cases success
    · obtain rfl := Except.ok.inj success
      rw [UInt32.ofNat_add, ← counted.next]
      rfl
  few := by
    rw [StepQueue.write_nextId] at success
    split at success
    · cases success
    · obtain rfl := Except.ok.inj success
      rw [StepQueue.length, StepQueue.extend, List.length_append]
      exact Nat.succ_le_succ counted.few
  counted := Nat.le_succ_of_le counted.counted
  composed := Nat.le_succ_of_le counted.composed

theorem acknowledge (counted : Counted written outbound) (id : StepId) :
    Counted written (outbound.acknowledge id) where
  countsUp := counted.countsUp.discardBelow (id + 1)
  next := counted.next
  few := by
    refine Nat.le_trans ?_ counted.few
    rw [StepQueue.length, Outbound.acknowledge, StepQueue.discardBelow,
      List.length_drop]
    exact Nat.sub_le _ _
  counted := counted.counted
  composed := counted.composed

/-- The cursor does not skip steps that were not written. -/
theorem skipTo
    (counted : Counted written outbound)
    (small : written < UInt32.size) :
    (outbound.redundancy.skipTo outbound.predicted.readId).cursor.toNat +
      (outbound.redundancy.skipTo
        outbound.predicted.readId).sendCounts.length ≤ written := by
  unfold Redundancy.skipTo
  split
  case isTrue behind =>
    have available := counted.toNat_readId small
    have order := UInt32.lt_iff_toNat_lt.mp behind
    have skipped := UInt32.toNat_sub_of_le outbound.predicted.readId
      outbound.redundancy.cursor (UInt32.le_of_lt behind)
    have before := counted.counted
    dsimp only
    rw [List.length_drop, skipped]
    omega
  case isFalse => exact counted.counted

/-- From an id on there are no more steps than were written behind it. -/
theorem length_stepsFrom_le
    (counted : Counted written outbound)
    (small : written < UInt32.size)
    {id : StepId}
    (within : id.toNat ≤ written) :
    id.toNat + (outbound.predicted.stepsFrom id).length ≤ written := by
  unfold StepQueue.stepsFrom
  generalize (id - outbound.predicted.readId).toNat = passed
  cases found : outbound.predicted.steps.drop passed with
  | nil => exact within
  | cons step steps =>
      dsimp only
      split
      case isTrue same =>
        have held : outbound.predicted.steps[passed]? = some step := by
          rw [← List.head?_drop, found, List.head?_cons]
        have number := counted.toNat_id small held
        have rest := congrArg List.length found
        rw [List.length_drop] at rest
        have inRange := (List.getElem?_eq_some_iff.mp held).1
        have few := counted.few
        rw [← same, number]
        unfold StepQueue.length at few ⊢
        omega
      case isFalse => exact within

/-- A run that was composed has no steps that were not written. -/
theorem writeRun
    (counted : Counted written outbound)
    (small : written < UInt32.size)
    (writer : Writer) :
    Counted written (outbound.writeRun writer).2.2 where
  countsUp := counted.countsUp
  next := counted.next
  few := counted.few
  counted := counted.skipTo small
  composed := by
    have skipped := counted.skipTo small
    have behind := counted.length_stepsFrom_le small
      (Nat.le_trans (Nat.le_add_right _ _) skipped)
    have run := Redundancy.length_fitting_le
      (writer.remaining - Redundancy.runOverhead)
      ((outbound.predicted.stepsFrom
        (outbound.redundancy.skipTo outbound.predicted.readId).cursor).take
          Redundancy.longestRun)
    refine Nat.le_trans (Nat.add_le_add_left ?_ _) behind
    exact Nat.le_trans run (List.length_take_le' _ _)

/-- The cursor moves past no more than was counted. -/
theorem commit
    (counted : Counted written outbound)
    (small : written < UInt32.size) :
    Counted written outbound.commit := by
  have before := counted.counted
  have composed := counted.composed
  have finished :
      ((Redundancy.countSent outbound.redundancy.lastRun
        outbound.redundancy.sendCounts).takeWhile fun count =>
          Redundancy.copies ≤ count).length ≤
        (Redundancy.countSent outbound.redundancy.lastRun
          outbound.redundancy.sendCounts).length :=
    (List.takeWhile_prefix _).length_le
  rw [Redundancy.length_countSent] at finished
  have moved :
      outbound.commit.redundancy.cursor.toNat =
        outbound.redundancy.cursor.toNat +
          ((Redundancy.countSent outbound.redundancy.lastRun
            outbound.redundancy.sendCounts).takeWhile fun count =>
              Redundancy.copies ≤ count).length :=
    StepId.toNat_add_ofNat (by omega)
  refine ⟨counted.countsUp, counted.next, counted.few, ?_, ?_⟩
  · rw [moved]
    simp only [Outbound.commit, Redundancy.commit, List.length_drop,
      Redundancy.length_countSent]
    omega
  · rw [moved]
    simp only [Outbound.commit, Redundancy.commit]
    omega

/-- What holds goes on to hold with the steps that an operation writes. -/
theorem perform
    (counted : Counted written outbound)
    (anchor : StepId)
    (operation : Operation)
    (small : written < UInt32.size) :
    Counted (written + (outbound.perform anchor operation).1.steps)
      (outbound.perform anchor operation).2 := by
  cases operation with
  | write payload =>
      simp only [Outbound.perform]
      split
      case h_1 longer success => exact counted.write success
      case h_2 => exact counted
  | acknowledge count => exact counted.acknowledge _
  | send writer handedOver =>
      have composed := counted.writeRun small writer
      cases handedOver with
      | false => exact composed
      | true => exact composed.commit small

/-- The newest step's acknowledgement is for all steps held. -/
theorem countBelow_nextId
    (counted : Counted written outbound)
    (small : written < UInt32.size) :
    outbound.predicted.countBelow outbound.predicted.nextId =
      outbound.predicted.length := by
  have front := length_takeWhile_lt outbound.predicted.nextId
    fun _ _ held => counted.toNat_id small held
  have few := counted.few
  rw [counted.next, UInt32.toNat_ofNat_of_lt' small,
    Nat.sub_sub_self few] at front
  rw [StepQueue.countBelow, counted.next, front]
  exact Nat.min_self _

end Counted

theorem acknowledging_add_one (anchor : StepId) (count : Nat) :
    acknowledging anchor count + 1 = anchor + UInt32.ofNat count :=
  UInt32.sub_add_cancel _ _

section

variable {anchor : StepId} {written : Nat} {outbound : Outbound}

theorem acknowledge_renumber
    (counted : Counted written outbound)
    (fits : anchor.toNat + written < UInt32.size)
    {count : Nat}
    (known : count ≤ written) :
    (outbound.renumber anchor).acknowledgedCount
          (acknowledging anchor count) =
        outbound.acknowledgedCount (acknowledging 0 count) ∧
      (outbound.renumber anchor).acknowledge (acknowledging anchor count) =
        (outbound.acknowledge (acknowledging 0 count)).renumber anchor := by
  have small : written < UInt32.size :=
    Nat.lt_of_le_of_lt (Nat.le_add_left _ _) fits
  have bound :
      anchor.toNat + (UInt32.ofNat count).toNat < UInt32.size := by
    rw [UInt32.toNat_ofNat_of_lt' (Nat.lt_of_le_of_lt known small)]
    exact Nat.lt_of_le_of_lt (Nat.add_le_add_left known _) fits
  have held : ∀ step ∈ outbound.predicted.steps,
      anchor.toNat + step.id.toNat < UInt32.size := by
    intro step member
    have before := counted.toNat_lt small member
    omega
  unfold acknowledgedCount acknowledge
  rw [acknowledging_add_one, acknowledging_add_one, UInt32.zero_add]
  constructor
  · exact StepQueue.countBelow_renumber bound held
  · simp only [renumber, StepQueue.discardBelow_renumber bound held]

theorem skipTo_renumber
    (counted : Counted written outbound)
    (fits : anchor.toNat + written < UInt32.size) :
    (outbound.renumber anchor).redundancy.skipTo
        (outbound.renumber anchor).predicted.readId =
      (outbound.redundancy.skipTo
        outbound.predicted.readId).renumber anchor := by
  have small : written < UInt32.size :=
    Nat.lt_of_le_of_lt (Nat.le_add_left _ _) fits
  have cursor := counted.counted
  have available := counted.toNat_readId small
  unfold renumber
  rw [StepQueue.readId_renumber]
  exact Redundancy.skipTo_renumber (by omega) (by omega)

theorem commit_renumber (anchor : StepId) (outbound : Outbound) :
    (outbound.renumber anchor).commit =
      outbound.commit.renumber anchor := by
  simp only [commit, renumber, Redundancy.commit_renumber]

/-- A run is written wherever its steps are counted from. -/
theorem writeRun_renumber
    (counted : Counted written outbound)
    (fits : anchor.toNat + written < UInt32.size)
    (writer : Writer) :
    ((outbound.renumber anchor).writeRun writer).1 =
        (outbound.writeRun writer).1 ∧
      ((outbound.renumber anchor).writeRun writer).2.2 =
        (outbound.writeRun writer).2.2.renumber anchor := by
  have skipped := skipTo_renumber counted fits
  have sameLengths (first second : StepId) (payloads : List Octets) :
      (StepRun.fields first payloads).map List.length =
        (StepRun.fields second payloads).map List.length := by
    cases payloads <;> simp [StepRun.fields, Octets.ofWord32]
  unfold writeRun
  simp only [skipped]
  rw [renumber, Redundancy.run_renumber]
  constructor
  · exact congrArg (Except.map _)
      (Writer.putAll_congr rfl rfl (sameLengths _ _ _))
  · rfl

/-- An operation comes to the same wherever the steps are counted from. -/
theorem perform_renumber
    (counted : Counted written outbound)
    (fits : anchor.toNat + written < UInt32.size)
    {operation : Operation}
    (known : ∀ count, operation = .acknowledge count → count ≤ written) :
    (outbound.renumber anchor).perform anchor operation =
      ((outbound.perform 0 operation).1,
        (outbound.perform 0 operation).2.renumber anchor) := by
  cases operation with
  | write payload =>
      have same :=
        StepQueue.write_renumber anchor outbound.predicted payload
      simp only [perform, renumber, same]
      cases outbound.predicted.write outbound.predicted.nextId payload <;>
        rfl
  | acknowledge count =>
      obtain ⟨sameCount, sameRest⟩ :=
        acknowledge_renumber counted fits (known count rfl)
      simp only [perform, sameCount, sameRest]
  | send writer handedOver =>
      obtain ⟨sameResult, sameRest⟩ := writeRun_renumber counted fits writer
      have skipped := skipTo_renumber counted fits
      have sameRun :=
        Redundancy.run_renumber anchor
          (outbound.redundancy.skipTo outbound.predicted.readId)
          outbound.predicted writer.remaining
      have sameCursor :
          ((outbound.redundancy.skipTo
              outbound.predicted.readId).renumber anchor).cursor - anchor =
            (outbound.redundancy.skipTo
              outbound.predicted.readId).cursor - 0 := by
        rw [UInt32.sub_zero]
        exact StepId.add_sub_self _ _
      have samePredicted :
          (outbound.renumber anchor).predicted =
            outbound.predicted.renumber anchor :=
        rfl
      simp only [perform, sameResult, sameRest, skipped, sameCursor,
        commit_renumber]
      rw [samePredicted, sameRun]
      cases handedOver <;> rfl

/-- What is seen of an operation is the same wherever the steps are counted from. -/
theorem observe_renumber
    (counted : Counted written outbound)
    (fits : anchor.toNat + written < UInt32.size)
    {operation : Operation}
    (known : ∀ count, operation = .acknowledge count → count ≤ written) :
    ((outbound.renumber anchor).observe anchor operation).1 =
      (outbound.observe 0 operation).1 := by
  have same := perform_renumber counted fits known
  unfold observe
  rw [same]
  simp only [renumber, StepQueue.length_renumber, Redundancy.renumber,
    StepId.add_sub_self, UInt32.sub_zero]

end

/-! ## Runs -/

section

variable
  {anchor : StepId} {capacity : Nat}
  {operations : List Operation} {operation : Operation}

theorem reached_append
    (anchor : StepId)
    (capacity : Nat)
    (operations : List Operation)
    (operation : Operation) :
    reached anchor capacity (operations ++ [operation]) =
      ((reached anchor capacity operations).perform anchor operation).2 := by
  rw [reached, observeAll_append]
  rfl

theorem history_append
    (anchor : StepId)
    (capacity : Nat)
    (operations : List Operation)
    (operation : Operation) :
    history anchor capacity (operations ++ [operation]) =
      history anchor capacity operations ++
        [((reached anchor capacity operations).observe
          anchor operation).1] := by
  rw [history, observeAll_append]
  rfl

theorem writtenIn_append
    (anchor : StepId)
    (capacity : Nat)
    (operations : List Operation)
    (operation : Operation) :
    writtenIn anchor capacity (operations ++ [operation]) =
      writtenIn anchor capacity operations +
        ((reached anchor capacity operations).perform
          anchor operation).1.steps := by
  rw [writtenIn, history_append, List.map_append, List.sum_append]
  simp [writtenIn, observe]

namespace Admissible

theorem before
    (admissible : Admissible anchor capacity (operations ++ [operation])) :
    Admissible anchor capacity operations := by
  intro earlier count later split
  refine admissible earlier count (later ++ [operation]) ?_
  rw [split, List.append_assoc, List.cons_append]

theorem last
    (admissible : Admissible anchor capacity (operations ++ [operation]))
    (count : Nat)
    (acknowledges : operation = .acknowledge count) :
    count ≤ writtenIn anchor capacity operations :=
  admissible operations count [] (by rw [acknowledges])

end Admissible

/--
A run goes side by side with the run anchored at zero while no id goes
around the circle.
-/
theorem reached_eq_renumber
    (admissible : Admissible 0 capacity operations)
    (fits :
      anchor.toNat + writtenIn 0 capacity operations < UInt32.size) :
    Counted (writtenIn 0 capacity operations)
        (reached 0 capacity operations) ∧
      reached anchor capacity operations =
        (reached 0 capacity operations).renumber anchor ∧
      history anchor capacity operations =
        history 0 capacity operations := by
  -- By induction on the length of the run: the last operation starts from states
  -- that agree.
  induction operations using List.reverseRecOn with
  | nil =>
      refine ⟨Counted.startingAt capacity, ?_, rfl⟩
      simp [reached, observeAll, renumber, startingAt,
        StepQueue.renumber_startingAt, Redundancy.renumber,
        Redundancy.startingAt]
  | append_singleton operations operation inductionHypothesis =>
      rw [writtenIn_append] at fits
      have fitsBefore :
          anchor.toNat + writtenIn 0 capacity operations < UInt32.size :=
        Nat.lt_of_le_of_lt
          (Nat.add_le_add_left (Nat.le_add_right _ _) _) fits
      have small := Nat.lt_of_le_of_lt (Nat.le_add_left _ _) fitsBefore
      obtain ⟨counted, sameState, sameHistory⟩ :=
        inductionHypothesis admissible.before fitsBefore
      have sameStep := perform_renumber counted fitsBefore admissible.last
      have sameSight := observe_renumber counted fitsBefore admissible.last
      refine ⟨?_, ?_, ?_⟩
      · rw [writtenIn_append, reached_append]
        exact counted.perform 0 operation small
      · rw [reached_append, reached_append, sameState, sameStep]
      · rw [history_append, history_append, sameHistory, sameState,
          sameSight]

/--
The acknowledgement of the newest step empties the queue while no id goes
around the circle.
-/
theorem acknowledge_newest
    (admissible : Admissible 0 capacity operations)
    (fits :
      anchor.toNat + writtenIn 0 capacity operations < UInt32.size) :
    ((reached anchor capacity operations).acknowledge
      ((reached anchor capacity operations).predicted.nextId -
        1)).predicted.isEmpty = true := by
  obtain ⟨counted, sameState, _⟩ := reached_eq_renumber admissible fits
  have small : writtenIn 0 capacity operations < UInt32.size :=
    Nat.lt_of_le_of_lt (Nat.le_add_left _ _) fits
  have newest :
      acknowledging 0 (writtenIn 0 capacity operations) + 1 =
        (reached 0 capacity operations).predicted.nextId := by
    rw [acknowledging_add_one, counted.next, UInt32.zero_add]
  have named :
      ((reached 0 capacity operations).renumber anchor).predicted.nextId - 1 =
        acknowledging anchor (writtenIn 0 capacity operations) := by
    rw [renumber, StepQueue.renumber, counted.next]
    rfl
  rw [sameState, named,
    (acknowledge_renumber counted fits (Nat.le_refl _)).2]
  simp only [renumber, acknowledge, newest, StepQueue.discardBelow,
    counted.countBelow_nextId small, StepQueue.renumber, StepQueue.isEmpty,
    StepQueue.length, List.drop_length, List.map_nil, List.isEmpty_nil]

namespace Admissible

theorem append
    (admissible : Admissible anchor capacity operations)
    (known : ∀ count, operation = .acknowledge count →
      count ≤ writtenIn anchor capacity operations) :
    Admissible anchor capacity (operations ++ [operation]) := by
  intro earlier count later split
  rcases List.eq_nil_or_concat later with rfl | ⟨middle, final, rfl⟩
  · obtain ⟨rfl, same⟩ := List.append_inj' split rfl
    exact known count (List.cons.inj same).1
  · rw [List.concat_eq_append, ← List.cons_append,
      ← List.append_assoc] at split
    exact admissible earlier count middle (List.append_inj' split rfl).1

end Admissible

/-- Steps are written one by one, and each is acknowledged at once. -/
def rounds : Nat → List Operation
  | 0 => []
  | count + 1 => rounds count ++ [.write []] ++ [.acknowledge (count + 1)]

/--
One step goes into an empty queue, and is dropped again if its id is
below the next one.
-/
theorem perform_round
    {outbound : Outbound}
    {count : Nat}
    (positive : 0 < capacity)
    (empty :
      outbound.predicted =
        .startingAt (anchor + UInt32.ofNat count) capacity) :
    (outbound.perform anchor (.write [])).1 = .written none ∧
      ((outbound.perform anchor (.write [])).2.perform anchor
          (.acknowledge (count + 1))).1 =
        .dropped
          (if anchor + UInt32.ofNat count <
              anchor + UInt32.ofNat (count + 1) then 1 else 0) ∧
      (anchor + UInt32.ofNat count < anchor + UInt32.ofNat (count + 1) →
        ((outbound.perform anchor (.write [])).2.perform anchor
            (.acknowledge (count + 1))).2.predicted =
          .startingAt (anchor + UInt32.ofNat (count + 1)) capacity) := by
  have room :
      (StepQueue.startingAt (anchor + UInt32.ofNat count) capacity).room ≠
        0 :=
    Nat.sub_ne_zero_of_lt positive
  have next :
      anchor + UInt32.ofNat count + 1 = anchor + UInt32.ofNat (count + 1) := by
    rw [UInt32.ofNat_add, ← UInt32.add_assoc]
    rfl
  have written :
      outbound.perform anchor (.write []) =
        (.written none,
          { outbound with
            predicted :=
              ⟨[⟨anchor + UInt32.ofNat count, []⟩],
                anchor + UInt32.ofNat (count + 1), capacity⟩ }) := by
    rw [perform, empty, StepQueue.write_nextId, if_neg room, ← next]
    rfl
  rw [written]
  refine ⟨rfl, ?_, fun below => ?_⟩
  · simp only [perform, acknowledgedCount, acknowledging_add_one,
      StepQueue.countBelow, List.takeWhile_cons, decide_eq_true_eq,
      List.takeWhile_nil]
    split <;> rfl
  · simp only [perform, acknowledge, acknowledging_add_one,
      StepQueue.discardBelow, StepQueue.countBelow, List.takeWhile_cons,
      below, decide_true, ↓reduceIte, List.takeWhile_nil]
    rfl

/--
After some rounds the queue is empty, as long as no id goes around the circle.
-/
theorem predicted_rounds
    (anchor : StepId)
    (positive : 0 < capacity)
    {count : Nat}
    (fits : anchor.toNat + count < UInt32.size) :
    (reached anchor capacity (rounds count)).predicted =
      .startingAt (anchor + UInt32.ofNat count) capacity := by
  induction count with
  | zero => simp [rounds, reached, observeAll, startingAt]
  | succ count inductionHypothesis =>
      have fitsBefore : anchor.toNat + count < UInt32.size :=
        Nat.lt_of_succ_lt fits
      have below :
          anchor + UInt32.ofNat count <
            anchor + UInt32.ofNat (count + 1) := by
        rw [UInt32.lt_iff_toNat_lt, StepId.toNat_add_ofNat fitsBefore,
          StepId.toNat_add_ofNat fits]
        exact Nat.lt_succ_self _
      rw [rounds, reached_append, reached_append]
      exact (perform_round positive (inductionHypothesis fitsBefore)).2.2
        below

/-- The rounds from zero on write one step each. -/
theorem rounds_admissible
    (positive : 0 < capacity)
    {count : Nat}
    (short : count < UInt32.size) :
    Admissible 0 capacity (rounds count) ∧
      writtenIn 0 capacity (rounds count) = count := by
  induction count with
  | zero =>
      refine ⟨fun earlier count later split => ?_, rfl⟩
      simp [rounds] at split
  | succ count inductionHypothesis =>
      obtain ⟨admissible, written⟩ :=
        inductionHypothesis (Nat.lt_of_succ_lt short)
      have empty :=
        predicted_rounds 0 positive
          (by simpa using Nat.lt_of_succ_lt short)
      obtain ⟨success, dropped, _⟩ := perform_round positive empty
      have writtenNext :
          writtenIn 0 capacity (rounds count ++ [.write []]) =
            count + 1 := by
        rw [writtenIn_append, written, success]
        rfl
      have admissibleNext :
          Admissible 0 capacity (rounds count ++ [.write []]) :=
        admissible.append nofun
      rw [rounds]
      constructor
      · refine admissibleNext.append fun number same => ?_
        have newest := Operation.acknowledge.inj same
        exact Nat.le_of_eq (newest.symm.trans writtenNext.symm)
      · rw [writtenIn_append, writtenNext, reached_append, dropped]
        rfl

/-- Two runs whose last operations come to something else are not seen alike. -/
theorem history_append_ne
    (differ :
      ((reached anchor capacity operations).perform anchor operation).1 ≠
        ((reached 0 capacity operations).perform 0 operation).1) :
    history anchor capacity (operations ++ [operation]) ≠
      history 0 capacity (operations ++ [operation]) :=
  observeAll_append_ne fun same =>
    differ (congrArg Observation.outcome same)

/-- The last round before the ids go around the circle is seen. -/
theorem history_rounds_ne
    (positive : 0 < capacity)
    {count : Nat}
    (around : anchor.toNat + (count + 1) = UInt32.size)
    (short : count + 1 < UInt32.size) :
    history anchor capacity (rounds (count + 1)) ≠
      history 0 capacity (rounds (count + 1)) := by
  have fits : anchor.toNat + count < UInt32.size :=
    around ▸ Nat.lt_succ_self _
  have zeroFits : (0 : StepId).toNat + count < UInt32.size := by
    rw [UInt32.toNat_zero, Nat.zero_add]
    exact Nat.lt_of_succ_lt short
  have zeroBelow :
      (0 : StepId) + UInt32.ofNat count < 0 + UInt32.ofNat (count + 1) := by
    rw [UInt32.zero_add, UInt32.zero_add, UInt32.lt_iff_toNat_lt,
      UInt32.toNat_ofNat_of_lt' (Nat.lt_of_succ_lt short),
      UInt32.toNat_ofNat_of_lt' short]
    exact Nat.lt_succ_self _
  have anchorNotBelow :
      ¬anchor + UInt32.ofNat count < anchor + UInt32.ofNat (count + 1) := by
    rw [StepId.add_ofNat_eq_zero around short]
    exact UInt32.not_lt_zero
  obtain ⟨_, zeroDrops, _⟩ :=
    perform_round positive (predicted_rounds 0 positive zeroFits)
  obtain ⟨_, anchorDrops, _⟩ :=
    perform_round positive (predicted_rounds anchor positive fits)
  rw [rounds]
  refine history_append_ne ?_
  rw [reached_append, reached_append, zeroDrops, anchorDrops,
    if_pos zeroBelow, if_neg anchorNotBelow]
  nofun

end

/--
Runs in which at most `limit` steps are written are seen alike from an anchor and
from zero exactly if the ids from the anchor on, the next one included, do not go
around the circle.
-/
theorem sending_renumbered_iff
    (anchor : StepId)
    {capacity limit : Nat}
    (positive : 0 < capacity)
    (short : limit < UInt32.size) :
    (∀ operations,
        Admissible 0 capacity operations →
        writtenIn 0 capacity operations ≤ limit →
          history anchor capacity operations =
              history 0 capacity operations ∧
            ((reached anchor capacity operations).acknowledge
              ((reached anchor capacity operations).predicted.nextId -
                1)).predicted.isEmpty = true) ↔
      anchor.toNat + limit < UInt32.size := by
  constructor
  · intro alike
    refine Nat.lt_of_not_le fun around => ?_
    have small := anchor.toNat_lt_size
    obtain ⟨count, last⟩ :
        ∃ count, anchor.toNat + (count + 1) = UInt32.size :=
      ⟨UInt32.size - anchor.toNat - 1, by omega⟩
    have few : count + 1 < UInt32.size := by omega
    obtain ⟨admissible, written⟩ := rounds_admissible positive few
    exact history_rounds_ne positive last few
      (alike _ admissible (by omega)).1
  · intro fits operations admissible few
    have fitsRun :
        anchor.toNat + writtenIn 0 capacity operations < UInt32.size :=
      Nat.lt_of_le_of_lt (Nat.add_le_add_left few _) fits
    exact ⟨(reached_eq_renumber admissible fitsRun).2.2,
      acknowledge_newest admissible fitsRun⟩

/--
Three steps may be written four ids before the end of the circle, and not three
ids before it.
-/
theorem sending_renumbered_atEnd :
    (0 < 1 ∧ (3 : Nat) < UInt32.size) ∧
      ¬(∀ operations,
        Admissible 0 1 operations →
        writtenIn 0 1 operations ≤ 3 →
          history 4294967293 1 operations = history 0 1 operations ∧
            ((reached 4294967293 1 operations).acknowledge
              ((reached 4294967293 1 operations).predicted.nextId -
                1)).predicted.isEmpty = true) ∧
      ∀ operations,
        Admissible 0 1 operations →
        writtenIn 0 1 operations ≤ 3 →
          history 4294967292 1 operations = history 0 1 operations ∧
            ((reached 4294967292 1 operations).acknowledge
              ((reached 4294967292 1 operations).predicted.nextId -
                1)).predicted.isEmpty = true :=
  ⟨by decide,
    mt (sending_renumbered_iff 4294967293 (by decide) (by decide)).mp
      (by decide),
    (sending_renumbered_iff 4294967292 (by decide) (by decide)).mpr
      (by decide)⟩

/--
A step with the last id of the circle is not dropped when it is acknowledged,
while the first one counted from zero is.
-/
theorem sending_seen_atEnd :
    history 4294967295 1 [.write [], .acknowledge 1] ≠
      history 0 1 [.write [], .acknowledge 1] := by
  decide

end Outbound

end StepSync
