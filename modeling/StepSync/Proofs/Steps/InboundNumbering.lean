import Mathlib.Algebra.Ring.Nat
import Mathlib.Data.List.Induction
import StepSync.Proofs.Steps.Renumbering

namespace StepSync

/-!
# Authoritative steps counted from another number

A run of operations on the receiving side is watched with all ids counted from the
anchor, and compared with the run of the same operations anchored at zero.  While
the ids that arrive, and the next one, stay below the end of the circle the two go
side by side (`Inbound.reached_eq_renumber`).  `Bounded` is the invariant of the run
at zero: the window and everything in it lie below the bound of the offsets.

The bound is sharp (`Inbound.receiving_renumbered_iff`): an id behind the end of the
circle is taken for one that was seen before.
-/

namespace ReceiveWindow

/-- A window whose ids are counted from another number. -/
def renumber (start : StepId) (window : ReceiveWindow) : ReceiveWindow :=
  { window with expected := start + window.expected }

variable {start : StepId} {window : ReceiveWindow}

/--
A step is received alike while neither its id nor the expected one goes
around the circle.
-/
theorem receive_renumber
    (start : StepId)
    (window : ReceiveWindow)
    (step : Step)
    (fits : start.toNat + step.id.toNat < UInt32.size)
    (expectedFits : start.toNat + window.expected.toNat < UInt32.size) :
    (window.renumber start).receive (step.renumber start) =
      ((window.receive step).1, (window.receive step).2.renumber start) := by
  unfold receive
  simp only [renumber, Step.renumber,
    StepId.add_lt_add_iff fits expectedFits, StepId.add_sub_add]
  split
  · rfl
  · generalize window.slots[(step.id - window.expected).toNat]? = slot
    rcases slot with _ | (_ | payload) <;> rfl

/-- An empty window that expects id zero has seen no step before. -/
theorem receive_expecting_zero (step : Step) :
    ((expecting 0).receive step).1 =
      if step.id.toNat < size then .stored else .outside := by
  have slot :
      (expecting 0).slots[(step.id - (expecting 0).expected).toNat]? =
        if step.id.toNat < size then some none else none := by
    rw [expecting, UInt32.sub_zero, List.getElem?_replicate]
  have notBefore : ¬step.id < (expecting 0).expected := UInt32.not_lt_zero
  simp only [receive, if_neg notBefore, slot]
  by_cases near : step.id.toNat < size <;> simp only [near, ↓reduceIte]

theorem shift_renumber (moved : Nat) :
    (window.renumber start).shift moved =
      (window.shift moved).renumber start := by
  simp [renumber, shift, UInt32.add_assoc]

/-- A step for an empty slot ahead is stored, unless its id is around the circle. -/
theorem receive_of_empty
    {distance : Nat}
    {payload : Octets}
    (fits : window.expected.toNat + distance < UInt32.size)
    (empty : window.slots[distance]? = some none) :
    (window.receive
      ⟨window.expected + UInt32.ofNat distance, payload⟩).1 = .stored := by
  have ahead := StepId.toNat_add_ofNat fits
  have order :
      window.expected ≤ window.expected + UInt32.ofNat distance := by
    rw [UInt32.le_iff_toNat_le, ahead]
    exact Nat.le_add_right _ _
  have offset :
      (window.expected + UInt32.ofNat distance - window.expected).toNat =
        distance := by
    rw [UInt32.toNat_sub_of_le _ _ order, ahead, Nat.add_sub_cancel_left]
  simp only [receive, if_neg (UInt32.not_lt.mpr order), offset, empty]

end ReceiveWindow

namespace Inbound

/-- The receiving side with all steps counted from another number. -/
def renumber (start : StepId) (inbound : Inbound) : Inbound where
  window := inbound.window.renumber start
  ready := inbound.ready.renumber start

/--
What is done with authoritative steps: the one at an offset from the anchor
arrives, completed ones are moved to the queue, or one is read from there.
-/
inductive Operation where
  | receive (offset : Nat) (payload : Octets)
  | release
  | read
  deriving Repr, DecidableEq

/-- What an operation comes to; the step that is read is counted from the anchor. -/
inductive Outcome where
  | received (receipt : ReceiveWindow.Receipt)
  | released (moved : Nat)
  | refused (failure : StepError)
  | read (step : Option Step)
  deriving Repr, DecidableEq

/-- The queue and the window from an anchor on. -/
def anchoredAt (anchor : StepId) (capacity : Nat) : Inbound where
  window := ReceiveWindow.expecting anchor
  ready := StepQueue.startingAt anchor capacity

/-- Carry out an operation on steps that are counted from an anchor. -/
def perform (anchor : StepId) (inbound : Inbound) :
    Operation → Outcome × Inbound
  | .receive offset payload =>
      let (receipt, window) :=
        inbound.window.receive ⟨anchor + UInt32.ofNat offset, payload⟩
      (.received receipt, { inbound with window := window })
  | .release =>
      match inbound.release with
      | .ok (moved, after) => (.released moved, after)
      | .error failure => (.refused failure, inbound)
  | .read =>
      match inbound.ready.read with
      | some (step, ready) =>
          (.read (some ⟨step.id - anchor, step.payload⟩),
            { inbound with ready := ready })
      | none => (.read none, inbound)

/--
What is seen of an operation: its outcome, and the mask, the offset of the
expected id and the length of the queue behind it.
-/
structure Observation where
  outcome : Outcome
  mask : UInt64
  expected : StepId
  length : Nat
  deriving Repr, DecidableEq

/-- Carry out an operation and note what is seen of it. -/
def observe (anchor : StepId) (inbound : Inbound) (operation : Operation) :
    Observation × Inbound :=
  let (outcome, after) := inbound.perform anchor operation
  (⟨outcome, after.window.laterMask, after.window.expected - anchor,
    after.ready.length⟩, after)

/-- What is seen of a run of operations from an anchor on. -/
def history (anchor : StepId) (capacity : Nat) (operations : List Operation) :
    List Observation :=
  (observeAll (observe anchor) (anchoredAt anchor capacity) operations).1

/-- The receiving side after a run of operations from an anchor on. -/
def reached (anchor : StepId) (capacity : Nat) (operations : List Operation) :
    Inbound :=
  (observeAll (observe anchor) (anchoredAt anchor capacity) operations).2

/-- Every step that arrives lies below an offset from the anchor. -/
def Below (limit : Nat) (operations : List Operation) : Prop :=
  ∀ offset payload, .receive offset payload ∈ operations → offset < limit

/--
What holds of the receiving side that was anchored at zero when all offsets lie
below a bound.
-/
structure Bounded (limit : Nat) (inbound : Inbound) : Prop where
  goesOn : inbound.ready.nextId = inbound.window.expected
  expected : inbound.window.expected.toNat ≤ limit
  filled : ∀ index payload,
    inbound.window.slots[index]? = some (some payload) →
      inbound.window.expected.toNat + index < limit

namespace Bounded

variable {limit : Nat} {inbound : Inbound}

theorem anchoredAt (limit capacity : Nat) :
    Bounded limit (Inbound.anchoredAt 0 capacity) where
  goesOn := rfl
  expected := Nat.zero_le limit
  filled := by
    intro index payload found
    have empty := List.mem_of_getElem? found
    cases List.eq_of_mem_replicate empty

theorem receive
    (bounded : Bounded limit inbound)
    {offset : Nat}
    (below : offset < limit)
    (small : limit < UInt32.size)
    (payload : Octets) :
    Bounded limit
      { inbound with
        window := (inbound.window.receive
          ⟨UInt32.ofNat offset, payload⟩).2 } := by
  have place : (UInt32.ofNat offset).toNat = offset :=
    UInt32.toNat_ofNat_of_lt' (Nat.lt_trans below small)
  refine ⟨?_, ?_, ?_⟩
  · rw [ReceiveWindow.expected_receive]
    exact bounded.goesOn
  · rw [ReceiveWindow.expected_receive]
    exact bounded.expected
  · intro index content found
    rw [ReceiveWindow.expected_receive]
    unfold ReceiveWindow.receive at found
    split at found
    case isTrue => exact bounded.filled index content found
    case isFalse notBefore =>
      have apart := UInt32.toNat_sub_of_le _ _ (UInt32.not_lt.mp notBefore)
      have order := UInt32.le_iff_toNat_le.mp (UInt32.not_lt.mp notBefore)
      dsimp only at found apart order
      split at found
      · exact bounded.filled index content found
      · exact bounded.filled index content found
      · rw [List.getElem?_set] at found
        split at found
        case isTrue here =>
          rw [place] at apart order
          omega
        case isFalse => exact bounded.filled index content found

theorem release
    (bounded : Bounded limit inbound)
    (small : limit < UInt32.size)
    {moved : List Octets}
    (front : moved <+: ReceiveWindow.completed inbound.window.slots) :
    Bounded limit
      ⟨inbound.window.shift moved.length, inbound.ready.extend moved⟩ := by
  have within : inbound.window.expected.toNat + moved.length ≤ limit := by
    rcases List.eq_nil_or_concat moved with rfl | ⟨others, last, rfl⟩
    · exact bounded.expected
    · obtain ⟨behind, front⟩ := front
      have completed :
          (ReceiveWindow.completed
            inbound.window.slots)[others.length]? = some last := by
        simp [← front]
      have below := bounded.filled _ _
        (ReceiveWindow.getElem?_completed completed)
      rw [List.length_concat]
      exact below
  have moves :
      (inbound.window.shift moved.length).expected.toNat =
        inbound.window.expected.toNat + moved.length :=
    StepId.toNat_add_ofNat (Nat.lt_of_le_of_lt within small)
  refine ⟨?_, ?_, ?_⟩
  · rw [StepQueue.extend, ReceiveWindow.shift, bounded.goesOn]
  · rw [moves]
    exact within
  · intro index payload found
    rw [moves, Nat.add_assoc]
    refine bounded.filled _ payload ?_
    rw [ReceiveWindow.shift] at found
    dsimp only at found
    by_cases kept :
        index < (inbound.window.slots.drop moved.length).length
    · rw [List.getElem?_append_left kept, List.getElem?_drop] at found
      exact found
    · rw [List.getElem?_append_right (Nat.le_of_not_lt kept)] at found
      cases List.eq_of_mem_replicate (List.mem_of_getElem? found)

/-- What holds goes on to hold, whatever is done below the bound. -/
theorem perform
    (bounded : Bounded limit inbound)
    (small : limit < UInt32.size)
    {operation : Operation}
    (below : ∀ offset payload,
      operation = .receive offset payload → offset < limit) :
    Bounded limit (inbound.perform 0 operation).2 := by
  cases operation with
  | receive offset payload =>
      have received :=
        bounded.receive (below offset payload rfl) small payload
      simpa only [Inbound.perform, UInt32.zero_add] using received
  | release =>
      simp only [Inbound.perform, release_eq bounded.goesOn]
      exact bounded.release small (List.take_prefix _ _)
  | read =>
      unfold Inbound.perform StepQueue.read
      cases inbound.ready.steps with
      | nil => exact bounded
      | cons step rest =>
          exact ⟨bounded.goesOn, bounded.expected, bounded.filled⟩

end Bounded

section

variable {anchor : StepId} {limit : Nat} {inbound : Inbound}

theorem release_renumber
    (goesOn : inbound.ready.nextId = inbound.window.expected) :
    (inbound.renumber anchor).release =
      inbound.release.map fun (moved, after) =>
        (moved, after.renumber anchor) := by
  have goesOnThere :
      (inbound.renumber anchor).ready.nextId =
        (inbound.renumber anchor).window.expected :=
    congrArg (anchor + ·) goesOn
  have sameMoving :
      ReceiveWindow.moving (inbound.renumber anchor).window.slots
          (inbound.renumber anchor).ready =
        ReceiveWindow.moving inbound.window.slots inbound.ready := by
    rw [ReceiveWindow.moving, renumber, StepQueue.room_renumber]
    rfl
  rw [release_eq goesOn, release_eq goesOnThere, sameMoving]
  simp only [renumber, ReceiveWindow.shift_renumber,
    StepQueue.extend_renumber]
  rfl

/-- An operation comes to the same wherever the steps are counted from. -/
theorem perform_renumber
    (bounded : Bounded limit inbound)
    (fits : anchor.toNat + limit < UInt32.size)
    {operation : Operation}
    (below : ∀ offset payload,
      operation = .receive offset payload → offset < limit) :
    (inbound.renumber anchor).perform anchor operation =
      ((inbound.perform 0 operation).1,
        (inbound.perform 0 operation).2.renumber anchor) := by
  cases operation with
  | receive offset payload =>
      have near := below offset payload rfl
      have place : (UInt32.ofNat offset).toNat = offset :=
        UInt32.toNat_ofNat_of_lt' (by omega)
      have expected := bounded.expected
      have same :=
        ReceiveWindow.receive_renumber anchor inbound.window
          ⟨UInt32.ofNat offset, payload⟩ (by rw [place]; omega) (by omega)
      rw [Step.renumber] at same
      simp only [perform, renumber, same, UInt32.zero_add]
  | release =>
      simp only [perform, release_renumber bounded.goesOn]
      cases inbound.release <;> rfl
  | read =>
      have same := StepQueue.read_renumber anchor inbound.ready
      simp only [perform, renumber, same]
      cases inbound.ready.read with
      | none => rfl
      | some taken =>
          simp only [Option.map_some, Step.renumber, StepId.add_sub_self,
            UInt32.sub_zero]

/-- What is seen of an operation is the same wherever the steps are counted from. -/
theorem observe_renumber
    (bounded : Bounded limit inbound)
    (fits : anchor.toNat + limit < UInt32.size)
    {operation : Operation}
    (below : ∀ offset payload,
      operation = .receive offset payload → offset < limit) :
    ((inbound.renumber anchor).observe anchor operation).1 =
      (inbound.observe 0 operation).1 := by
  have same := perform_renumber bounded fits below
  have sameMask (window : ReceiveWindow) :
      (window.renumber anchor).laterMask = window.laterMask :=
    rfl
  unfold observe
  rw [same]
  simp only [renumber, StepQueue.length_renumber, sameMask]
  rw [ReceiveWindow.renumber, StepId.add_sub_self, UInt32.sub_zero]

end

/-! ## Runs -/

section

variable
  {anchor : StepId} {capacity limit : Nat}
  {operations : List Operation} {operation : Operation}

theorem reached_append
    (anchor : StepId)
    (capacity : Nat)
    (operations : List Operation)
    (operation : Operation) :
    reached anchor capacity (operations ++ [operation]) =
      ((reached anchor capacity operations).perform anchor operation).2 := by
  rw [reached, observeAll_append]
  rfl

theorem history_append
    (anchor : StepId)
    (capacity : Nat)
    (operations : List Operation)
    (operation : Operation) :
    history anchor capacity (operations ++ [operation]) =
      history anchor capacity operations ++
        [((reached anchor capacity operations).observe
          anchor operation).1] := by
  rw [history, observeAll_append]
  rfl

/--
A run goes side by side with the run anchored at zero while no id goes
around the circle.
-/
theorem reached_eq_renumber
    (capacity : Nat)
    (below : Below limit operations)
    (fits : anchor.toNat + limit < UInt32.size) :
    Bounded limit (reached 0 capacity operations) ∧
      reached anchor capacity operations =
        (reached 0 capacity operations).renumber anchor ∧
      history anchor capacity operations =
        history 0 capacity operations := by
  have small : limit < UInt32.size :=
    Nat.lt_of_le_of_lt (Nat.le_add_left _ _) fits
  -- By induction on the length of the run: the last operation starts from states
  -- that agree.
  induction operations using List.reverseRecOn with
  | nil =>
      refine ⟨Bounded.anchoredAt limit capacity, ?_, rfl⟩
      simp [reached, observeAll, renumber, anchoredAt,
        ReceiveWindow.renumber, ReceiveWindow.expecting,
        StepQueue.renumber_startingAt]
  | append_singleton operations operation inductionHypothesis =>
      have belowBefore : Below limit operations :=
        fun offset payload member =>
          below offset payload (List.mem_append_left _ member)
      have belowLast : ∀ offset payload,
          operation = .receive offset payload → offset < limit :=
        fun offset payload same =>
          below offset payload (by simp [same])
      obtain ⟨bounded, sameState, sameHistory⟩ :=
        inductionHypothesis belowBefore
      refine ⟨?_, ?_, ?_⟩
      · rw [reached_append]
        exact bounded.perform small belowLast
      · rw [reached_append, reached_append, sameState,
          perform_renumber bounded fits belowLast]
      · rw [history_append, history_append, sameHistory, sameState,
          observe_renumber bounded fits belowLast]

/-- Steps arrive one by one in order, and each is read at once. -/
def rounds : Nat → List Operation
  | 0 => []
  | count + 1 =>
      rounds count ++ [.receive count []] ++ [.release] ++ [.read]

/-- The step that is expected passes through the empty containers. -/
theorem perform_round
    (anchor : StepId)
    (positive : 0 < capacity)
    (count : Nat) :
    ((((anchoredAt (anchor + UInt32.ofNat count) capacity).perform anchor
          (.receive count [])).2.perform anchor .release).2.perform anchor
            .read).2 =
      anchoredAt (anchor + UInt32.ofNat (count + 1)) capacity := by
  have next :
      anchor + UInt32.ofNat count + 1 = anchor + UInt32.ofNat (count + 1) := by
    rw [UInt32.ofNat_add, ← UInt32.add_assoc]
    rfl
  rw [← next]
  generalize place : anchor + UInt32.ofNat count = expected
  have arrived :
      ((anchoredAt expected capacity).perform anchor (.receive count [])).2 =
        ⟨⟨expected, some [] :: List.replicate 64 none⟩,
          .startingAt expected capacity⟩ := by
    simp only [perform, place, ReceiveWindow.receive, anchoredAt,
      ReceiveWindow.expecting, UInt32.lt_irrefl, ↓reduceIte,
      UInt32.sub_self]
    rfl
  have room :
      (StepQueue.startingAt expected capacity).room = capacity :=
    Nat.sub_zero capacity
  have moving :
      ReceiveWindow.moving (some [] :: List.replicate 64 none)
          (.startingAt expected capacity) = [[]] := by
    rw [ReceiveWindow.moving, room]
    exact List.take_of_length_le positive
  rw [arrived]
  have released :=
    @release_eq
      ⟨⟨expected, some [] :: List.replicate 64 none⟩,
        .startingAt expected capacity⟩ rfl
  simp only [perform, released, moving]
  rfl

/--
After some rounds everything is empty and goes on behind the steps
that were read.
-/
theorem reached_rounds
    (anchor : StepId)
    (positive : 0 < capacity)
    (count : Nat) :
    reached anchor capacity (rounds count) =
      anchoredAt (anchor + UInt32.ofNat count) capacity := by
  induction count with
  | zero => simp [rounds, reached, observeAll]
  | succ count inductionHypothesis =>
      rw [rounds, reached_append, reached_append, reached_append,
        inductionHypothesis]
      exact perform_round anchor positive count

theorem below_rounds (count : Nat) : Below count (rounds count) := by
  intro offset payload member
  induction count with
  | zero => cases member
  | succ count inductionHypothesis =>
      simp only [rounds, List.mem_append, List.mem_singleton,
        reduceCtorEq, or_false] at member
      rcases member with earlier | last
      · exact Nat.lt_succ_of_lt (inductionHypothesis earlier)
      · rw [(Operation.receive.inj last).1]
        exact Nat.lt_succ_self count

/-- Two runs that end in a step which is received differently are not seen alike. -/
theorem history_receive_ne
    {offset : Nat}
    {payload : Octets}
    (differ :
      ((reached anchor capacity operations).window.receive
          ⟨anchor + UInt32.ofNat offset, payload⟩).1 ≠
        ((reached 0 capacity operations).window.receive
          ⟨0 + UInt32.ofNat offset, payload⟩).1) :
    history anchor capacity (operations ++ [.receive offset payload]) ≠
      history 0 capacity (operations ++ [.receive offset payload]) :=
  observeAll_append_ne fun same =>
    differ (Outcome.received.inj (congrArg Observation.outcome same))

/--
The step with id zero, behind the end of the circle, is taken for
one seen before.
-/
theorem history_behind_ne
    {offset : Nat}
    (around : anchor.toNat + offset = UInt32.size)
    (short : offset < UInt32.size) :
    history anchor capacity [.receive offset []] ≠
      history 0 capacity [.receive offset []] := by
  have wrapped := StepId.add_ofNat_eq_zero around short
  have before : (0 : StepId) < anchor := by
    rw [UInt32.lt_iff_toNat_lt, UInt32.toNat_zero]
    omega
  have there :
      ((reached anchor capacity []).window.receive
        ⟨anchor + UInt32.ofNat offset, []⟩).1 = .repeated := by
    rw [wrapped]
    exact congrArg Prod.fst (if_pos before)
  have here := ReceiveWindow.receive_expecting_zero
    ⟨0 + UInt32.ofNat offset, []⟩
  change
    history anchor capacity ([] ++ [.receive offset []]) ≠
      history 0 capacity ([] ++ [.receive offset []])
  refine history_receive_ne fun same => ?_
  have contradiction := there.symm.trans (same.trans here)
  split at contradiction <;> cases contradiction

/--
Once the expected id has gone around the circle, the first step is no longer
taken for one seen before.
-/
theorem history_around_ne
    (positive : 0 < capacity)
    {count : Nat}
    (counted : 0 < count)
    (around : anchor.toNat + count = UInt32.size)
    (short : count ≤ 2 ^ 31) :
    history anchor capacity (rounds count ++ [.receive 0 []]) ≠
      history 0 capacity (rounds count ++ [.receive 0 []]) := by
  have small : count < UInt32.size :=
    Nat.lt_of_le_of_lt short (by decide)
  have wrapped := StepId.add_ofNat_eq_zero around small
  have far : ¬anchor.toNat < ReceiveWindow.size := by
    have large : ReceiveWindow.size + 2 ^ 31 ≤ UInt32.size := by decide
    omega
  have there :
      ((reached anchor capacity (rounds count)).window.receive
        ⟨anchor + UInt32.ofNat 0, []⟩).1 = .outside := by
    rw [reached_rounds anchor positive, wrapped, anchoredAt,
      ReceiveWindow.receive_expecting_zero]
    exact if_neg (by simpa using far)
  have before : (0 : StepId) + UInt32.ofNat 0 < 0 + UInt32.ofNat count := by
    rw [UInt32.zero_add, UInt32.zero_add, UInt32.lt_iff_toNat_lt,
      UInt32.toNat_ofNat_of_lt' small]
    exact counted
  have here :
      ((reached 0 capacity (rounds count)).window.receive
        ⟨0 + UInt32.ofNat 0, []⟩).1 = .repeated := by
    rw [reached_rounds 0 positive]
    exact congrArg Prod.fst (if_pos before)
  refine history_receive_ne ?_
  rw [there, here]
  nofun

/-- A step for an empty slot is stored while its id lies below the bound. -/
theorem stored_of_empty
    (below : Below limit operations)
    (fits : anchor.toNat + limit < UInt32.size)
    {distance : Nat}
    (payload : Octets)
    (near :
      ((reached anchor capacity operations).window.expected -
        anchor).toNat + distance < limit)
    (empty :
      (reached anchor capacity operations).window.slots[distance]? =
        some none) :
    ((reached anchor capacity operations).window.receive
      ⟨(reached anchor capacity operations).window.expected +
        UInt32.ofNat distance, payload⟩).1 = .stored := by
  obtain ⟨bounded, sameState, _⟩ :=
    reached_eq_renumber capacity below fits
  have offset :
      (reached anchor capacity operations).window.expected =
        anchor + (reached 0 capacity operations).window.expected := by
    rw [sameState]
    rfl
  have expected := bounded.expected
  have place :
      (anchor + (reached 0 capacity operations).window.expected).toNat =
        anchor.toNat +
          (reached 0 capacity operations).window.expected.toNat := by
    have fitsExpected :
        anchor.toNat +
            (reached 0 capacity operations).window.expected.toNat <
          UInt32.size := by
      omega
    rw [UInt32.toNat_add]
    exact Nat.mod_eq_of_lt fitsExpected
  refine ReceiveWindow.receive_of_empty ?_ empty
  rw [offset, StepId.add_sub_self] at near
  rw [offset, place]
  omega

end

/--
Runs whose steps arrive at offsets below `limit` are seen alike from an anchor and
from zero exactly if the ids from the anchor on, the one behind the last included,
do not go around the circle.
-/
theorem receiving_renumbered_iff
    (anchor : StepId)
    {capacity limit : Nat}
    (positive : 0 < capacity)
    (short : limit ≤ 2 ^ 31) :
    (∀ operations,
        Below limit operations →
          history anchor capacity operations =
              history 0 capacity operations ∧
            ∀ distance payload,
              ((reached anchor capacity operations).window.expected -
                  anchor).toNat + distance < limit →
              (reached anchor capacity operations).window.slots[distance]? =
                  some none →
                ((reached anchor capacity operations).window.receive
                  ⟨(reached anchor capacity operations).window.expected +
                    UInt32.ofNat distance, payload⟩).1 = .stored) ↔
      anchor.toNat + limit < UInt32.size := by
  constructor
  · intro alike
    refine Nat.lt_of_not_le fun around => ?_
    have small := anchor.toNat_lt_size
    obtain ⟨offset, last⟩ : ∃ offset, anchor.toNat + offset = UInt32.size :=
      ⟨UInt32.size - anchor.toNat, by omega⟩
    have large : 2 ^ 31 < UInt32.size := by decide
    rcases Nat.lt_or_ge offset limit with within | exactly
    · -- The id behind the last of the circle may arrive.
      have below : Below limit [.receive offset []] := by
        intro place payload member
        rw [(Operation.receive.inj (List.mem_singleton.mp member)).1]
        exact within
      exact history_behind_ne last (by omega) (alike _ below).1
    · -- It may only come to be expected.
      obtain rfl : offset = limit := by omega
      have below : Below offset (rounds offset ++ [.receive 0 []]) := by
        intro place payload member
        rcases List.mem_append.mp member with earlier | final
        · exact below_rounds offset place payload earlier
        · rw [(Operation.receive.inj (List.mem_singleton.mp final)).1]
          omega
      exact history_around_ne positive (by omega) last short
        (alike _ below).1
  · intro fits operations below
    exact ⟨(reached_eq_renumber capacity below fits).2.2,
      fun _ payload near empty =>
        stored_of_empty below fits payload near empty⟩

/--
Three steps may arrive four ids before the end of the circle, and not three
ids before it.
-/
theorem receiving_renumbered_atEnd :
    (0 < 1 ∧ 3 ≤ 2 ^ 31) ∧
      (¬∀ operations,
        Below 3 operations →
          history 4294967293 1 operations = history 0 1 operations ∧
            ∀ distance payload,
              ((reached 4294967293 1 operations).window.expected -
                  4294967293).toNat + distance < 3 →
              (reached 4294967293 1 operations).window.slots[distance]? =
                  some none →
                ((reached 4294967293 1 operations).window.receive
                  ⟨(reached 4294967293 1 operations).window.expected +
                    UInt32.ofNat distance, payload⟩).1 = .stored) ∧
      ∀ operations,
        Below 3 operations →
          history 4294967292 1 operations = history 0 1 operations ∧
            ∀ distance payload,
              ((reached 4294967292 1 operations).window.expected -
                  4294967292).toNat + distance < 3 →
              (reached 4294967292 1 operations).window.slots[distance]? =
                  some none →
                ((reached 4294967292 1 operations).window.receive
                  ⟨(reached 4294967292 1 operations).window.expected +
                    UInt32.ofNat distance, payload⟩).1 = .stored :=
  ⟨by decide,
    mt (receiving_renumbered_iff 4294967293 (by decide) (by decide)).mp
      (by decide),
    (receiving_renumbered_iff 4294967292 (by decide) (by decide)).mpr
      (by decide)⟩

/--
The step behind the last id of the circle is taken for one seen before, while
the second one counted from zero is stored.
-/
theorem receiving_seen_atEnd :
    history 4294967295 1 [.receive 1 []] ≠ history 0 1 [.receive 1 []] := by
  decide

end Inbound

end StepSync
