import StepSync.Message.StepExchange
import StepSync.Steps.Inbound

namespace StepSync

/-!
# What a receive window releases

The loops over a run of steps and over the filled slots are said here as what they
come to.  Receiving fills a slot that is empty, and releasing moves as many of the
payloads at the front as the queue has room for (`ReceiveWindow.releaseInto_eq`).
The mask shows what waits behind the first slot
(`ReceiveWindow.testBit_laterMask`).
-/

namespace StepId

theorem add_one_add_ofNat (base : StepId) (offset : Nat) :
    base + 1 + UInt32.ofNat offset = base + UInt32.ofNat (offset + 1) := by
  rw [UInt32.ofNat_add, UInt32.add_assoc, UInt32.add_comm 1]
  rfl

/-- Within one turn of the circle, different offsets lead to different ids. -/
theorem add_ofNat_inj
    (base : StepId)
    {first second : Nat}
    (firstFits : first < UInt32.size)
    (secondFits : second < UInt32.size) :
    base + UInt32.ofNat first = base + UInt32.ofNat second ↔
      first = second := by
  rw [UInt32.add_right_inj]
  constructor
  · intro same
    have numbers := congrArg UInt32.toNat same
    rwa [UInt32.toNat_ofNat_of_lt' firstFits,
      UInt32.toNat_ofNat_of_lt' secondFits] at numbers
  · exact congrArg UInt32.ofNat

/--
An offset that does not lead around the circle is added to the number of the id.
-/
theorem toNat_add_ofNat
    {base : StepId}
    {offset : Nat}
    (fits : base.toNat + offset < UInt32.size) :
    (base + UInt32.ofNat offset).toNat = base.toNat + offset := by
  have small : offset < UInt32.size :=
    Nat.lt_of_le_of_lt (Nat.le_add_left _ _) fits
  rw [UInt32.toNat_add, UInt32.toNat_ofNat_of_lt' small]
  exact Nat.mod_eq_of_lt fits

theorem add_ofNat_eq
    {base id : StepId}
    {offset : Nat}
    (apart : id.toNat = base.toNat + offset) :
    base + UInt32.ofNat offset = id := by
  rw [← UInt32.ofNat_toNat (x := id), apart, UInt32.ofNat_add,
    UInt32.ofNat_toNat]

end StepId

/-- A bit of a mask is the entry it stands for. -/
theorem testBit_ackMask (arrived : List Bool) {index : Nat} (inMask : index < 64) :
    (ackMask arrived).toNat.testBit index = arrived.getD index false := by
  have short : (arrived.take 64).length ≤ 64 := List.length_take_le _ _
  have small : bitsValue (arrived.take 64) < UInt64.size := by
    refine Nat.lt_pow_two_of_testBit (n := 64) _ fun beyond notBelow => ?_
    rw [testBit_bitsValue, List.getD_eq_getElem?_getD,
      List.getElem?_eq_none (Nat.le_trans short notBelow)]
    rfl
  rw [ackMask, UInt64.toNat_ofNat_of_lt' small, testBit_bitsValue,
    List.getD_eq_getElem?_getD, List.getD_eq_getElem?_getD,
    List.getElem?_take_of_lt inMask]

namespace StepRun

theorem length_number (first : StepId) (payloads : List Octets) :
    (number first payloads).length = payloads.length := by
  induction payloads generalizing first with
  | nil => rfl
  | cons payload payloads inductionHypothesis =>
      simp [number, inductionHypothesis]

/-- The ids of a run count up from the first. -/
theorem getElem?_number
    (first : StepId)
    (payloads : List Octets)
    (index : Nat) :
    (number first payloads)[index]? =
      payloads[index]?.map fun payload =>
        ⟨first + UInt32.ofNat index, payload⟩ := by
  induction payloads generalizing first index with
  | nil => simp [number]
  | cons payload payloads inductionHypothesis =>
      cases index with
      | zero => simp [number]
      | succ index =>
          simp only [number, List.getElem?_cons_succ, inductionHypothesis,
            StepId.add_one_add_ofNat]

/-- Behind some steps, a run goes on with its first payload. -/
theorem getElem?_append_number
    {steps : List Step}
    {first : StepId}
    {payloads : List Octets}
    {index : Nat}
    {step : Step}
    (found : (steps ++ number first payloads)[index]? = some step) :
    steps[index]? = some step ∨
      ∃ place payload,
        index = steps.length + place ∧
          payloads[place]? = some payload ∧
          step = ⟨first + UInt32.ofNat place, payload⟩ := by
  by_cases early : index < steps.length
  · rw [List.getElem?_append_left early] at found
    exact .inl found
  · have late := Nat.le_of_not_lt early
    rw [List.getElem?_append_right late, getElem?_number,
      Option.map_eq_some_iff] at found
    obtain ⟨payload, moves, same⟩ := found
    have place := (Nat.add_sub_of_le late).symm
    exact .inr ⟨_, payload, place, moves, same.symm⟩

/-- Numbering the payloads of consecutive steps gives these steps. -/
theorem number_payloads
    {first : StepId}
    {steps : List Step}
    (consecutive : ∀ index step, steps[index]? = some step →
      step.id = first + UInt32.ofNat index) :
    number first (steps.map Step.payload) = steps := by
  apply List.ext_getElem?
  intro index
  rw [getElem?_number, List.getElem?_map, Option.map_map]
  cases found : steps[index]? with
  | none => rfl
  | some step =>
      have named := consecutive index step found
      simp only [Option.map_some, Function.comp_apply, ← named]

/-- A run has the payloads that were numbered. -/
theorem payloads_number (first : StepId) (payloads : List Octets) :
    (number first payloads).map Step.payload = payloads := by
  induction payloads generalizing first with
  | nil => rfl
  | cons payload payloads inductionHypothesis =>
      rw [number, List.map_cons, inductionHypothesis]

end StepRun

namespace StepQueue

/-- A queue behind which some payloads were written. -/
def extend (queue : StepQueue) (payloads : List Octets) : StepQueue :=
  { queue with
    steps := queue.steps ++ StepRun.number queue.nextId payloads
    nextId := queue.nextId + UInt32.ofNat payloads.length }

@[simp] theorem extend_nil (queue : StepQueue) : queue.extend [] = queue := by
  simp [extend, StepRun.number]

theorem extend_cons
    (queue : StepQueue)
    (payload : Octets)
    (payloads : List Octets) :
    (queue.extend [payload]).extend payloads =
      queue.extend (payload :: payloads) := by
  simp [extend, StepRun.number, StepId.add_one_add_ofNat]

/-- As many payloads fit as are missing to the capacity. -/
def room (queue : StepQueue) : Nat :=
  queue.capacity - queue.steps.length

theorem room_extend (queue : StepQueue) (payloads : List Octets) :
    (queue.extend payloads).room = queue.room - payloads.length := by
  simp only [room, extend, List.length_append, StepRun.length_number]
  omega

/-- The next payload is written if there is room. -/
theorem write_nextId (queue : StepQueue) (payload : Octets) :
    queue.write queue.nextId payload =
      if queue.room = 0 then .error (.full queue.capacity)
      else .ok (queue.extend [payload]) := by
  have full : queue.isFull = true ↔ queue.room = 0 := by
    simp only [isFull, room, decide_eq_true_eq]
    omega
  simp only [write, ne_eq, not_true_eq_false, ↓reduceIte, full]
  rfl

end StepQueue

namespace ReceiveWindow

/-- The payloads of the filled slots at the front. -/
def completed : List (Option Octets) → List Octets
  | some payload :: slots => payload :: completed slots
  | _ => []

theorem getElem?_completed
    {slots : List (Option Octets)}
    {index : Nat}
    {payload : Octets}
    (found : (completed slots)[index]? = some payload) :
    slots[index]? = some (some payload) := by
  induction slots generalizing index with
  | nil => simp [completed] at found
  | cons slot slots inductionHypothesis =>
      cases slot with
      | none => simp [completed] at found
      | some octets =>
          cases index with
          | zero => simpa [completed] using found
          | succ index =>
              rw [completed, List.getElem?_cons_succ] at found
              rw [List.getElem?_cons_succ]
              exact inductionHypothesis found

theorem length_completed_le (slots : List (Option Octets)) :
    (completed slots).length ≤ slots.length := by
  induction slots with
  | nil => simp [completed]
  | cons slot slots inductionHypothesis =>
      cases slot with
      | none => simp [completed]
      | some payload => simpa [completed] using inductionHypothesis

/-- The payloads that move into a queue. -/
def moving (slots : List (Option Octets)) (queue : StepQueue) :
    List Octets :=
  (completed slots).take queue.room

/-- While there is room the first payload moves, and then those behind it. -/
theorem moving_cons
    (payload : Octets)
    (slots : List (Option Octets))
    {queue : StepQueue}
    (room : queue.room ≠ 0) :
    moving (some payload :: slots) queue =
      payload :: moving slots (queue.extend [payload]) := by
  obtain ⟨left, exactly⟩ := Nat.exists_eq_succ_of_ne_zero room
  simp [moving, completed, StepQueue.room_extend, exactly]

/--
The slots at the front are handed over while they are filled and there is room.
-/
theorem handOver_eq (slots : List (Option Octets)) (queue : StepQueue) :
    handOver slots queue.nextId queue =
      (slots.drop (moving slots queue).length,
        queue.extend (moving slots queue)) := by
  induction slots generalizing queue with
  | nil => simp [handOver, moving, completed]
  | cons slot slots inductionHypothesis =>
      cases slot with
      | none => simp [handOver, moving, completed]
      | some payload =>
          rw [handOver, StepQueue.write_nextId]
          by_cases full : queue.room = 0
          · simp [full, moving]
          · have rest := inductionHypothesis (queue.extend [payload])
            rw [StepQueue.extend_cons] at rest
            rw [if_neg full, moving_cons payload slots full]
            exact rest

/-- The window that has moved on by some slots. -/
def shift (window : ReceiveWindow) (moved : Nat) : ReceiveWindow where
  expected := window.expected + UInt32.ofNat moved
  slots := window.slots.drop moved ++ List.replicate moved none

/--
The slots of a moved window are the later ones of the old window, and
then empty ones.
-/
theorem getElem?_shift
    {window : ReceiveWindow}
    {moved offset : Nat}
    (sized : window.slots.length = size)
    (few : moved ≤ size)
    (inRange : offset < size) :
    (window.shift moved).slots[offset]? =
      if moved + offset < size then window.slots[moved + offset]?
      else some none := by
  have kept : (window.slots.drop moved).length = size - moved := by
    rw [List.length_drop, sized]
  by_cases still : moved + offset < size
  · rw [if_pos still, shift, List.getElem?_append_left, List.getElem?_drop]
    rw [kept]
    exact Nat.lt_sub_iff_add_lt'.mpr still
  · have late : size - moved ≤ offset :=
      Nat.sub_le_iff_le_add'.mpr (Nat.le_of_not_lt still)
    rw [if_neg still, shift, List.getElem?_append_right, kept,
      List.getElem?_replicate_of_lt]
    · omega
    · rw [kept]
      exact late

/-- Releasing into a queue that goes on where the window stands never fails. -/
theorem releaseInto_eq
    {window : ReceiveWindow}
    {queue : StepQueue}
    (goesOn : queue.nextId = window.expected) :
    window.releaseInto queue =
      .ok {
        moved := (moving window.slots queue).length
        window := window.shift (moving window.slots queue).length
        queue := queue.extend (moving window.slots queue) } := by
  have few :
      (moving window.slots queue).length ≤ window.slots.length :=
    Nat.le_trans (List.length_take_le' _ _) (length_completed_le _)
  have counted :
      window.slots.length -
          (window.slots.length - (moving window.slots queue).length) =
        (moving window.slots queue).length := by
    omega
  simp only [releaseInto, goesOn, ne_eq, not_true_eq_false, ↓reduceIte]
  rw [← goesOn, handOver_eq]
  simp only [List.length_drop, counted, goesOn]
  rfl

/-- A step lies in the window that expects an id, ids compared as plain numbers. -/
def InReach (expected : StepId) (step : Step) : Prop :=
  expected.toNat ≤ step.id.toNat ∧
    step.id.toNat < expected.toNat + size

instance (expected : StepId) (step : Step) :
    Decidable (InReach expected step) := by
  unfold InReach
  infer_instance

/-- The window with a payload in one slot, unless that is filled already. -/
def fill (window : ReceiveWindow) (offset : Nat) (payload : Octets) :
    ReceiveWindow :=
  { window with
    slots :=
      window.slots.modify offset fun slot => some (slot.getD payload) }

theorem receive_of_not_inReach
    {window : ReceiveWindow}
    {step : Step}
    (sized : window.slots.length = size)
    (outside : ¬InReach window.expected step) :
    (window.receive step).2 = window := by
  unfold receive
  split
  · rfl
  · rename_i notBelow
    have ahead : window.expected ≤ step.id := UInt32.not_lt.mp notBelow
    have apart := UInt32.toNat_sub_of_le step.id window.expected ahead
    have beyond :
        window.slots[(step.id - window.expected).toNat]? = none := by
      rw [List.getElem?_eq_none_iff, sized, apart]
      have order := UInt32.le_iff_toNat_le.mp ahead
      unfold InReach at outside
      omega
    simp only [beyond]

/-- A step in the window fills its slot, unless that is filled already. -/
theorem receive_of_inReach
    {window : ReceiveWindow}
    {step : Step}
    (sized : window.slots.length = size)
    (inside : InReach window.expected step) :
    ∃ offset, offset < size ∧
      step.id = window.expected + UInt32.ofNat offset ∧
      (window.receive step).2 = window.fill offset step.payload := by
  obtain ⟨ahead, near⟩ := inside
  have order : window.expected ≤ step.id := UInt32.le_iff_toNat_le.mpr ahead
  have apart := UInt32.toNat_sub_of_le step.id window.expected order
  refine ⟨(step.id - window.expected).toNat, by omega, ?_, ?_⟩
  · rw [UInt32.ofNat_toNat, UInt32.add_comm, UInt32.sub_add_cancel]
  · have inRange :
        (step.id - window.expected).toNat < window.slots.length := by
      omega
    unfold receive fill
    rw [if_neg (UInt32.not_lt.mpr order)]
    generalize (step.id - window.expected).toNat = offset at inRange
    simp only [List.getElem?_eq_getElem inRange]
    cases slot : window.slots[offset] with
    | some payload =>
        have same :
            window.slots.modify offset
                (fun slot => some (slot.getD step.payload)) =
              window.slots := by
          apply List.ext_getElem?
          intro index
          rw [List.getElem?_modify]
          by_cases here : offset = index
          · subst here
            simp [List.getElem?_eq_getElem inRange, slot]
          · simp [here]
        simp only [same]
    | none =>
        have filled :
            window.slots.set offset (some step.payload) =
              window.slots.modify offset
                (fun slot => some (slot.getD step.payload)) := by
          apply List.ext_getElem?
          intro index
          rw [List.getElem?_modify, List.getElem?_set]
          by_cases here : offset = index
          · subst here
            simp [slot, inRange]
          · simp [here]
        simp only [filled]

/-- Receiving does not move a window. -/
theorem expected_receive (window : ReceiveWindow) (step : Step) :
    (window.receive step).2.expected = window.expected := by
  unfold receive
  split
  · rfl
  · dsimp only
    split <;> rfl

theorem expected_receiveAll (window : ReceiveWindow) (steps : List Step) :
    (window.receiveAll steps).2.expected = window.expected := by
  induction steps generalizing window with
  | nil => rfl
  | cons step steps inductionHypothesis =>
      rw [receiveAll, inductionHypothesis, expected_receive]

/-- What waits in the window for an id. -/
def payload? (window : ReceiveWindow) (id : StepId) : Option Octets :=
  (window.slots[(id - window.expected).toNat]?).join

theorem payload?_add
    (window : ReceiveWindow)
    {offset : Nat}
    (small : offset < UInt32.size) :
    window.payload? (window.expected + UInt32.ofNat offset) =
      (window.slots[offset]?).join := by
  have apart :
      window.expected + UInt32.ofNat offset - window.expected =
        UInt32.ofNat offset := by
    rw [UInt32.add_comm, UInt32.add_sub_cancel]
  rw [payload?, apart, UInt32.toNat_ofNat_of_lt' small]

/-- What waits for an id is in the slot of that id. -/
theorem exists_slot
    {window : ReceiveWindow}
    {id : StepId}
    {payload : Octets}
    (waits : window.payload? id = some payload) :
    ∃ offset,
      id = window.expected + UInt32.ofNat offset ∧
        window.slots[offset]? = some (some payload) := by
  refine ⟨(id - window.expected).toNat, ?_, ?_⟩
  · rw [UInt32.ofNat_toNat, UInt32.add_comm, UInt32.sub_add_cancel]
  · unfold payload? at waits
    rcases slot : window.slots[(id - window.expected).toNat]? with
      _ | (_ | found)
    · simp [slot] at waits
    · simp [slot] at waits
    · simpa [slot] using waits

/-- A bit of the mask says whether something waits for the id it stands for. -/
theorem testBit_laterMask
    (window : ReceiveWindow)
    {index : Nat}
    (inMask : index < 64) :
    window.laterMask.toNat.testBit index =
      (window.payload?
        (window.expected + 1 + UInt32.ofNat index)).isSome := by
  have small : index + 1 < UInt32.size :=
    Nat.lt_of_le_of_lt (Nat.succ_le_of_lt inMask) (by decide)
  rw [StepId.add_one_add_ofNat, payload?_add window small, laterMask,
    testBit_ackMask _ inMask, List.getD_eq_getElem?_getD, List.getElem?_map,
    List.getElem?_drop, Nat.add_comm 1]
  rcases window.slots[index + 1]? with _ | (_ | payload) <;> rfl

theorem lt_of_testBit_laterMask
    {window : ReceiveWindow}
    {index : Nat}
    (bit : window.laterMask.toNat.testBit index = true) :
    index < 64 := by
  refine Nat.lt_of_not_le fun outside => ?_
  have small : window.laterMask.toNat < 2 ^ index :=
    Nat.lt_of_lt_of_le window.laterMask.toNat_lt
      (Nat.pow_le_pow_right (by decide) outside)
  rw [Nat.testBit_lt_two_pow small] at bit
  cases bit

/-- Behind the completed slots comes one that is empty. -/
theorem getElem?_length_completed (slots : List (Option Octets)) :
    (slots[(completed slots).length]?).join = none := by
  induction slots with
  | nil => rfl
  | cons slot slots inductionHypothesis =>
      cases slot with
      | none => rfl
      | some payload =>
          rw [completed, List.length_cons, List.getElem?_cons_succ]
          exact inductionHypothesis

theorem empty_of_storedCount
    {window : ReceiveWindow}
    (nothingStored : window.storedCount = 0)
    (offset : Nat) :
    (window.slots[offset]?).join = none := by
  have empty := List.countP_eq_zero.mp nothingStored
  rcases slot : window.slots[offset]? with _ | (_ | payload)
  · rfl
  · rfl
  · exact absurd rfl (empty _ (List.mem_of_getElem? slot))

end ReceiveWindow

namespace Inbound

/-- Store the new ones of some steps, and release what is complete. -/
def takeAll (inbound : Inbound) (steps : List Step) : Inbound :=
  let stored : Inbound :=
    { inbound with window := (inbound.window.receiveAll steps).2 }
  match stored.release with
  | .error _ => stored
  | .ok (_, released) => released

/-- Releasing never fails while the queue goes on where the window stands. -/
theorem release_eq
    {inbound : Inbound}
    (goesOn : inbound.ready.nextId = inbound.window.expected) :
    inbound.release =
      let moved := ReceiveWindow.moving inbound.window.slots inbound.ready
      .ok (moved.length,
        ⟨inbound.window.shift moved.length, inbound.ready.extend moved⟩) := by
  simp only [release, ReceiveWindow.releaseInto_eq goesOn]

/-- Steps that came before do not make a release fail. -/
theorem release_receiveAll
    {inbound : Inbound}
    (goesOn : inbound.ready.nextId = inbound.window.expected)
    (steps : List Step) :
    ∃ count later,
      release { inbound with
        window := (inbound.window.receiveAll steps).2 } =
          .ok (count, later) :=
  ⟨_, _, release_eq
    (goesOn.trans
      (ReceiveWindow.expected_receiveAll inbound.window steps).symm)⟩

end Inbound

end StepSync
