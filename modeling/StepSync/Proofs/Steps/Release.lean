import StepSync.Proofs.Steps.Draining

namespace StepSync

/-!
# Moving completed steps

A window may be emptied in place: as long as the first slot is filled and the
queue has room, a payload is taken out, written to the queue, and an empty slot
comes in behind (`ReceiveWindow.moveOn`).  Were a payload refused then, it would
be lost.  None is, and the loop comes to what a release leaves
(`ReceiveWindow.moveCompleted_eq`), so that every payload is found again under its
id (`ReceiveWindow.release_conserves`).
-/

namespace ReceiveWindow

/--
What moving steps in place leaves: how many were moved or why it has ended, the
window, and the queue.
-/
structure Moving where
  result : Except StepError Nat
  window : ReceiveWindow
  queue : StepQueue

/-- A step that was written leaves less room. -/
theorem room_lt_of_write
    {queue longer : StepQueue}
    {id : StepId}
    {payload : Octets}
    (written : queue.write id payload = .ok longer) :
    longer.room < queue.room := by
  unfold StepQueue.write at written
  split at written
  case isTrue => cases written
  case isFalse =>
    split at written
    case isTrue => cases written
    case isFalse notFull =>
      obtain rfl := Except.ok.inj written
      simp only [StepQueue.isFull, decide_eq_true_eq] at notFull
      simp only [StepQueue.room, List.length_append, List.length_singleton]
      omega

/-- Move payloads one by one; one that is refused is lost, and its slot with it. -/
def moveOn (window : ReceiveWindow) (queue : StepQueue) (moved : Nat) :
    Moving :=
  match window.slots with
  | some payload :: rest =>
      if queue.isFull then ⟨.ok moved, window, queue⟩
      else
        match written : queue.write window.expected payload with
        | .error failure =>
            ⟨.error failure, { window with slots := rest }, queue⟩
        | .ok longer =>
            moveOn ⟨window.expected + 1, rest ++ [none]⟩ longer (moved + 1)
  | _ => ⟨.ok moved, window, queue⟩
termination_by queue.room
decreasing_by exact room_lt_of_write written

/-- Move the completed steps into a queue that goes on where the window stands. -/
def moveCompleted (window : ReceiveWindow) (queue : StepQueue) : Moving :=
  if queue.nextId ≠ window.expected then
    ⟨.error (.outOfOrder queue.nextId window.expected), window, queue⟩
  else moveOn window queue 0

theorem shift_zero (window : ReceiveWindow) : window.shift 0 = window := by
  simp [shift]

/-- Moving one slot on and then some is moving one more. -/
theorem shift_shift_one
    {window : ReceiveWindow}
    {slot : Option Octets}
    {rest : List (Option Octets)}
    (slots : window.slots = slot :: rest)
    {moved : Nat}
    (few : moved ≤ rest.length) :
    shift ⟨window.expected + 1, rest ++ [none]⟩ moved =
      window.shift (moved + 1) := by
  simp only [shift, StepId.add_one_add_ofNat, slots, List.drop_succ_cons,
    ReceiveWindow.mk.injEq, true_and]
  rw [List.drop_append_of_le_length few, List.append_assoc,
    List.replicate_succ, List.singleton_append]

/-- A payload that is written makes place for an empty slot. -/
theorem moveOn_of_written
    {window : ReceiveWindow}
    {queue longer : StepQueue}
    {payload : Octets}
    {rest : List (Option Octets)}
    {moved : Nat}
    (slots : window.slots = some payload :: rest)
    (notFull : ¬queue.isFull = true)
    (written : queue.write window.expected payload = .ok longer) :
    moveOn window queue moved =
      moveOn ⟨window.expected + 1, rest ++ [none]⟩ longer (moved + 1) := by
  rw [moveOn]
  simp only [slots, notFull, Bool.false_eq_true, ↓reduceIte]
  split
  case h_1 failure refused => cases refused.symm.trans written
  case h_2 other writes =>
    obtain rfl := Except.ok.inj (writes.symm.trans written)
    rfl

/-- The loop moves what a release moves, and is not refused anything. -/
theorem moveOn_eq
    {window : ReceiveWindow}
    {queue : StepQueue}
    (goesOn : queue.nextId = window.expected)
    (moved : Nat) :
    moveOn window queue moved =
      let count := (moving window.slots queue).length
      ⟨.ok (moved + count), window.shift count,
        queue.extend (moving window.slots queue)⟩ := by
  induction window, queue, moved using moveOn.induct with
  | case1 window queue moved payload rest slots full =>
      have noRoom : queue.room = 0 := by
        simp only [StepQueue.isFull, decide_eq_true_eq] at full
        exact Nat.sub_eq_zero_of_le full
      have nothing : moving window.slots queue = [] := by
        rw [moving, noRoom, List.take_zero]
      rw [moveOn, nothing]
      simp [slots, full, shift_zero]
  | case2 window queue moved payload rest slots notFull failure written =>
      rw [← goesOn, StepQueue.write_nextId] at written
      split at written
      case isTrue noRoom =>
        simp only [StepQueue.isFull, decide_eq_true_eq] at notFull
        unfold StepQueue.room at noRoom
        omega
      case isFalse => cases written
  | case3 window queue moved payload rest slots notFull longer written
      inductionHypothesis =>
      rw [moveOn_of_written slots notFull written]
      rw [← goesOn, StepQueue.write_nextId] at written
      split at written
      case isTrue => cases written
      case isFalse room =>
        obtain rfl := Except.ok.inj written
        have others :
            moving (rest ++ [none]) (queue.extend [payload]) =
              moving rest (queue.extend [payload]) :=
          congrArg (List.take _) (completed_append_empty rest 1)
        have few :
            (moving rest (queue.extend [payload])).length ≤ rest.length :=
          Nat.le_trans (List.length_take_le' _ _) (length_completed_le rest)
        rw [inductionHypothesis (congrArg (· + 1) goesOn)]
        dsimp only
        rw [others, shift_shift_one slots few, slots,
          moving_cons payload rest room, StepQueue.extend_cons,
          List.length_cons, Nat.add_right_comm, Nat.add_assoc]
  | case4 window queue moved unfilled =>
      have nothing : moving window.slots queue = [] := by
        rw [moving, completed, List.take_nil]
        exact fun payload rest slots => unfilled payload rest slots
      rw [moveOn, nothing]
      simp [shift_zero]

/--
In place the completed steps move as a release moves them; if that is refused,
nothing has changed.
-/
theorem moveCompleted_eq (window : ReceiveWindow) (queue : StepQueue) :
    moveCompleted window queue =
      match window.releaseInto queue with
      | .error failure => ⟨.error failure, window, queue⟩
      | .ok released => ⟨.ok released.moved, released.window, released.queue⟩ := by
  by_cases goesOn : queue.nextId = window.expected
  · rw [moveCompleted, if_neg (not_not_intro goesOn), moveOn_eq goesOn,
      releaseInto_eq goesOn]
    simp
  · rw [moveCompleted, releaseInto, if_pos goesOn, if_pos goesOn]

/-! ## Windows that can come about -/

/--
What happens to a window: a step comes, the window is emptied to go on from
another id, or completed steps are moved into a queue.
-/
inductive Operation where
  | receive (step : Step)
  | restart (first : StepId)
  | release (queue : StepQueue)
  deriving Repr, DecidableEq

/--
The window that an operation leaves; a release that is refused
leaves it as it was.
-/
def perform (window : ReceiveWindow) : Operation → ReceiveWindow
  | .receive step => (window.receive step).2
  | .restart first => expecting first
  | .release queue => (moveCompleted window queue).window

/-- The window that a run of operations leaves. -/
def reached (first : StepId) (operations : List Operation) : ReceiveWindow :=
  operations.foldl perform (expecting first)

theorem length_slots_receive (window : ReceiveWindow) (step : Step) :
    (window.receive step).2.slots.length = window.slots.length := by
  unfold receive
  split
  · rfl
  · dsimp only
    split
    · rfl
    · rfl
    · exact List.length_set

/-- A window that moves on keeps its size. -/
theorem length_slots_shift
    {window : ReceiveWindow}
    {moved : Nat}
    (few : moved ≤ window.slots.length) :
    (window.shift moved).slots.length = window.slots.length := by
  rw [shift, List.length_append, List.length_drop, List.length_replicate]
  exact Nat.sub_add_cancel few

/-- No more steps move than the window has slots. -/
theorem length_moving_le (slots : List (Option Octets)) (queue : StepQueue) :
    (moving slots queue).length ≤ slots.length :=
  Nat.le_trans (List.length_take_le' _ _) (length_completed_le slots)

/-- Whatever happens to a window, it has 65 slots. -/
theorem length_slots_perform
    {window : ReceiveWindow}
    (sized : window.slots.length = size)
    (operation : Operation) :
    (window.perform operation).slots.length = size := by
  cases operation with
  | receive step => exact (length_slots_receive window step).trans sized
  | restart first => exact List.length_replicate
  | release queue =>
      rw [perform, moveCompleted_eq]
      by_cases goesOn : queue.nextId = window.expected
      · rw [releaseInto_eq goesOn]
        exact (length_slots_shift (length_moving_le _ _)).trans sized
      · rw [releaseInto, if_pos goesOn]
        exact sized

theorem length_slots_reached (first : StepId) (operations : List Operation) :
    (reached first operations).slots.length = size := by
  have goesOn
      (window : ReceiveWindow)
      (sized : window.slots.length = size) :
      (operations.foldl perform window).slots.length = size := by
    induction operations generalizing window with
    | nil => exact sized
    | cons operation operations inductionHypothesis =>
        exact inductionHypothesis _ (length_slots_perform sized operation)
  exact goesOn (expecting first) List.length_replicate

/-! ## What a release conserves -/

/-- The steps that a release has moved, and all that it has left where it was. -/
structure Conserved
    (window : ReceiveWindow)
    (queue : StepQueue)
    (released : Release) :
    Prop where
  moved :
    released.moved =
      min (window.slots.takeWhile Option.isSome).length
        (queue.capacity - queue.length)
  appended : ∃ run,
    released.queue.steps = queue.steps ++ run ∧
      run.length = released.moved ∧
      ∀ index step, run[index]? = some step →
        step.id = window.expected + UInt32.ofNat index ∧
          window.slots[index]? = some (some step.payload)
  nextId : released.queue.nextId = released.window.expected
  capacity : released.queue.capacity = queue.capacity
  expected :
    released.window.expected =
      window.expected + UInt32.ofNat released.moved
  shifted : ∀ offset, offset < size →
    released.window.slots[offset]? =
      if released.moved + offset < size then
        window.slots[released.moved + offset]?
      else some none
  keeps : ∀ offset, released.moved ≤ offset → offset < size →
    released.window.payload? (window.expected + UInt32.ofNat offset) =
      window.payload? (window.expected + UInt32.ofNat offset)
  sized : released.window.slots.length = size

/-- What completed steps do on their way into a queue. -/
structure Conserves (window : ReceiveWindow) (queue : StepQueue) : Prop where
  refused :
    queue.nextId ≠ window.expected →
      moveCompleted window queue =
        ⟨.error (.outOfOrder queue.nextId window.expected), window, queue⟩
  succeeds :
    queue.nextId = window.expected →
      ∃ released,
        window.releaseInto queue = .ok released ∧
          moveCompleted window queue =
            ⟨.ok released.moved, released.window, released.queue⟩ ∧
          Conserved window queue released

theorem conserved_of_goesOn
    {window : ReceiveWindow}
    {queue : StepQueue}
    (sized : window.slots.length = size)
    (goesOn : queue.nextId = window.expected) :
    Conserved window queue {
      moved := (moving window.slots queue).length
      window := window.shift (moving window.slots queue).length
      queue := queue.extend (moving window.slots queue) } := by
  have few := length_moving_le window.slots queue
  rw [sized] at few
  constructor
  case moved =>
    rw [moving, List.length_take, length_completed, Nat.min_comm]
    rfl
  case appended =>
    refine ⟨StepRun.number queue.nextId (moving window.slots queue), rfl,
      StepRun.length_number _ _, fun index step found => ?_⟩
    rw [StepRun.getElem?_number, Option.map_eq_some_iff] at found
    obtain ⟨payload, moves, rfl⟩ := found
    refine ⟨congrArg (· + UInt32.ofNat index) goesOn, ?_⟩
    rw [moving, List.getElem?_take] at moves
    split at moves
    case isTrue => exact getElem?_completed moves
    case isFalse => cases moves
  case nextId => exact congrArg (· + UInt32.ofNat _) goesOn
  case capacity => rfl
  case expected => rfl
  case shifted =>
    exact fun offset inRange => getElem?_shift sized few inRange
  case keeps =>
    intro offset behind inRange
    generalize (moving window.slots queue).length = moved at few behind
    obtain ⟨place, rfl⟩ := Nat.exists_eq_add_of_le behind
    have small : moved + place < UInt32.size :=
      Nat.lt_trans inRange (by decide)
    have sameId :
        window.expected + UInt32.ofNat (moved + place) =
          (window.shift moved).expected + UInt32.ofNat place := by
      rw [UInt32.ofNat_add, ← UInt32.add_assoc]
      rfl
    rw [payload?_add window small, sameId,
      payload?_add _ (Nat.lt_of_le_of_lt (Nat.le_add_left _ _) small),
      getElem?_shift sized few
        (Nat.lt_of_le_of_lt (Nat.le_add_left _ _) inRange),
      if_pos inRange]
  case sized =>
    exact (length_slots_shift (sized ▸ few)).trans sized

/--
Completed steps that move into a queue come out behind those that it holds, under
their ids, as many as it has room for; and those that stay are found under theirs.
-/
theorem release_conserves
    (first : StepId)
    (operations : List Operation)
    (queue : StepQueue) :
    Conserves (reached first operations) queue := by
  have sized := length_slots_reached first operations
  generalize reached first operations = window at sized
  constructor
  case refused => exact fun behind => if_pos behind
  case succeeds =>
    intro goesOn
    have moves := moveCompleted_eq window queue
    rw [releaseInto_eq goesOn] at moves
    exact ⟨_, releaseInto_eq goesOn, moves, conserved_of_goesOn sized goesOn⟩

/--
Around zero one of two completed steps finds room, and the other keeps its id.
-/
example :
    let window :=
      reached 0xFFFFFFFF
        [.receive ⟨0xFFFFFFFF, [1]⟩, .restart 0xFFFFFFFE,
          .receive ⟨0xFFFFFFFF, [3]⟩, .receive ⟨0xFFFFFFFE, [2]⟩]
    let released :=
      window.releaseInto (StepQueue.startingAt 0xFFFFFFFE 1)
    released.toOption.map Release.moved = some 1 ∧
      (released.toOption.bind fun released =>
        released.window.payload? 0xFFFFFFFF) = some [3] := by
  decide +kernel

end ReceiveWindow

end StepSync
