import StepSync.Proofs.Steps.Window

namespace StepSync

/-!
# The stream of authoritative steps

Authoritative steps pass through three containers, which move on at different
times: the slots of the window, the queue of ready steps, and the steps that were
read.  A `StepStream` is what somebody sees who looks on from outside.  It says
which fragments arrived inside the window, and which steps were read.

`Faithful` ties the containers to it.  What was read and what is ready count up
from the anchor, each with the payload of the first fragment of its id, and each
slot holds the payload of the first fragment of its own id.  Offsets from the
anchor are numbers, ids go around the circle, so the first fragment of an id is
only spoken of within one turn.
-/

/-- What was seen of authoritative steps since they were anchored. -/
structure StepStream where
  anchor : StepId
  fragments : List Step
  reads : List Step
  deriving Repr, DecidableEq

namespace StepStream

/-- Nothing seen yet. -/
def anchoredAt (anchor : StepId) : StepStream :=
  ⟨anchor, [], []⟩

/-- The id at an offset from the anchor. -/
def idAt (stream : StepStream) (offset : Nat) : StepId :=
  stream.anchor + UInt32.ofNat offset

/-- The first fragment of an id. -/
def first? (stream : StepStream) (id : StepId) : Option Step :=
  stream.fragments.find? fun step => step.id == id

/-- Steps have come; those outside the window count for nothing. -/
def see (stream : StepStream) (expected : StepId) (steps : List Step) :
    StepStream :=
  { stream with
    fragments := stream.fragments ++
      steps.filter fun step => ReceiveWindow.InReach expected step }

/-- Some steps were read. -/
def read (stream : StepStream) (steps : List Step) : StepStream :=
  { stream with reads := stream.reads ++ steps }

theorem idAt_add (stream : StepStream) (first second : Nat) :
    stream.idAt (first + second) =
      stream.idAt first + UInt32.ofNat second := by
  rw [idAt, idAt, UInt32.ofNat_add, UInt32.add_assoc]

/-- A further fragment is the first of its id only if there was none before. -/
theorem first?_append
    (stream : StepStream)
    (step : Step)
    (id : StepId) :
    { stream with fragments := stream.fragments ++ [step] }.first? id =
      (stream.first? id).or (if step.id = id then some step else none) := by
  simp [first?, List.find?_append, List.find?_singleton]

theorem id_of_first?
    {stream : StepStream}
    {id : StepId}
    {step : Step}
    (found : stream.first? id = some step) :
    step.id = id := by
  simpa using List.find?_some found

end StepStream

namespace Inbound

/--
The steps that have left the window: those read already and those
that are ready.
-/
def delivered (inbound : Inbound) (stream : StepStream) : List Step :=
  stream.reads ++ inbound.ready.steps

/-- The containers hold what the stream says. -/
structure Faithful (stream : StepStream) (inbound : Inbound) : Prop where
  sized : inbound.window.slots.length = ReceiveWindow.size
  expected :
    inbound.window.expected = stream.idAt (inbound.delivered stream).length
  goesOn : inbound.ready.nextId = inbound.window.expected
  ordered : ∀ index step,
    (inbound.delivered stream)[index]? = some step →
      step.id = stream.idAt index
  first : ∀ index step,
    (inbound.delivered stream)[index]? = some step → index < UInt32.size →
      stream.first? step.id = some step
  waiting : ∀ offset, offset < ReceiveWindow.size →
    (inbound.delivered stream).length + offset < UInt32.size →
      inbound.window.slots[offset]? =
        some ((stream.first?
          (inbound.window.expected + UInt32.ofNat offset)).map Step.payload)
  bounded : ∀ fragment ∈ stream.fragments, ∃ offset,
    offset < (inbound.delivered stream).length + ReceiveWindow.size ∧
      fragment.id = stream.idAt offset

variable {stream : StepStream} {inbound : Inbound}

theorem faithful_anchored
    (anchor : StepId)
    {ready : StepQueue}
    (empty : ready.steps = [])
    (starts : ready.nextId = anchor) :
    Faithful (.anchoredAt anchor) ⟨.expecting anchor, ready⟩ := by
  have nothing :
      delivered ⟨.expecting anchor, ready⟩ (.anchoredAt anchor) = [] :=
    empty
  constructor
  · simp [ReceiveWindow.expecting]
  · rw [nothing]
    simp [StepStream.idAt, StepStream.anchoredAt, ReceiveWindow.expecting]
  · exact starts
  · simp [nothing]
  · simp [nothing]
  · intro offset inRange _
    simp [StepStream.first?, StepStream.anchoredAt, ReceiveWindow.expecting,
      inRange]
  · simp [StepStream.anchoredAt]

namespace Faithful

/--
A fragment in the window changes the slot of its id, and only if
it is the first.
-/
theorem receive
    (faithful : Faithful stream inbound)
    (step : Step) :
    Faithful (stream.see inbound.window.expected [step])
      { inbound with window := (inbound.window.receive step).2 } := by
  by_cases inside :
      ReceiveWindow.InReach inbound.window.expected step
  · obtain ⟨place, inRange, named, filled⟩ :=
      ReceiveWindow.receive_of_inReach faithful.sized inside
    have seen :
        stream.see inbound.window.expected [step] =
          { stream with fragments := stream.fragments ++ [step] } := by
      simp [StepStream.see, inside]
    have position :
        step.id =
          stream.idAt ((inbound.delivered stream).length + place) := by
      rw [named, faithful.expected, ← StepStream.idAt_add]
    rw [seen, filled]
    constructor
    · simpa [ReceiveWindow.fill] using faithful.sized
    · exact faithful.expected
    · exact faithful.goesOn
    · exact faithful.ordered
    · intro index delivered found fits
      have known := faithful.first index delivered found fits
      rw [StepStream.first?_append, known]
      rfl
    · intro offset small fits
      have held := faithful.waiting offset small fits
      simp only [ReceiveWindow.fill, StepStream.first?_append,
        List.getElem?_modify, held, Option.map_eq_map, Option.map_some,
        Option.some.injEq, named]
      by_cases here : place = offset
      · subst here
        rw [if_pos rfl, if_pos rfl]
        cases stream.first?
          (inbound.window.expected + UInt32.ofNat place) <;> rfl
      · have apart := mt (StepId.add_ofNat_inj inbound.window.expected
          (Nat.lt_trans inRange (by decide))
          (Nat.lt_trans small (by decide))).mp here
        rw [if_neg here, if_neg apart, Option.or_none]
    · intro fragment member
      rcases List.mem_append.mp member with earlier | last
      · exact faithful.bounded fragment earlier
      · rw [List.mem_singleton.mp last]
        exact ⟨_, Nat.add_lt_add_left inRange _, position⟩
  · have seen : stream.see inbound.window.expected [step] = stream := by
      simp [StepStream.see, inside]
    rw [seen, ReceiveWindow.receive_of_not_inReach faithful.sized
      inside]
    exact faithful

theorem receiveAll
    (faithful : Faithful stream inbound)
    (steps : List Step) :
    Faithful (stream.see inbound.window.expected steps)
      { inbound with window := (inbound.window.receiveAll steps).2 } := by
  induction steps generalizing stream inbound with
  | nil =>
      have nothing : stream.see inbound.window.expected [] = stream := by
        simp [StepStream.see]
      rw [nothing]
      exact faithful
  | cons step steps inductionHypothesis =>
      have rest := inductionHypothesis (faithful.receive step)
      have seen :
          (stream.see inbound.window.expected [step]).see
              inbound.window.expected steps =
            stream.see inbound.window.expected (step :: steps) := by
        unfold StepStream.see
        rw [List.append_assoc, ← List.filter_append]
        rfl
      rw [ReceiveWindow.expected_receive, seen] at rest
      exact rest

/-- A filled slot holds the first fragment of its id. -/
theorem first?_of_filled
    (faithful : Faithful stream inbound)
    {place : Nat}
    {payload : Octets}
    (filled : inbound.window.slots[place]? = some (some payload))
    (fits : (inbound.delivered stream).length + place < UInt32.size) :
    stream.first? (inbound.window.expected + UInt32.ofNat place) =
      some ⟨inbound.window.expected + UInt32.ofNat place, payload⟩ := by
  obtain ⟨inRange, _⟩ := List.getElem?_eq_some_iff.mp filled
  rw [faithful.sized] at inRange
  have held := faithful.waiting place inRange fits
  rw [filled, Option.some.injEq, eq_comm, Option.map_eq_some_iff] at held
  obtain ⟨step, isFirst, samePayload⟩ := held
  have named := StepStream.id_of_first? isFirst
  rw [isFirst, ← named, ← samePayload]

/-- Behind the window nothing has come in reach. -/
theorem first?_of_behind
    (faithful : Faithful stream inbound)
    {offset : Nat}
    (behind : ReceiveWindow.size ≤ offset)
    (fits : (inbound.delivered stream).length + offset < UInt32.size) :
    stream.first? (inbound.window.expected + UInt32.ofNat offset) =
      none := by
  rw [StepStream.first?, List.find?_eq_none]
  intro fragment member
  obtain ⟨known, near, named⟩ := faithful.bounded fragment member
  have farther : known < (inbound.delivered stream).length + offset :=
    Nat.lt_of_lt_of_le near (Nat.add_le_add_left behind _)
  rw [named, beq_iff_eq, faithful.expected, ← StepStream.idAt_add,
    StepStream.idAt, StepStream.idAt,
    StepId.add_ofNat_inj _ (Nat.lt_trans farther fits) fits]
  exact Nat.ne_of_lt farther

/--
Moving completed steps from the window to the queue changes nothing
that was said.
-/
theorem shift
    (faithful : Faithful stream inbound)
    {moved : List Octets}
    (front : moved <+: ReceiveWindow.completed inbound.window.slots) :
    Faithful stream
      ⟨inbound.window.shift moved.length, inbound.ready.extend moved⟩ := by
  have delivered :
      Inbound.delivered
          ⟨inbound.window.shift moved.length, inbound.ready.extend moved⟩
          stream =
        inbound.delivered stream ++
          StepRun.number inbound.window.expected moved := by
    rw [← faithful.goesOn]
    exact (List.append_assoc ..).symm
  have few : moved.length ≤ ReceiveWindow.size := by
    rw [← faithful.sized]
    exact Nat.le_trans front.length_le (ReceiveWindow.length_completed_le _)
  have inSlot {index : Nat} {payload : Octets}
      (moves : moved[index]? = some payload) :
      inbound.window.slots[index]? = some (some payload) := by
    obtain ⟨inRange, found⟩ := List.getElem?_eq_some_iff.mp moves
    have longer := Nat.lt_of_lt_of_le inRange front.length_le
    apply ReceiveWindow.getElem?_completed
    rw [List.getElem?_eq_getElem longer, ← front.getElem inRange, found]
  constructor
  · simp [ReceiveWindow.shift, faithful.sized]
    omega
  · rw [delivered, List.length_append, StepRun.length_number,
      StepStream.idAt_add, ← faithful.expected]
    rfl
  · exact congrArg (· + UInt32.ofNat moved.length) faithful.goesOn
  · intro index step found
    rw [delivered] at found
    rcases StepRun.getElem?_append_number found with
      earlier | ⟨place, payload, rfl, _, rfl⟩
    · exact faithful.ordered index step earlier
    · rw [StepStream.idAt_add, ← faithful.expected]
  · intro index step found fits
    rw [delivered] at found
    rcases StepRun.getElem?_append_number found with
      earlier | ⟨place, payload, rfl, moves, rfl⟩
    · exact faithful.first index step earlier fits
    · exact faithful.first?_of_filled (inSlot moves) fits
  · intro offset inRange fits
    rw [delivered, List.length_append, StepRun.length_number,
      Nat.add_assoc] at fits
    have sameId :
        (inbound.window.shift moved.length).expected + UInt32.ofNat offset =
          inbound.window.expected + UInt32.ofNat (moved.length + offset) := by
      rw [UInt32.ofNat_add, ← UInt32.add_assoc]
      rfl
    dsimp only
    rw [sameId, ReceiveWindow.getElem?_shift faithful.sized few inRange]
    by_cases still : moved.length + offset < ReceiveWindow.size
    · rw [if_pos still]
      exact faithful.waiting (moved.length + offset) still fits
    · rw [if_neg still,
        faithful.first?_of_behind (Nat.le_of_not_lt still) fits]
      rfl
  · intro fragment member
    obtain ⟨offset, near, named⟩ := faithful.bounded fragment member
    refine ⟨offset, ?_, named⟩
    rw [delivered, List.length_append]
    omega

/-- Releasing succeeds, and changes nothing that was said. -/
theorem release (faithful : Faithful stream inbound) :
    ∃ moved released,
      inbound.release = .ok (moved, released) ∧ Faithful stream released :=
  ⟨_, _, release_eq faithful.goesOn, faithful.shift (List.take_prefix _ _)⟩

theorem takeAll
    (faithful : Faithful stream inbound)
    (steps : List Step) :
    Faithful (stream.see inbound.window.expected steps)
      (inbound.takeAll steps) := by
  obtain ⟨moved, released, succeeds, keeps⟩ :=
    (faithful.receiveAll steps).release
  rw [Inbound.takeAll, succeeds]
  exact keeps

/--
What is read was delivered before, so reading moves it and changes nothing else.
-/
theorem read
    (faithful : Faithful stream inbound)
    {reading : Reading}
    (found : inbound.read = some reading) :
    Faithful (stream.read [reading.step]) reading.inbound := by
  unfold Inbound.read StepQueue.read at found
  cases steps : inbound.ready.steps with
  | nil => simp [steps] at found
  | cons step rest =>
      simp only [steps] at found
      have same :
          Inbound.delivered
              { inbound with ready := { inbound.ready with steps := rest } }
              (stream.read [step]) =
            inbound.delivered stream := by
        simp [Inbound.delivered, StepStream.read, steps]
      have left :
          Faithful (stream.read [step])
            { inbound with ready := { inbound.ready with steps := rest } } := by
        constructor
        · exact faithful.sized
        · rw [same]
          exact faithful.expected
        · exact faithful.goesOn
        · rw [same]
          exact faithful.ordered
        · rw [same]
          exact faithful.first
        · rw [same]
          exact faithful.waiting
        · rw [same]
          exact faithful.bounded
      split at found
      · cases found
        exact left
      · obtain ⟨moved, released, succeeds, keeps⟩ := left.release
        rw [succeeds] at found
        cases found
        exact keeps

/--
The steps that were read count up from the anchor, and each is the first
fragment of its id.
-/
theorem reads
    (faithful : Faithful stream inbound)
    {index : Nat}
    {step : Step}
    (found : stream.reads[index]? = some step) :
    step.id = stream.idAt index ∧
      (index < UInt32.size → stream.first? step.id = some step) := by
  obtain ⟨inRange, _⟩ := List.getElem?_eq_some_iff.mp found
  have delivered : (inbound.delivered stream)[index]? = some step := by
    rw [Inbound.delivered, List.getElem?_append_left inRange, found]
  exact
    ⟨faithful.ordered index step delivered,
      faithful.first index step delivered⟩

end Faithful

end Inbound

end StepSync
