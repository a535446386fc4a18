import StepSync.Proofs.Steps.Stream

namespace StepSync

/-!
# Steps that are held

A step is held when it was delivered or waits in the window.  Within one turn of the
circle these are exactly the first fragments that came in reach
(`Inbound.Faithful.holds_iff`), and what came stays, so a step that is held once is
held for good.  In the first slot of the window a step waits only while there is no
room for it (`Inbound.Settled`).
-/

namespace Inbound

variable {stream : StepStream} {inbound : Inbound}

/-- A step was delivered or waits in the window. -/
def Holds (stream : StepStream) (inbound : Inbound) (step : Step) : Prop :=
  step ∈ inbound.delivered stream ∨
    inbound.window.payload? step.id = some step.payload

/-- The ids in the window and behind it have not gone around the circle. -/
def InRange (stream : StepStream) (inbound : Inbound) : Prop :=
  stream.anchor.toNat + (inbound.delivered stream).length + 64 < UInt32.size

instance (stream : StepStream) (inbound : Inbound) :
    Decidable (InRange stream inbound) :=
  Nat.decLt _ _

namespace Faithful

theorem toNat_expected
    (faithful : Faithful stream inbound)
    (inRange : InRange stream inbound) :
    inbound.window.expected.toNat =
      stream.anchor.toNat + (inbound.delivered stream).length := by
  unfold InRange at inRange
  rw [faithful.expected, StepStream.idAt]
  exact StepId.toNat_add_ofNat (by omega)

/-- What is held is the first fragment of its id that came in reach. -/
theorem holds_iff
    (faithful : Faithful stream inbound)
    (inRange : InRange stream inbound)
    (step : Step) :
    Holds stream inbound step ↔ stream.first? step.id = some step := by
  unfold InRange at inRange
  constructor
  · rintro (delivered | waits)
    · obtain ⟨index, within, found⟩ := List.mem_iff_getElem.mp delivered
      exact faithful.first index step
        (List.getElem?_eq_some_iff.mpr ⟨within, found⟩) (by omega)
    · obtain ⟨offset, named, filled⟩ := ReceiveWindow.exists_slot waits
      obtain ⟨near, _⟩ := List.getElem?_eq_some_iff.mp filled
      rw [faithful.sized, ReceiveWindow.size] at near
      have first := faithful.first?_of_filled filled (by omega)
      rw [← named] at first
      exact first
  · intro first
    have member : step ∈ stream.fragments := List.mem_of_find?_eq_some first
    obtain ⟨offset, near, named⟩ := faithful.bounded step member
    rw [ReceiveWindow.size] at near
    by_cases early : offset < (inbound.delivered stream).length
    · left
      have found := List.getElem?_eq_getElem early
      have sameId := faithful.ordered offset _ found
      have known := faithful.first offset _ found (by omega)
      rw [sameId, ← named, first] at known
      rw [Option.some.inj known]
      exact List.getElem_mem early
    · right
      obtain ⟨place, rfl⟩ := Nat.exists_eq_add_of_le (Nat.le_of_not_lt early)
      have waits := faithful.waiting place
        (by rw [ReceiveWindow.size]; omega) (by omega)
      rw [StepStream.idAt_add, ← faithful.expected] at named
      rw [named, ReceiveWindow.payload?_add _ (by omega), waits, ← named,
        first]
      rfl

/-- Every id below the one that is expected was delivered. -/
theorem exists_delivered
    (faithful : Faithful stream inbound)
    (inRange : InRange stream inbound)
    {id : StepId}
    (anchored : stream.anchor.toNat ≤ id.toNat)
    (below : id.toNat < inbound.window.expected.toNat) :
    ∃ step ∈ inbound.delivered stream, step.id = id := by
  rw [faithful.toNat_expected inRange] at below
  have within :
      id.toNat - stream.anchor.toNat < (inbound.delivered stream).length := by
    omega
  have named := faithful.ordered _ _ (List.getElem?_eq_getElem within)
  exact
    ⟨_, List.getElem_mem within,
      named.trans (StepId.add_ofNat_eq (by omega))⟩

end Faithful

/-- What is left when only some of the ready steps remain. -/
def leaving (inbound : Inbound) (rest : List Step) : Inbound :=
  { inbound with ready := { inbound.ready with steps := rest } }

/--
Reading takes the first ready step away, and lets waiting ones take its place.
-/
theorem read_cases
    (goesOn : inbound.ready.nextId = inbound.window.expected)
    {reading : Reading}
    (found : inbound.read = some reading) :
    ∃ rest,
      inbound.ready.steps = reading.step :: rest ∧
        (inbound.window.storedCount = 0 ∧
            reading.inbound = inbound.leaving rest ∨
          ∃ moved,
            (inbound.leaving rest).release = .ok (moved, reading.inbound)) := by
  unfold Inbound.read StepQueue.read at found
  cases steps : inbound.ready.steps with
  | nil => simp [steps] at found
  | cons step rest =>
      have leftGoesOn :
          (inbound.leaving rest).ready.nextId =
            (inbound.leaving rest).window.expected :=
        goesOn
      have released := release_eq leftGoesOn
      simp only [steps] at found
      split at found
      case isTrue nothingStored =>
        cases found
        exact ⟨rest, rfl, .inl ⟨nothingStored, rfl⟩⟩
      case isFalse =>
        rw [leaving] at released
        rw [released] at found
        cases found
        exact ⟨rest, rfl, .inr ⟨_, released⟩⟩

/--
More has been seen and delivered, and nothing was lost, since the same anchor.
-/
structure Grows
    (stream : StepStream)
    (inbound : Inbound)
    (laterStream : StepStream)
    (later : Inbound) :
    Prop where
  anchor : laterStream.anchor = stream.anchor
  fragments : stream.fragments <+: laterStream.fragments
  delivered : inbound.delivered stream <+: later.delivered laterStream

namespace Grows

variable {laterStream lastStream : StepStream} {later last : Inbound}

theorem refl (stream : StepStream) (inbound : Inbound) :
    Grows stream inbound stream inbound :=
  ⟨rfl, List.prefix_refl _, List.prefix_refl _⟩

theorem trans
    (first : Grows stream inbound laterStream later)
    (second : Grows laterStream later lastStream last) :
    Grows stream inbound lastStream last :=
  ⟨second.anchor.trans first.anchor, first.fragments.trans second.fragments,
    first.delivered.trans second.delivered⟩

/-- What was in range later was in range before. -/
theorem inRange
    (grows : Grows stream inbound laterStream later)
    (laterInRange : InRange laterStream later) :
    InRange stream inbound := by
  have longer := grows.delivered.length_le
  have sameAnchor := grows.anchor
  unfold InRange at laterInRange ⊢
  rw [sameAnchor] at laterInRange
  omega

/-- Further fragments do not change which one is the first. -/
theorem first?
    (grows : Grows stream inbound laterStream later)
    {id : StepId}
    {step : Step}
    (first : stream.first? id = some step) :
    laterStream.first? id = some step := by
  obtain ⟨further, more⟩ := grows.fragments
  have found :
      stream.fragments.find? (fun fragment => fragment.id == id) =
        some step :=
    first
  rw [StepStream.first?, ← more, List.find?_append, found]
  rfl

/-- A step that is held is held for good. -/
theorem holds
    (grows : Grows stream inbound laterStream later)
    (faithful : Faithful stream inbound)
    (laterFaithful : Faithful laterStream later)
    (laterInRange : InRange laterStream later)
    {step : Step}
    (held : Holds stream inbound step) :
    Holds laterStream later step := by
  rw [faithful.holds_iff (grows.inRange laterInRange)] at held
  rw [laterFaithful.holds_iff laterInRange]
  exact grows.first? held

/-- Releasing only moves steps on. -/
theorem release
    (goesOn : inbound.ready.nextId = inbound.window.expected)
    {moved : Nat}
    (released : inbound.release = .ok (moved, later)) :
    Grows stream inbound stream later := by
  rw [release_eq goesOn] at released
  obtain ⟨_, rfl⟩ := Prod.mk.inj (Except.ok.inj released)
  refine ⟨rfl, List.prefix_refl _, ?_⟩
  unfold Inbound.delivered
  rw [List.prefix_append_right_inj]
  exact List.prefix_append _ _

theorem takeAll
    (faithful : Faithful stream inbound)
    (steps : List Step) :
    Grows stream inbound
      (stream.see inbound.window.expected steps) (inbound.takeAll steps) := by
  have stored := faithful.receiveAll steps
  obtain ⟨moved, later, released, _⟩ := stored.release
  have seen :
      Grows stream inbound (stream.see inbound.window.expected steps)
        { inbound with window := (inbound.window.receiveAll steps).2 } :=
    ⟨rfl, List.prefix_append _ _, List.prefix_refl _⟩
  rw [Inbound.takeAll, released]
  exact seen.trans (release stored.goesOn released)

theorem read
    (faithful : Faithful stream inbound)
    {reading : Reading}
    (found : inbound.read = some reading) :
    Grows stream inbound (stream.read [reading.step]) reading.inbound := by
  obtain ⟨rest, steps, left⟩ := read_cases faithful.goesOn found
  have taken :
      Grows stream inbound (stream.read [reading.step])
        (inbound.leaving rest) := by
    refine ⟨rfl, List.prefix_refl _, ?_⟩
    simp [Inbound.delivered, StepStream.read, leaving, steps]
  rcases left with ⟨_, same⟩ | ⟨moved, released⟩
  · rw [same]
    exact taken
  · exact taken.trans (release faithful.goesOn released)

end Grows

/--
A step that waits in the first slot waits for room: the queue of ready steps is
full.
-/
def Settled (inbound : Inbound) : Prop :=
  (inbound.window.payload? inbound.window.expected).isSome = true →
    inbound.ready.isFull = true

theorem settled_of_empty
    (empty : (inbound.window.slots[0]?).join = none) :
    Settled inbound := by
  intro waits
  rw [ReceiveWindow.payload?, UInt32.sub_self] at waits
  change ((inbound.window.slots[0]?).join).isSome = true at waits
  rw [empty] at waits
  cases waits

theorem settled_restart (inbound : Inbound) (first : StepId) :
    (inbound.restart first).Settled :=
  settled_of_empty rfl

/-- A release goes on until a slot is empty or the queue is full. -/
theorem settled_release
    (sized : inbound.window.slots.length = ReceiveWindow.size)
    (goesOn : inbound.ready.nextId = inbound.window.expected)
    {moved : Nat}
    {released : Inbound}
    (succeeds : inbound.release = .ok (moved, released)) :
    Settled released := by
  rw [release_eq goesOn] at succeeds
  obtain ⟨_, rfl⟩ := Prod.mk.inj (Except.ok.inj succeeds)
  have few := ReceiveWindow.length_completed_le inbound.window.slots
  rw [sized] at few
  by_cases room :
      (ReceiveWindow.completed inbound.window.slots).length ≤
        inbound.ready.room
  · apply settled_of_empty
    have all :
        ReceiveWindow.moving inbound.window.slots inbound.ready =
          ReceiveWindow.completed inbound.window.slots :=
      List.take_of_length_le room
    rw [all]
    dsimp only
    rw [ReceiveWindow.getElem?_shift sized few (by decide), Nat.add_zero]
    split
    · exact ReceiveWindow.getElem?_length_completed _
    · rfl
  · intro _
    have count :
        (ReceiveWindow.moving inbound.window.slots inbound.ready).length =
          inbound.ready.room := by
      rw [ReceiveWindow.moving, List.length_take]
      omega
    have noRoom :=
      StepQueue.room_extend inbound.ready
        (ReceiveWindow.moving inbound.window.slots inbound.ready)
    rw [count, Nat.sub_self] at noRoom
    unfold StepQueue.room at noRoom
    simp only [StepQueue.isFull, decide_eq_true_eq]
    omega

theorem settled_takeAll
    (faithful : Faithful stream inbound)
    (steps : List Step) :
    (inbound.takeAll steps).Settled := by
  have stored := faithful.receiveAll steps
  obtain ⟨moved, later, released, _⟩ := stored.release
  rw [Inbound.takeAll, released]
  exact settled_release stored.sized stored.goesOn released

theorem settled_read
    (faithful : Faithful stream inbound)
    {reading : Reading}
    (found : inbound.read = some reading) :
    reading.inbound.Settled := by
  obtain ⟨rest, _, left⟩ := read_cases faithful.goesOn found
  rcases left with ⟨nothingStored, same⟩ | ⟨moved, released⟩
  · rw [same]
    exact settled_of_empty (ReceiveWindow.empty_of_storedCount nothingStored 0)
  · have sized :
        (inbound.leaving rest).window.slots.length = ReceiveWindow.size :=
      faithful.sized
    exact settled_release sized faithful.goesOn released

end Inbound

/--
What the server is told: the id that is expected, and which of the 64 ids
after it are here.
-/
structure Acknowledgement where
  expected : StepId
  laterMask : UInt64
  deriving Repr, DecidableEq

/--
An id is reported as received: it is below the expected one, or its bit is set.
-/
def Acknowledgement.Reports (acknowledgement : Acknowledgement) (id : StepId) :
    Prop :=
  id.toNat < acknowledgement.expected.toNat ∨
    acknowledgement.expected.toNat < id.toNat ∧
      acknowledgement.laterMask.toNat.testBit
        (id.toNat - acknowledgement.expected.toNat - 1) = true

instance (acknowledgement : Acknowledgement) (id : StepId) :
    Decidable (acknowledgement.Reports id) :=
  inferInstanceAs (Decidable (_ ∨ _))

namespace Inbound

variable {stream : StepStream} {inbound : Inbound}

/-- What is there to tell the server. -/
def acknowledgement (inbound : Inbound) : Acknowledgement :=
  ⟨inbound.window.expected, inbound.window.laterMask⟩

/-- What is reported is held. -/
theorem Faithful.holds_of_reports
    (faithful : Faithful stream inbound)
    (inRange : InRange stream inbound)
    {id : StepId}
    (anchored : stream.anchor.toNat ≤ id.toNat)
    (reports : inbound.acknowledgement.Reports id) :
    ∃ payload, Holds stream inbound ⟨id, payload⟩ := by
  rcases reports with below | ⟨beyond, bit⟩
  · obtain ⟨step, member, rfl⟩ :=
      faithful.exists_delivered inRange anchored below
    exact ⟨step.payload, .inl member⟩
  · simp only [acknowledgement] at beyond bit
    generalize place :
      id.toNat - inbound.window.expected.toNat - 1 = index at bit
    have inMask := ReceiveWindow.lt_of_testBit_laterMask bit
    have named :
        inbound.window.expected + 1 + UInt32.ofNat index = id :=
      (StepId.add_one_add_ofNat _ _).trans (StepId.add_ofNat_eq (by omega))
    rw [ReceiveWindow.testBit_laterMask _ inMask, named,
      Option.isSome_iff_exists] at bit
    obtain ⟨payload, waits⟩ := bit
    exact ⟨payload, .inr waits⟩

/-- What is held is reported, except for a step that waits in the first slot. -/
theorem Faithful.reports_of_holds
    (faithful : Faithful stream inbound)
    (inRange : InRange stream inbound)
    {step : Step}
    (held : Holds stream inbound step) :
    inbound.acknowledgement.Reports step.id ∨
      step.id = inbound.window.expected ∧
        inbound.window.payload? step.id = some step.payload := by
  have expected := faithful.toNat_expected inRange
  unfold InRange at inRange
  rcases held with delivered | waits
  · left
    left
    obtain ⟨index, within, found⟩ := List.mem_iff_getElem.mp delivered
    have named :=
      faithful.ordered index step (List.getElem?_eq_some_iff.mpr ⟨within, found⟩)
    have number : step.id.toNat = stream.anchor.toNat + index := by
      rw [named, StepStream.idAt]
      exact StepId.toNat_add_ofNat (by omega)
    simp only [acknowledgement]
    omega
  · obtain ⟨offset, named, filled⟩ := ReceiveWindow.exists_slot waits
    obtain ⟨near, _⟩ := List.getElem?_eq_some_iff.mp filled
    rw [faithful.sized, ReceiveWindow.size] at near
    have number :
        step.id.toNat = inbound.window.expected.toNat + offset := by
      rw [named]
      exact StepId.toNat_add_ofNat (by omega)
    cases offset with
    | zero =>
        right
        exact ⟨UInt32.toNat_inj.mp number, waits⟩
    | succ index =>
        left
        right
        have place :
            step.id.toNat - inbound.window.expected.toNat - 1 = index := by
          omega
        have behind :
            inbound.window.expected + 1 + UInt32.ofNat index = step.id :=
          (StepId.add_one_add_ofNat _ _).trans named.symm
        simp only [acknowledgement]
        rw [place, ReceiveWindow.testBit_laterMask _ (by omega), behind, waits]
        exact ⟨by omega, rfl⟩

end Inbound

end StepSync
