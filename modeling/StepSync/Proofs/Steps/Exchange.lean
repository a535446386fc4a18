import StepSync.Proofs.Steps.Redundancy
import StepSync.Proofs.Steps.Stream

namespace StepSync

/-!
# The exchange of predicted steps

An `Exchange` is what somebody sees who looks on: which steps were predicted since
the buffers were anchored, which of them the server has said it has, and which
steps were in each datagram that was handed over.

Queue, cursor and counts move at different times: an acknowledgement takes steps
off the queue, the cursor follows only with the next run, and a run is counted only
when it was handed over.  `Aligned` says how they stand to each other at any time.
The queue holds the steps from the offset `gone` on, the cursor stands at the
offset `passed`, and each count is that of the step at its place behind the cursor.
The counts do not increase, and all counted steps fit the next run together.
-/

/-- What was seen of predicted steps since they were anchored. -/
structure Exchange where
  anchor : StepId
  written : List Step
  discarded : List StepId
  sent : List (List Step)
  deriving Repr, DecidableEq

namespace Exchange

/-- Nothing seen yet. -/
def anchoredAt (anchor : StepId) : Exchange :=
  ⟨anchor, [], [], []⟩

/-- The id at an offset from the anchor. -/
def idAt (exchange : Exchange) (offset : Nat) : StepId :=
  exchange.anchor + UInt32.ofNat offset

/-- A step was predicted. -/
def write (exchange : Exchange) (step : Step) : Exchange :=
  { exchange with written := exchange.written ++ [step] }

/-- The server has every step with an id below the given one. -/
def discard (exchange : Exchange) (bound : StepId) : Exchange :=
  { exchange with
    discarded := exchange.discarded ++
      (exchange.written.filter fun step => step.id < bound).map Step.id }

/-- A datagram with the given steps was handed over. -/
def send (exchange : Exchange) (steps : List Step) : Exchange :=
  { exchange with sent := exchange.sent ++ [steps] }

/-- In how many datagrams a step was handed over. -/
def timesSent (exchange : Exchange) (id : StepId) : Nat :=
  exchange.sent.countP fun steps => steps.any fun step => step.id == id

/-- The ids of the predicted steps, and the next one, do not wrap around. -/
def InRange (exchange : Exchange) : Prop :=
  exchange.anchor.toNat + exchange.written.length < UInt32.size

variable {exchange : Exchange}

theorem InRange.of_write
    {step : Step}
    (inRange : (exchange.write step).InRange) :
    exchange.InRange := by
  unfold InRange write at inRange
  rw [List.length_append] at inRange
  exact Nat.lt_of_le_of_lt
    (Nat.add_le_add_left (Nat.le_add_right _ _) _) inRange

/-- A written step is one of the earlier ones, or the last. -/
theorem getElem?_write
    {step found : Step}
    {index : Nat}
    (placed : (exchange.write step).written[index]? = some found) :
    exchange.written[index]? = some found ∨
      index = exchange.written.length ∧ found = step := by
  rw [write, List.getElem?_append] at placed
  split at placed
  case isTrue => exact .inl placed
  case isFalse late =>
    rw [List.getElem?_singleton] at placed
    split at placed
    case isTrue first =>
      have place := Nat.le_antisymm (Nat.sub_eq_zero_iff_le.mp first)
        (Nat.le_of_not_lt late)
      exact .inr ⟨place, (Option.some.inj placed).symm⟩
    case isFalse => cases placed

theorem length_write (step : Step) :
    (exchange.write step).written.length = exchange.written.length + 1 := by
  rw [write, List.length_append, List.length_singleton]

theorem idAt_add (first second : Nat) :
    exchange.idAt (first + second) =
      exchange.idAt first + UInt32.ofNat second := by
  rw [idAt, idAt, UInt32.ofNat_add, UInt32.add_assoc]

theorem toNat_idAt
    (inRange : exchange.InRange)
    {offset : Nat}
    (within : offset ≤ exchange.written.length) :
    (exchange.idAt offset).toNat = exchange.anchor.toNat + offset := by
  have reached : exchange.anchor.toNat + offset < UInt32.size :=
    Nat.lt_of_le_of_lt (Nat.add_le_add_left within _) inRange
  exact StepId.toNat_add_ofNat reached

theorem idAt_inj
    (inRange : exchange.InRange)
    (first second : Nat)
    (firstWithin : first ≤ exchange.written.length)
    (secondWithin : second ≤ exchange.written.length) :
    exchange.idAt first = exchange.idAt second ↔ first = second := by
  unfold InRange at inRange
  exact StepId.add_ofNat_inj _ (by omega) (by omega)

theorem timesSent_send (steps : List Step) (id : StepId) :
    (exchange.send steps).timesSent id =
      exchange.timesSent id +
        if ∃ step ∈ steps, step.id = id then 1 else 0 := by
  rw [timesSent, send, List.countP_append, List.countP_singleton]
  simp only [List.any_eq_true, beq_iff_eq]
  rfl

end Exchange

/-- Of ids that count up, those below a bound are in front. -/
theorem length_takeWhile_lt
    {steps : List Step}
    {base : Nat}
    (bound : StepId)
    (ascending : ∀ index step, steps[index]? = some step →
      step.id.toNat = base + index) :
    (steps.takeWhile fun step => step.id < bound).length =
      min steps.length (bound.toNat - base) := by
  induction steps generalizing base with
  | nil => simp
  | cons step steps inductionHypothesis =>
      have first : step.id.toNat = base := ascending 0 step rfl
      have rest :=
        inductionHypothesis fun index later found => by
          have placed := ascending (index + 1) later found
          rw [Nat.add_comm index, ← Nat.add_assoc] at placed
          exact placed
      by_cases below : step.id < bound
      · have order := UInt32.lt_iff_toNat_lt.mp below
        simp only [List.takeWhile_cons, below, decide_true, ↓reduceIte,
          List.length_cons, rest]
        omega
      · have order := mt UInt32.lt_iff_toNat_lt.mpr below
        simp only [List.takeWhile_cons, below, decide_false,
          Bool.false_eq_true, ↓reduceIte, List.length_nil]
        omega

/-- A run goes on where the last ones left off. -/
structure Exchange.Continues
    (exchange : Exchange)
    (held run : List Step) :
    Prop where
  repeats : ∀ id, 0 < exchange.timesSent id →
    exchange.timesSent id < Redundancy.copies → id ∉ exchange.discarded →
      ∃ step ∈ run, step.id = id
  starts : ∀ step ∈ held, exchange.timesSent step.id < Redundancy.copies →
    ∃ first, run.head? = some first ∧ first ∈ held ∧
      exchange.timesSent first.id < Redundancy.copies ∧
      ∀ other ∈ held,
        exchange.timesSent other.id < Redundancy.copies →
          first.id ≤ other.id

namespace Outbound

/-- How often a step in the queue was sent, by the cursor and the counts. -/
def countOf (outbound : Outbound) (id : StepId) : Nat :=
  if id < outbound.redundancy.cursor then Redundancy.copies
  else
    outbound.redundancy.sendCounts.getD
      (id - outbound.redundancy.cursor).toNat 0

/--
Queue, cursor and counts stand to each other, and to what was seen,
as they should.
-/
structure Aligned
    (budget : Nat)
    (exchange : Exchange)
    (outbound : Outbound)
    (gone passed : Nat) :
    Prop where
  named : ∀ index step, exchange.written[index]? = some step →
    step.id = exchange.idAt index
  short : ∀ step ∈ exchange.written,
    Redundancy.payloadOverhead + step.payload.length ≤ budget
  held : outbound.predicted.steps = exchange.written.drop gone
  gone_le : gone ≤ exchange.written.length
  next : outbound.predicted.nextId = exchange.idAt exchange.written.length
  discarded : ∀ id, id ∈ exchange.discarded ↔
    ∃ index, index < gone ∧ id = exchange.idAt index
  known : ∀ steps ∈ exchange.sent, ∀ step ∈ steps, step ∈ exchange.written
  cursor : outbound.redundancy.cursor = exchange.idAt passed
  within : passed + outbound.redundancy.sendCounts.length ≤
    exchange.written.length
  done : ∀ index, index < passed →
    exchange.timesSent (exchange.idAt index) ≤ Redundancy.copies ∧
      (exchange.timesSent (exchange.idAt index) = Redundancy.copies ∨
        index < gone)
  counted : ∀ index, passed ≤ index → index < exchange.written.length →
    exchange.timesSent (exchange.idAt index) =
      outbound.redundancy.sendCounts.getD (index - passed) 0
  underway : Redundancy.Underway outbound.redundancy.sendCounts
  few : outbound.redundancy.sendCounts.length ≤ Redundancy.longestRun
  fits : Redundancy.room
      ((exchange.written.drop passed).take
        outbound.redundancy.sendCounts.length) ≤ budget

/-- A run of so many steps from the cursor on holds every step that was counted. -/
structure Covers
    (budget : Nat)
    (exchange : Exchange)
    (outbound : Outbound)
    (passed count : Nat) :
    Prop where
  counted : outbound.redundancy.sendCounts.length ≤ count
  starts : passed < exchange.written.length → 0 < count
  within : passed + count ≤ exchange.written.length
  few : count ≤ Redundancy.longestRun
  fits : Redundancy.room ((exchange.written.drop passed).take count) ≤ budget

variable {budget room gone passed : Nat}
variable {exchange : Exchange}
variable {outbound : Outbound}

theorem aligned_anchored
    (budget : Nat)
    (anchor : StepId)
    {predicted : StepQueue}
    (empty : predicted.steps = [])
    (starts : predicted.nextId = anchor) :
    Aligned budget (.anchoredAt anchor)
      ⟨predicted, Redundancy.startingAt anchor⟩ 0 0 := by
  constructor <;>
    simp [Exchange.anchoredAt, Redundancy.startingAt, empty, starts,
      Exchange.idAt, Redundancy.Underway.nil]

namespace Aligned

/-- A predicted step that was sent is known by its offset. -/
theorem exists_of_timesSent_pos
    (aligned : Aligned budget exchange outbound gone passed)
    {id : StepId}
    (wasSent : 0 < exchange.timesSent id) :
    ∃ index, index < exchange.written.length ∧ id = exchange.idAt index := by
  obtain ⟨steps, member, contains⟩ := List.countP_pos_iff.mp wasSent
  obtain ⟨step, inSteps, same⟩ := List.any_eq_true.mp contains
  have written := aligned.known steps member step inSteps
  obtain ⟨index, inRange, found⟩ := List.mem_iff_getElem.mp written
  have named :=
    aligned.named index step (List.getElem?_eq_some_iff.mpr ⟨inRange, found⟩)
  exact ⟨index, inRange, (beq_iff_eq.mp same).symm.trans named⟩

/-- The step that is predicted next was never sent. -/
theorem timesSent_next
    (aligned : Aligned budget exchange outbound gone passed)
    (inRange : exchange.InRange) :
    exchange.timesSent (exchange.idAt exchange.written.length) = 0 := by
  refine Nat.eq_zero_of_not_pos fun wasSent => ?_
  obtain ⟨index, old, same⟩ := aligned.exists_of_timesSent_pos wasSent
  have equal :=
    (Exchange.idAt_inj inRange exchange.written.length index
      (Nat.le_refl _) (Nat.le_of_lt old)).mp same
  exact Nat.ne_of_gt old equal

/-- A prediction appends a step that was never sent. -/
theorem write
    (aligned : Aligned budget exchange outbound gone passed)
    {payload : Octets}
    (fits : Redundancy.payloadOverhead + payload.length ≤ budget)
    {longer : StepQueue}
    (writes :
      outbound.predicted.write outbound.predicted.nextId payload =
        .ok longer)
    (inRange :
      (exchange.write
        ⟨outbound.predicted.nextId, payload⟩).InRange) :
    Aligned budget
      (exchange.write ⟨outbound.predicted.nextId, payload⟩)
      { outbound with predicted := longer } gone passed := by
  have goneWithin := aligned.gone_le
  have countedWithin := aligned.within
  have passedWithin := Nat.le_of_add_right_le countedWithin
  rw [StepQueue.write_nextId] at writes
  split at writes
  · cases writes
  · obtain rfl := Except.ok.inj writes
    constructor
    · intro index step found
      rcases Exchange.getElem?_write found with old | ⟨rfl, rfl⟩
      · exact aligned.named index step old
      · exact aligned.next
    · intro step member
      rcases List.mem_append.mp member with old | new
      · exact aligned.short step old
      · rw [List.mem_singleton.mp new]
        exact fits
    · simp only [StepQueue.extend, StepRun.number, Exchange.write,
        aligned.held]
      rw [List.drop_append_of_le_length goneWithin]
    · rw [Exchange.length_write]
      exact Nat.le_succ_of_le goneWithin
    · rw [Exchange.length_write, Exchange.idAt_add]
      exact congrArg (· + 1) aligned.next
    · exact aligned.discarded
    · intro steps member step inSteps
      exact List.mem_append_left _ (aligned.known steps member step inSteps)
    · exact aligned.cursor
    · rw [Exchange.length_write]
      exact Nat.le_succ_of_le countedWithin
    · exact aligned.done
    · intro index notPassed inside
      rw [Exchange.length_write] at inside
      rcases Nat.lt_succ_iff_lt_or_eq.mp inside with old | rfl
      · exact aligned.counted index notPassed old
      · have beyond :
            outbound.redundancy.sendCounts.length ≤
              exchange.written.length - passed :=
          Nat.le_sub_of_add_le' countedWithin
        rw [List.getD_eq_getElem?_getD, List.getElem?_eq_none beyond]
        exact aligned.timesSent_next (Exchange.InRange.of_write inRange)
    · exact aligned.underway
    · exact aligned.few
    · have same :
          ((exchange.write
              ⟨outbound.predicted.nextId, payload⟩).written.drop
                passed).take outbound.redundancy.sendCounts.length =
            (exchange.written.drop passed).take
              outbound.redundancy.sendCounts.length := by
        rw [Exchange.write, List.drop_append_of_le_length passedWithin,
          List.take_append_of_le_length]
        rw [List.length_drop]
        exact Nat.le_sub_of_add_le' countedWithin
      dsimp only
      rw [same]
      exact aligned.fits

/-- The ids in the queue count up as plain numbers. -/
theorem toNat_held
    (aligned : Aligned budget exchange outbound gone passed)
    (inRange : exchange.InRange)
    {index : Nat}
    {step : Step}
    (found : outbound.predicted.steps[index]? = some step) :
    step.id.toNat = exchange.anchor.toNat + gone + index := by
  rw [aligned.held, List.getElem?_drop] at found
  obtain ⟨within, _⟩ := List.getElem?_eq_some_iff.mp found
  rw [aligned.named _ step found,
    Exchange.toNat_idAt inRange (Nat.le_of_lt within), Nat.add_assoc]

/-- An acknowledgement takes exactly the steps below its bound off the queue. -/
theorem discard
    (aligned : Aligned budget exchange outbound gone passed)
    (inRange : exchange.InRange)
    (bound : StepId) :
    Aligned budget (exchange.discard bound)
      { outbound with predicted := outbound.predicted.discardBelow bound }
      (gone + outbound.predicted.countBelow bound) passed := by
  have lengths : outbound.predicted.steps.length =
      exchange.written.length - gone := by
    rw [aligned.held, List.length_drop]
  have count :=
    length_takeWhile_lt bound
      (fun index step found => aligned.toNat_held inRange found)
  have goneWithin := aligned.gone_le
  rw [← StepQueue.countBelow] at count
  constructor
  · exact aligned.named
  · exact aligned.short
  · simp only [StepQueue.discardBelow, aligned.held, List.drop_drop]
    rfl
  · dsimp only [Exchange.discard]
    omega
  · exact aligned.next
  · intro id
    simp only [Exchange.discard, List.mem_append, aligned.discarded,
      List.mem_map, List.mem_filter, decide_eq_true_eq]
    constructor
    · rintro (⟨index, old, same⟩ | ⟨step, ⟨member, below⟩, rfl⟩)
      · exact ⟨index, by omega, same⟩
      · obtain ⟨index, within, found⟩ := List.mem_iff_getElem.mp member
        have named := aligned.named index step
          (List.getElem?_eq_some_iff.mpr ⟨within, found⟩)
        have place := Exchange.toNat_idAt inRange (Nat.le_of_lt within)
        have order := UInt32.lt_iff_toNat_lt.mp below
        rw [named, place] at order
        exact ⟨index, by omega, named⟩
    · rintro ⟨index, front, rfl⟩
      by_cases old : index < gone
      · exact .inl ⟨index, old, rfl⟩
      · have within : index < exchange.written.length := by omega
        have place := Exchange.toNat_idAt inRange (Nat.le_of_lt within)
        have named := aligned.named index exchange.written[index]
          (List.getElem?_eq_getElem within)
        refine .inr ⟨_, ⟨List.getElem_mem within, ?_⟩, named⟩
        rw [named, UInt32.lt_iff_toNat_lt, place]
        omega
  · exact aligned.known
  · exact aligned.cursor
  · exact aligned.within
  · intro index done
    obtain ⟨most, enough⟩ := aligned.done index done
    exact ⟨most, enough.imp_right fun old => by omega⟩
  · exact aligned.counted
  · exact aligned.underway
  · exact aligned.few
  · exact aligned.fits

/-- What is next to be read from the queue is at the offset `gone`. -/
theorem readId
    (aligned : Aligned budget exchange outbound gone passed) :
    outbound.predicted.readId = exchange.idAt gone := by
  unfold StepQueue.readId
  cases steps : outbound.predicted.steps with
  | nil =>
      have allGone := aligned.held.symm.trans steps
      rw [List.drop_eq_nil_iff] at allGone
      have last : gone = exchange.written.length :=
        Nat.le_antisymm aligned.gone_le allGone
      rw [last]
      exact aligned.next
  | cons step rest =>
      have first : exchange.written[gone]? = some step := by
        have head := congrArg List.head? (aligned.held.symm.trans steps)
        rwa [List.head?_drop] at head
      exact aligned.named gone step first

/-- The steps behind the cursor still want to be sent. -/
theorem timesSent_lt
    (aligned : Aligned budget exchange outbound gone passed)
    {index : Nat}
    (notPassed : passed ≤ index)
    (within : index < exchange.written.length) :
    exchange.timesSent (exchange.idAt index) < Redundancy.copies := by
  rw [aligned.counted index notPassed within, List.getD_eq_getElem?_getD]
  cases found : outbound.redundancy.sendCounts[index - passed]? with
  | none => decide
  | some count =>
      exact aligned.underway.unfinished count (List.mem_of_getElem? found)

/--
The cursor catches up with the queue, and leaves the counts of the steps
that are gone.
-/
theorem skip
    (aligned : Aligned budget exchange outbound gone passed)
    (inRange : exchange.InRange) :
    Aligned budget exchange
      { outbound with
        redundancy :=
          outbound.redundancy.skipTo outbound.predicted.readId }
      gone (max passed gone) := by
  have passedWithin := aligned.within
  have goneWithin := aligned.gone_le
  have cursorAt :=
    Exchange.toNat_idAt inRange (Nat.le_of_add_right_le passedWithin)
  have readAt := Exchange.toNat_idAt inRange goneWithin
  rw [aligned.readId]
  unfold Redundancy.skipTo
  rw [aligned.cursor]
  by_cases behind : exchange.idAt passed < exchange.idAt gone
  · have order := UInt32.lt_iff_toNat_lt.mp behind
    have apart : (exchange.idAt gone - exchange.idAt passed).toNat =
        gone - passed := by
      rw [UInt32.toNat_sub_of_le _ _ (UInt32.le_of_lt behind)]
      omega
    have ahead : max passed gone = gone := by omega
    rw [if_pos behind, apart, ahead]
    constructor
    · exact aligned.named
    · exact aligned.short
    · exact aligned.held
    · exact aligned.gone_le
    · exact aligned.next
    · exact aligned.discarded
    · exact aligned.known
    · rfl
    · rw [List.length_drop]
      omega
    · intro index front
      by_cases old : index < passed
      · exact aligned.done index old
      · have unsent :=
          aligned.timesSent_lt (Nat.le_of_not_lt old)
            (Nat.lt_of_lt_of_le front goneWithin)
        exact ⟨Nat.le_of_lt unsent, .inr front⟩
    · intro index notGone within
      rw [aligned.counted index (by omega) within,
        List.getD_eq_getElem?_getD, List.getD_eq_getElem?_getD,
        List.getElem?_drop]
      have place : gone - passed + (index - gone) = index - passed := by
        omega
      rw [place]
    · exact aligned.underway.drop _
    · rw [List.length_drop]
      have few := aligned.few
      omega
    · have place : passed + (gone - passed) = gone := by omega
      have less := Redundancy.room_drop_le exchange.written passed
        (gone - passed) outbound.redundancy.sendCounts.length
      rw [place] at less
      rw [List.length_drop]
      exact Nat.le_trans less aligned.fits
  · have order := mt UInt32.lt_iff_toNat_lt.mpr behind
    have same : max passed gone = passed := by omega
    rw [if_neg behind, same]
    exact aligned

/-- The steps of the next run, once the cursor has caught up with the queue. -/
theorem stepsFrom_cursor
    (aligned : Aligned budget exchange outbound gone passed)
    (inRange : exchange.InRange)
    (caughtUp : gone ≤ passed) :
    outbound.predicted.stepsFrom outbound.redundancy.cursor =
      exchange.written.drop passed := by
  have passedWithin := Nat.le_of_add_right_le aligned.within
  have cursorAt := Exchange.toNat_idAt inRange passedWithin
  have readAt := Exchange.toNat_idAt inRange aligned.gone_le
  have order : exchange.idAt gone ≤ exchange.idAt passed := by
    rw [UInt32.le_iff_toNat_le]
    omega
  have apart : (exchange.idAt passed - exchange.idAt gone).toNat =
      passed - gone := by
    rw [UInt32.toNat_sub_of_le _ _ order]
    omega
  have place : gone + (passed - gone) = passed := by omega
  unfold StepQueue.stepsFrom
  rw [aligned.readId, aligned.cursor, apart, aligned.held, List.drop_drop,
    place]
  cases steps : exchange.written.drop passed with
  | nil => rfl
  | cons step rest =>
      have first : exchange.written[passed]? = some step := by
        have head := congrArg List.head? steps
        rwa [List.head?_drop] at head
      exact if_pos (aligned.named passed step first)

/-- As many steps as fit a run cover those that were counted. -/
theorem covers_fitting
    (aligned : Aligned budget exchange outbound gone passed) :
    Covers budget exchange outbound passed
      (Redundancy.fitting budget
        ((exchange.written.drop passed).take
          Redundancy.longestRun)).length := by
  have most := Redundancy.length_fitting_le budget
    ((exchange.written.drop passed).take Redundancy.longestRun)
  have within := aligned.within
  have few := aligned.few
  rw [List.length_take, List.length_drop] at most
  constructor
  · apply Redundancy.le_length_fitting
    · rw [List.length_take, List.length_drop]
      omega
    · rw [List.take_take, Nat.min_eq_left few]
      exact aligned.fits
  · intro more
    apply Redundancy.le_length_fitting
    · rw [List.length_take, List.length_drop]
      have notEmpty : 0 < Redundancy.longestRun := by decide
      omega
    · have first := aligned.short exchange.written[passed]
        (List.getElem_mem more)
      rw [List.drop_eq_getElem_cons more]
      change Redundancy.room [exchange.written[passed]] ≤ budget
      rw [Redundancy.room_cons, Redundancy.room_nil]
      exact first
  · omega
  · omega
  · have fits := Redundancy.room_fitting_le budget
      ((exchange.written.drop passed).take Redundancy.longestRun)
    rw [List.take_take, Nat.min_eq_left (by omega)] at fits
    exact fits

/--
The next run, once the cursor has caught up with the queue: the steps behind the
cursor that fit.
-/
theorem run_eq
    (aligned :
      Aligned (room - Redundancy.runOverhead) exchange outbound gone passed)
    (inRange : exchange.InRange)
    (caughtUp : gone ≤ passed) :
    Covers (room - Redundancy.runOverhead) exchange outbound passed
        (outbound.redundancy.run outbound.predicted room).length ∧
      StepRun.number outbound.redundancy.cursor
          (outbound.redundancy.run outbound.predicted room) =
        (exchange.written.drop passed).take
          (outbound.redundancy.run outbound.predicted room).length := by
  have shape :
      outbound.redundancy.run outbound.predicted room =
        Redundancy.fitting (room - Redundancy.runOverhead)
          ((exchange.written.drop passed).take Redundancy.longestRun) := by
    rw [Redundancy.run, aligned.stepsFrom_cursor inRange caughtUp]
  have covers := aligned.covers_fitting
  rw [← shape] at covers
  generalize outbound.redundancy.run outbound.predicted room = run at *
  refine ⟨covers, ?_⟩
  have payloads :
      run = ((exchange.written.drop passed).take run.length).map
        Step.payload := by
    have front := Redundancy.fitting_eq_take
      (room - Redundancy.runOverhead)
      ((exchange.written.drop passed).take Redundancy.longestRun)
    rw [← shape, List.take_take, Nat.min_eq_left covers.few] at front
    exact front
  rw [aligned.cursor]
  refine (congrArg (StepRun.number _) payloads).trans ?_
  apply StepRun.number_payloads
  intro index step found
  have placed : exchange.written[passed + index]? = some step := by
    rw [List.getElem?_take, List.getElem?_drop] at found
    split at found
    · exact found
    · cases found
  rw [aligned.named _ step placed, Exchange.idAt_add]

/-- Which offsets are in a run. -/
theorem exists_mem_run_iff
    (aligned : Aligned budget exchange outbound gone passed)
    (inRange : exchange.InRange)
    {count index : Nat}
    (countWithin : passed + count ≤ exchange.written.length)
    (within : index < exchange.written.length) :
    (∃ step ∈ (exchange.written.drop passed).take count,
        step.id = exchange.idAt index) ↔
      passed ≤ index ∧ index < passed + count := by
  constructor
  · rintro ⟨step, member, same⟩
    obtain ⟨place, short, found⟩ := List.mem_take_iff_getElem.mp member
    rw [List.length_drop] at short
    rw [List.getElem_drop] at found
    have named := aligned.named (passed + place) step
      (List.getElem?_eq_some_iff.mpr ⟨by omega, found⟩)
    have equal := (Exchange.idAt_inj inRange index (passed + place)
      (Nat.le_of_lt within) (by omega)).mp (same.symm.trans named)
    omega
  · rintro ⟨notPassed, short⟩
    have named := aligned.named index exchange.written[index]
      (List.getElem?_eq_getElem within)
    refine ⟨exchange.written[index], ?_, named⟩
    refine List.mem_take_iff_getElem.mpr ⟨index - passed, ?_, ?_⟩
    · rw [List.length_drop]
      omega
    · rw [List.getElem_drop]
      have place : passed + (index - passed) = index := by omega
      simp only [place]

/-- What handing a run over does to how often its steps were sent, and others. -/
theorem timesSent_run
    (aligned : Aligned budget exchange outbound gone passed)
    (inRange : exchange.InRange)
    {count : Nat}
    (countWithin : passed + count ≤ exchange.written.length)
    {index : Nat}
    (within : index < exchange.written.length) :
    (exchange.send
        ((exchange.written.drop passed).take count)).timesSent
          (exchange.idAt index) =
      exchange.timesSent (exchange.idAt index) +
        if passed ≤ index ∧ index < passed + count then 1 else 0 := by
  rw [Exchange.timesSent_send]
  simp only [aligned.exists_mem_run_iff inRange countWithin within]

/-- Once a run is handed over, the new counts say how often its steps were sent. -/
theorem timesSent_run_counted
    (aligned : Aligned budget exchange outbound gone passed)
    (inRange : exchange.InRange)
    {count : Nat}
    (countWithin : passed + count ≤ exchange.written.length)
    {index : Nat}
    (notPassed : passed ≤ index)
    (within : index < exchange.written.length) :
    (exchange.send
        ((exchange.written.drop passed).take count)).timesSent
          (exchange.idAt index) =
      (Redundancy.countSent count outbound.redundancy.sendCounts).getD
        (index - passed) 0 := by
  have same :
      (passed ≤ index ∧ index < passed + count) ↔ index - passed < count := by
    omega
  rw [aligned.timesSent_run inRange countWithin within,
    aligned.counted index notPassed within, Redundancy.getD_countSent]
  simp only [same]

/--
A run that was handed over is counted, and the cursor passes what is
sent often enough.
-/
theorem send
    (aligned : Aligned budget exchange outbound gone passed)
    (inRange : exchange.InRange)
    {count : Nat}
    (covers : Covers budget exchange outbound passed count) :
    ∃ finished,
      Aligned budget
        (exchange.send ((exchange.written.drop passed).take count))
        { outbound with
          redundancy :=
            { outbound.redundancy with lastRun := count }.commit }
        gone (passed + finished) := by
  let counts :=
    Redundancy.countSent count outbound.redundancy.sendCounts
  let finished :=
    (counts.takeWhile fun count => Redundancy.copies ≤ count).length
  have countsLength : counts.length = count := by
    have longer := Redundancy.length_countSent count
      outbound.redundancy.sendCounts
    exact longer.trans (Nat.max_eq_left covers.counted)
  have finishedFew : finished ≤ counts.length :=
    (List.takeWhile_sublist _).length_le
  refine ⟨finished, ?_⟩
  constructor
  · exact aligned.named
  · exact aligned.short
  · exact aligned.held
  · exact aligned.gone_le
  · exact aligned.next
  · exact aligned.discarded
  · intro steps member
    rcases List.mem_append.mp member with earlier | last
    · exact aligned.known steps earlier
    · rw [List.mem_singleton.mp last]
      intro step inRun
      exact List.mem_of_mem_drop (List.mem_of_mem_take inRun)
  · rw [Redundancy.commit]
    dsimp only
    rw [aligned.cursor, ← Exchange.idAt_add]
    rfl
  · have within := covers.within
    change passed + finished + (counts.drop finished).length ≤
      exchange.written.length
    rw [List.length_drop]
    omega
  · intro index front
    have within : index < exchange.written.length := by
      have most := covers.within
      omega
    change Exchange.timesSent _ (exchange.idAt index) ≤ _ ∧
      (Exchange.timesSent _ (exchange.idAt index) = _ ∨ _)
    by_cases old : index < passed
    · rw [aligned.timesSent_run inRange covers.within within,
        if_neg (by omega)]
      exact aligned.done index old
    · have place : index - passed < counts.length := by omega
      have ahead : index - passed < finished := by omega
      have reaches : Redundancy.copies ≤ counts.getD (index - passed) 0 :=
        Redundancy.le_getD_of_lt_takeWhile ahead
      have most :=
        (aligned.underway.mem_countSent covers.counted
          (List.getElem_mem place)).2
      have sent : _ = counts.getD (index - passed) 0 :=
        aligned.timesSent_run_counted inRange covers.within
          (Nat.le_of_not_lt old) within
      rw [List.getD_eq_getElem?_getD, List.getElem?_eq_getElem place]
        at reaches sent
      rw [sent]
      exact ⟨most, .inl (Nat.le_antisymm most reaches)⟩
  · intro index notPassed within
    change Exchange.timesSent _ (exchange.idAt index) =
      (counts.drop finished).getD (index - (passed + finished)) 0
    have sent : _ = counts.getD (index - passed) 0 :=
      aligned.timesSent_run_counted inRange covers.within
        (Nat.le_of_add_right_le notPassed) within
    have place : finished + (index - (passed + finished)) = index - passed := by
      omega
    rw [sent, List.getD_eq_getElem?_getD, List.getD_eq_getElem?_getD,
      List.getElem?_drop, place]
  · exact aligned.underway.commit covers.counted
  · change (counts.drop finished).length ≤ Redundancy.longestRun
    rw [List.length_drop]
    have few := covers.few
    omega
  · change Redundancy.room ((exchange.written.drop (passed + finished)).take
      (counts.drop finished).length) ≤ budget
    rw [List.length_drop, countsLength]
    exact Nat.le_trans (Redundancy.room_drop_le _ _ _ _) covers.fits

/-- A step in the queue is known by an offset behind those that are gone. -/
theorem exists_of_mem_held
    (aligned : Aligned budget exchange outbound gone passed)
    {step : Step}
    (member : step ∈ outbound.predicted.steps) :
    ∃ index, gone ≤ index ∧ index < exchange.written.length ∧
      step.id = exchange.idAt index := by
  rw [aligned.held, List.mem_drop_iff_getElem] at member
  obtain ⟨place, within, found⟩ := member
  have named := aligned.named (gone + place) step
    (List.getElem?_eq_some_iff.mpr ⟨by omega, found⟩)
  exact ⟨gone + place, by omega, by omega, named⟩

/-- The counts say how often each step in the queue was sent. -/
theorem countOf_eq
    (aligned : Aligned budget exchange outbound gone passed)
    (inRange : exchange.InRange)
    {step : Step}
    (member : step ∈ outbound.predicted.steps) :
    outbound.countOf step.id = exchange.timesSent step.id := by
  obtain ⟨index, notGone, within, named⟩ := aligned.exists_of_mem_held member
  have passedWithin := Nat.le_of_add_right_le aligned.within
  have cursorAt := Exchange.toNat_idAt inRange passedWithin
  have stepAt := Exchange.toNat_idAt inRange (Nat.le_of_lt within)
  unfold countOf
  rw [named, aligned.cursor]
  by_cases before : exchange.idAt index < exchange.idAt passed
  · have order := UInt32.lt_iff_toNat_lt.mp before
    obtain ⟨_, all | old⟩ := aligned.done index (by omega)
    · rw [if_pos before, all]
    · omega
  · have order := UInt32.not_lt.mp before
    have numbers := UInt32.le_iff_toNat_le.mp order
    have apart : (exchange.idAt index - exchange.idAt passed).toNat =
        index - passed := by
      rw [UInt32.toNat_sub_of_le _ _ order]
      omega
    rw [if_neg before, apart, aligned.counted index (by omega) within]

/-- What the cursor has passed was sent often enough, or is gone. -/
theorem passed_spec
    (aligned : Aligned budget exchange outbound gone passed)
    (inRange : exchange.InRange)
    {id : StepId}
    (since : exchange.anchor ≤ id)
    (before : id < outbound.redundancy.cursor) :
    exchange.timesSent id = Redundancy.copies ∨
      id ∈ exchange.discarded := by
  have cursorAt :=
    Exchange.toNat_idAt inRange (Nat.le_of_add_right_le aligned.within)
  have order := UInt32.lt_iff_toNat_lt.mp before
  have start := UInt32.le_iff_toNat_le.mp since
  rw [aligned.cursor] at order
  have named : id = exchange.idAt (id - exchange.anchor).toNat := by
    rw [Exchange.idAt, UInt32.ofNat_toNat, UInt32.add_comm,
      UInt32.sub_add_cancel]
  have apart := UInt32.toNat_sub_of_le id exchange.anchor since
  obtain ⟨_, all | old⟩ :=
    aligned.done (id - exchange.anchor).toNat (by omega)
  · rw [← named] at all
    exact .inl all
  · exact .inr ((aligned.discarded id).mpr ⟨_, old, named⟩)

/-- No step is sent more often than wanted. -/
theorem timesSent_le
    (aligned : Aligned budget exchange outbound gone passed)
    (id : StepId) :
    exchange.timesSent id ≤ Redundancy.copies := by
  by_cases wasSent : 0 < exchange.timesSent id
  · obtain ⟨index, within, rfl⟩ := aligned.exists_of_timesSent_pos wasSent
    by_cases old : index < passed
    · exact (aligned.done index old).1
    · exact Nat.le_of_lt
        (aligned.timesSent_lt (Nat.le_of_not_lt old) within)
  · omega

/-- A run that covers what was counted continues the exchange. -/
theorem continues
    (aligned : Aligned budget exchange outbound gone passed)
    (inRange : exchange.InRange)
    (caughtUp : gone ≤ passed)
    {count : Nat}
    (covers : Covers budget exchange outbound passed count) :
    exchange.Continues outbound.predicted.steps
      ((exchange.written.drop passed).take count) := by
  have wanted {index : Nat}
      (notGone : gone ≤ index)
      (few :
        exchange.timesSent (exchange.idAt index) < Redundancy.copies) :
      passed ≤ index := by
    refine Nat.le_of_not_lt fun before => ?_
    obtain ⟨_, all | old⟩ := aligned.done index before
    · omega
    · omega
  constructor
  · intro id wasSent few kept
    obtain ⟨index, within, rfl⟩ := aligned.exists_of_timesSent_pos wasSent
    have notGone : gone ≤ index :=
      Nat.le_of_not_lt fun old =>
        kept ((aligned.discarded _).mpr ⟨index, old, rfl⟩)
    have notPassed := wanted notGone few
    rw [aligned.counted index notPassed within] at wasSent
    have counted : index - passed < outbound.redundancy.sendCounts.length := by
      refine Nat.lt_of_not_le fun beyond => ?_
      rw [List.getD_eq_getElem?_getD, List.getElem?_eq_none beyond] at wasSent
      cases wasSent
    have more := covers.counted
    exact (aligned.exists_mem_run_iff inRange covers.within within).mpr
      ⟨notPassed, by omega⟩
  · intro step member few
    obtain ⟨index, notGone, within, named⟩ :=
      aligned.exists_of_mem_held member
    rw [named] at few
    have more : passed < exchange.written.length :=
      Nat.lt_of_le_of_lt (wanted notGone few) within
    have firstNamed := aligned.named passed exchange.written[passed]
      (List.getElem?_eq_getElem more)
    refine ⟨exchange.written[passed], ?_, ?_, ?_, ?_⟩
    · have notEmpty := covers.starts more
      rw [List.head?_take, if_neg (by omega), List.head?_drop,
        List.getElem?_eq_getElem more]
    · rw [aligned.held, List.mem_drop_iff_getElem]
      refine ⟨passed - gone, by omega, ?_⟩
      congr 1
      omega
    · rw [firstNamed]
      exact aligned.timesSent_lt (Nat.le_refl _) more
    · intro other otherHeld otherFew
      obtain ⟨place, kept, otherWithin, otherNamed⟩ :=
        aligned.exists_of_mem_held otherHeld
      rw [otherNamed] at otherFew
      have behind := wanted kept otherFew
      rw [firstNamed, otherNamed, UInt32.le_iff_toNat_le,
        Exchange.toNat_idAt inRange (Nat.le_of_lt more),
        Exchange.toNat_idAt inRange (Nat.le_of_lt otherWithin)]
      omega

end Aligned

end Outbound

end StepSync
