import StepSync.Proofs.Steps.Exchange

namespace StepSync

/-!
# Steps that are sent promptly

A run has room for three of the longest steps, and every step wants to be sent three
times.  So no step has to wait as long as no two are predicted without a datagram
between them: the steps that still want to be sent are the last three at most, and
the next run holds them all.

A `Schedule` notes for each predicted step how many datagrams were handed over
before it.  `OnTime` says that the step is in the three datagrams from there on,
unless the server says that it has it.
-/

namespace Redundancy

/-- Steps of which so many copies of each fit a budget take their share of it. -/
theorem mul_room_le
    (number budget : Nat)
    {steps : List Step}
    (short : ∀ step ∈ steps,
      number * (payloadOverhead + step.payload.length) ≤ budget) :
    number * room steps ≤ steps.length * budget := by
  induction steps with
  | nil => simp
  | cons step steps inductionHypothesis =>
      obtain ⟨first, others⟩ := List.forall_mem_cons.mp short
      have rest := inductionHypothesis others
      rw [room_cons, List.length_cons, Nat.mul_add, Nat.succ_mul,
        Nat.add_comm (steps.length * budget)]
      exact Nat.add_le_add first rest

/-- A run holds as many steps as a step has copies, if there are so many. -/
theorem min_copies_le_length_fitting
    (budget : Nat)
    {steps : List Step}
    (short : ∀ step ∈ steps,
      copies * (payloadOverhead + step.payload.length) ≤ budget) :
    min copies steps.length ≤ (fitting budget steps).length := by
  apply le_length_fitting (Nat.min_le_right _ _)
  generalize few : min copies steps.length = count
  have first (step : Step) (member : step ∈ steps.take count) :=
    short step (List.mem_of_mem_take member)
  have shares := mul_room_le copies budget first
  rw [List.length_take] at shares
  have share : min count steps.length ≤ copies := by omega
  exact Nat.le_of_mul_le_mul_left
    (Nat.le_trans shares (Nat.mul_le_mul_right budget share)) (by decide)

end Redundancy

/--
An exchange, and how many datagrams were handed over before each step
was predicted.
-/
structure Schedule where
  exchange : Exchange
  places : List Nat
  deriving Repr, DecidableEq

namespace Schedule

/-- Nothing seen yet. -/
def anchoredAt (anchor : StepId) : Schedule :=
  ⟨.anchoredAt anchor, []⟩

/--
The exchange has gone on.  A step that was predicted meanwhile comes behind the
datagrams handed over before; the places of steps that are forgotten are forgotten.
-/
def follow (schedule : Schedule) (exchange : Exchange) : Schedule where
  exchange := exchange
  places :=
    if schedule.places.length < exchange.written.length then
      schedule.places ++ [schedule.exchange.sent.length]
    else schedule.places.take exchange.written.length

/-- Every predicted step has its place. -/
def Placed (schedule : Schedule) : Prop :=
  schedule.places.length = schedule.exchange.written.length

/-- No two steps are predicted without a datagram between them. -/
def Paced (schedule : Schedule) : Prop :=
  schedule.places.Pairwise (· < ·)

instance (schedule : Schedule) : Decidable schedule.Paced := by
  unfold Paced
  infer_instance

/--
Every step that the server does not have is in the next datagrams, as often as
it is to be sent.
-/
structure OnTime (schedule : Schedule) : Prop where
  past : ∀ place ∈ schedule.places, place ≤ schedule.exchange.sent.length
  times : ∀ (index place : Nat), schedule.places[index]? = some place →
    schedule.exchange.idAt index ∉ schedule.exchange.discarded →
      schedule.exchange.timesSent (schedule.exchange.idAt index) =
        min Redundancy.copies (schedule.exchange.sent.length - place)
  carried : ∀ (index place : Nat) (step : Step),
    schedule.places[index]? = some place →
    schedule.exchange.written[index]? = some step →
      step.id ∉ schedule.exchange.discarded →
        ∀ later < Redundancy.copies, ∀ steps : List Step,
          schedule.exchange.sent[place + later]? = some steps → step ∈ steps

variable {schedule : Schedule} {exchange : Exchange}

theorem follow_anchored (schedule : Schedule) (anchor : StepId) :
    schedule.follow (.anchoredAt anchor) = .anchoredAt anchor := by
  simp [follow, anchoredAt, Exchange.anchoredAt]

/-- Whatever else happens, the places stay. -/
theorem follow_of_written
    (placed : schedule.Placed)
    (same : exchange.written = schedule.exchange.written) :
    schedule.follow exchange = ⟨exchange, schedule.places⟩ := by
  unfold Placed at placed
  simp [follow, same, ← placed]

theorem follow_self (placed : schedule.Placed) :
    schedule.follow schedule.exchange = schedule :=
  follow_of_written placed rfl

theorem follow_discard (placed : schedule.Placed) (bound : StepId) :
    schedule.follow (schedule.exchange.discard bound) =
      ⟨schedule.exchange.discard bound, schedule.places⟩ :=
  follow_of_written placed rfl

theorem follow_send (placed : schedule.Placed) (steps : List Step) :
    schedule.follow (schedule.exchange.send steps) =
      ⟨schedule.exchange.send steps, schedule.places⟩ :=
  follow_of_written placed rfl

theorem follow_write (placed : schedule.Placed) (step : Step) :
    schedule.follow (schedule.exchange.write step) =
      ⟨schedule.exchange.write step,
        schedule.places ++ [schedule.exchange.sent.length]⟩ := by
  unfold Placed at placed
  simp [follow, placed, Exchange.length_write]

/-- Of places that increase, later ones are as far ahead as they come later. -/
theorem Paced.place_add_le
    (paced : schedule.Paced)
    (first distance : Nat)
    (within : first + distance < schedule.places.length) :
    schedule.places[first] + distance ≤
      schedule.places[first + distance] := by
  induction distance with
  | zero => exact Nat.le_refl _
  | succ distance inductionHypothesis =>
      have increases :=
        List.pairwise_iff_getElem.mp paced (first + distance)
          (first + (distance + 1)) (by omega) within (by omega)
      have rest := inductionHypothesis (by omega)
      omega

theorem onTime_anchored (anchor : StepId) : (anchoredAt anchor).OnTime := by
  constructor <;> simp [anchoredAt, Exchange.anchoredAt]

namespace OnTime

variable {budget gone passed : Nat} {outbound : Outbound}

/-- A step that the server has is of no concern any more. -/
theorem discard (onTime : schedule.OnTime) (bound : StepId) :
    OnTime ⟨schedule.exchange.discard bound, schedule.places⟩ where
  past := onTime.past
  times := fun index place found kept =>
    onTime.times index place found
      fun old => kept (List.mem_append_left _ old)
  carried := fun index place step found written kept =>
    onTime.carried index place step found written
      fun old => kept (List.mem_append_left _ old)

/-- A step is predicted behind all datagrams that were handed over. -/
theorem write
    (onTime : schedule.OnTime)
    (placed : schedule.Placed)
    (aligned :
      Outbound.Aligned budget schedule.exchange outbound gone passed)
    {step : Step}
    (inRange : (schedule.exchange.write step).InRange) :
    OnTime
      ⟨schedule.exchange.write step,
        schedule.places ++ [schedule.exchange.sent.length]⟩ := by
  have unsent := aligned.timesSent_next (Exchange.InRange.of_write inRange)
  unfold Placed at placed
  constructor
  · intro place member
    rcases List.mem_append.mp member with old | new
    · exact onTime.past place old
    · rw [List.mem_singleton.mp new]
      exact Nat.le_refl _
  · intro index place found kept
    by_cases old : index < schedule.places.length
    · rw [List.getElem?_append_left old] at found
      exact onTime.times index place found kept
    · rw [List.getElem?_append_right (Nat.le_of_not_lt old),
        List.getElem?_singleton] at found
      split at found
      case isFalse => cases found
      case isTrue last =>
        obtain rfl := Option.some.inj found
        have index_eq : index = schedule.exchange.written.length := by omega
        rw [index_eq]
        refine Eq.trans unsent ?_
        dsimp only [Exchange.write]
        rw [Nat.sub_self, Nat.min_zero]
  · intro index place step' found written kept later few steps sent
    by_cases old : index < schedule.places.length
    · rw [List.getElem?_append_left old] at found
      have before : schedule.exchange.written[index]? = some step' := by
        dsimp only [Exchange.write] at written
        rwa [List.getElem?_append_left (by omega)] at written
      exact onTime.carried index place step' found before kept later few
        steps sent
    · rw [List.getElem?_append_right (Nat.le_of_not_lt old),
        List.getElem?_singleton] at found
      split at found
      case isFalse => cases found
      case isTrue last =>
        obtain rfl := Option.some.inj found
        have unsent : schedule.exchange.sent[
            schedule.exchange.sent.length + later]? = none :=
          List.getElem?_eq_none (Nat.le_add_right _ _)
        cases unsent.symm.trans sent

/-- A step behind the cursor is not known to the server. -/
theorem notMem_discarded
    (aligned :
      Outbound.Aligned budget schedule.exchange outbound gone passed)
    (inRange : schedule.exchange.InRange)
    {index : Nat}
    (kept : gone ≤ index)
    (within : index < schedule.exchange.written.length) :
    schedule.exchange.idAt index ∉ schedule.exchange.discarded := by
  intro member
  obtain ⟨old, before, same⟩ := (aligned.discarded _).mp member
  have goneWithin := aligned.gone_le
  have equal := (Exchange.idAt_inj inRange index old
    (Nat.le_of_lt within) (by omega)).mp same
  omega

/-- At a good pace no more steps want to be sent than a step has copies. -/
theorem few
    (onTime : schedule.OnTime)
    (placed : schedule.Placed)
    (paced : schedule.Paced)
    (aligned :
      Outbound.Aligned budget schedule.exchange outbound gone passed)
    (inRange : schedule.exchange.InRange)
    (caughtUp : gone ≤ passed) :
    schedule.exchange.written.length - passed ≤ Redundancy.copies := by
  unfold Placed at placed
  rcases Nat.lt_or_ge passed schedule.exchange.written.length with
    more | allPassed
  · obtain ⟨distance, last⟩ : ∃ distance,
        passed + distance + 1 = schedule.exchange.written.length :=
      ⟨schedule.exchange.written.length - passed - 1, by omega⟩
    have firstSent := onTime.times passed _
      (List.getElem?_eq_getElem (by omega))
      (notMem_discarded aligned inRange caughtUp more)
    have wanted := aligned.timesSent_lt (Nat.le_refl passed) more
    have apart := paced.place_add_le passed distance (by omega)
    have lastPast := onTime.past _
      (List.getElem_mem (show passed + distance < _ by omega))
    have copies : Redundancy.copies = 3 := rfl
    omega
  · omega

/-- A run with all steps that want to be sent keeps everything on time. -/
theorem send
    (onTime : schedule.OnTime)
    (placed : schedule.Placed)
    (aligned :
      Outbound.Aligned budget schedule.exchange outbound gone passed)
    (inRange : schedule.exchange.InRange) :
    OnTime
      ⟨schedule.exchange.send (schedule.exchange.written.drop passed),
        schedule.places⟩ := by
  unfold Placed at placed
  have passedWithin : passed ≤ schedule.exchange.written.length :=
    Nat.le_of_add_right_le aligned.within
  have whole :
      (schedule.exchange.written.drop passed).take
          (schedule.exchange.written.length - passed) =
        schedule.exchange.written.drop passed :=
    List.take_of_length_le (Nat.le_of_eq List.length_drop)
  have sentLength :
      (schedule.exchange.send
          (schedule.exchange.written.drop passed)).sent.length =
        schedule.exchange.sent.length + 1 := by
    simp [Exchange.send]
  -- A step in front of the cursor was sent often enough, or is gone.
  have enough {index place : Nat}
      (found : schedule.places[index]? = some place)
      (kept :
        schedule.exchange.idAt index ∉ schedule.exchange.discarded)
      (before : index < passed) :
      Redundancy.copies ≤ schedule.exchange.sent.length - place := by
    have sent := onTime.times index place found kept
    obtain ⟨_, all | old⟩ := aligned.done index before
    · omega
    · exact absurd ((aligned.discarded _).mpr ⟨index, old, rfl⟩) kept
  constructor
  · intro place member
    dsimp only
    rw [sentLength]
    exact Nat.le_succ_of_le (onTime.past place member)
  · intro index place found kept
    dsimp only at found kept ⊢
    obtain ⟨isPlaced, isPlace⟩ := List.getElem?_eq_some_iff.mp found
    have within : index < schedule.exchange.written.length := by omega
    have placePast := onTime.past place (List.mem_of_getElem? found)
    have counted := aligned.timesSent_run inRange
      (Nat.le_of_eq (Nat.add_sub_cancel' passedWithin)) within
    rw [whole] at counted
    have before := onTime.times index place found kept
    rw [sentLength]
    refine Eq.trans counted ?_
    by_cases behind : passed ≤ index
    · have wanted := aligned.timesSent_lt behind within
      rw [if_pos ⟨behind, by omega⟩]
      omega
    · have all := enough found kept (Nat.lt_of_not_le behind)
      rw [if_neg (fun both => behind both.1)]
      omega
  · intro index place step found written kept later few steps sent
    dsimp only at found written kept sent
    by_cases old : place + later < schedule.exchange.sent.length
    · have before : schedule.exchange.sent[place + later]? = some steps := by
        rw [Exchange.send, List.getElem?_append_left old] at sent
        exact sent
      exact onTime.carried index place step found written kept later few
        steps before
    · have isLast : place + later = schedule.exchange.sent.length := by
        obtain ⟨small, _⟩ := List.getElem?_eq_some_iff.mp sent
        rw [sentLength] at small
        omega
      have last : schedule.exchange.written.drop passed = steps := by
        rw [Exchange.send, isLast, List.getElem?_append_right (Nat.le_refl _),
          Nat.sub_self] at sent
        exact Option.some.inj sent
      have named := aligned.named index step written
      have behind : passed ≤ index := by
        refine Nat.le_of_not_lt fun before => ?_
        rw [named] at kept
        have all := enough found kept before
        omega
      rw [← last]
      refine List.mem_of_getElem? (i := index - passed) ?_
      rw [List.getElem?_drop, Nat.add_sub_cancel' behind]
      exact written

end OnTime

end Schedule

end StepSync
