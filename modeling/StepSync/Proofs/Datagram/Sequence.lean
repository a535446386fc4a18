import Mathlib.Algebra.Ring.Nat
import StepSync.Datagram.Sequence

namespace StepSync.ReceiveSequence

/-!
# The window of sequence numbers

The numbers lie on a circle, and a receiver accepts those on the half of it that
is ahead of the last accepted one.  `strides` are the distances of the numbers
that it accepts of a list.  Their sum says where the receiver has come to
(`acceptAll_some`), so a number stays behind it until the strides since have led
once around half the circle.  `windowed` is the whole account of a list of
numbers.
-/

/-- How far a number lies ahead of another one on the circle of numbers. -/
def ahead (last number : UInt16) : Nat :=
  (number - last).toNat

/-- The numbers on the half of the circle that is ahead of the last one. -/
def InWindow (last number : UInt16) : Prop :=
  1 ≤ ahead last number ∧ ahead last number ≤ 32767

/-- The number is taken, as lying so far ahead. -/
structure Takes
    (sequence : ReceiveSequence)
    (number : UInt16)
    (stride : Nat) :
    Prop where
  positive : 0 < stride
  distance : sequence.distance number = stride
  state : sequence.accept number = ⟨some number⟩

/-- The number is refused, and changes nothing. -/
structure Rejects (sequence : ReceiveSequence) (number : UInt16) : Prop where
  distance : sequence.distance number ≤ 0
  state : sequence.accept number = sequence

/-- The receiver once it was shown some numbers. -/
def acceptAll (sequence : ReceiveSequence) (numbers : List UInt16) :
    ReceiveSequence :=
  numbers.foldl accept sequence

/--
The distances of those numbers that are accepted, each from the
accepted one before.
-/
def strides (sequence : ReceiveSequence) : List UInt16 → List Nat
  | [] => []
  | number :: numbers =>
      if 0 < sequence.distance number then
        (sequence.distance number).toNat ::
          strides (sequence.accept number) numbers
      else strides (sequence.accept number) numbers

/-! ## One number -/

/-- Half the circle is ahead, the other half behind. -/
theorem distance_some (last number : UInt16) :
    distance ⟨some last⟩ number =
      if ahead last number < 32768 then (ahead last number : Int)
      else (ahead last number : Int) - 65536 := by
  have signed :
      distance ⟨some last⟩ number = (number - last).toBitVec.toInt := rfl
  have value : ahead last number = (number - last).toBitVec.toNat := rfl
  rw [signed, value, BitVec.toInt_eq_toNat_cond]
  generalize (number - last).toBitVec.toNat = far
  split <;> split <;> omega

theorem ahead_lt (last number : UInt16) : ahead last number < 65536 :=
  (number - last).toNat_lt

/-- A number that lies ahead of the last one is taken, and no other. -/
theorem distance_pos_iff (last number : UInt16) :
    0 < distance ⟨some last⟩ number ↔ InWindow last number := by
  have bounded := ahead_lt last number
  rw [distance_some, InWindow]
  split <;> omega

theorem takes_of_distance
    {sequence : ReceiveSequence}
    {number : UInt16}
    (further : 0 < sequence.distance number) :
    sequence.Takes number (sequence.distance number).toNat where
  positive := by omega
  distance := (Int.toNat_of_nonneg (Int.le_of_lt further)).symm
  state := if_pos further

theorem rejects_of_distance
    {sequence : ReceiveSequence}
    {number : UInt16}
    (late : sequence.distance number ≤ 0) :
    sequence.Rejects number where
  distance := late
  state := if_neg (Int.not_lt.mpr late)

/-- Within the window, the stride is how far the number lies ahead. -/
theorem takes_of_inWindow
    {last number : UInt16}
    (inWindow : InWindow last number) :
    Takes ⟨some last⟩ number (ahead last number) := by
  have further := (distance_pos_iff last number).mpr inWindow
  have signed := distance_some last number
  have near := inWindow.2
  rw [if_pos (by omega)] at signed
  have taken := takes_of_distance further
  rwa [signed, Int.toNat_natCast] at taken

theorem rejects_of_not_inWindow
    {last number : UInt16}
    (outside : ¬InWindow last number) :
    Rejects ⟨some last⟩ number := by
  rw [← distance_pos_iff] at outside
  exact rejects_of_distance (Int.not_lt.mp outside)

/-- What lies behind by no more than half the circle is not ahead. -/
theorem rejects_behind
    (last : UInt16)
    {back : Nat}
    (near : back ≤ 32768) :
    Rejects ⟨some last⟩ (last - UInt16.ofNat back) := by
  refine rejects_of_not_inWindow ?_
  rintro ⟨further, inside⟩
  unfold ahead at further inside
  have value := UInt16.toNat_sub (last - UInt16.ofNat back) last
  have start := UInt16.toNat_sub last (UInt16.ofNat back)
  have size : (UInt16.ofNat back).toNat = back := by
    rw [UInt16.toNat_ofNat']
    omega
  have bounded := last.toNat_lt
  omega

/-! ## A list of numbers -/

@[simp] theorem acceptAll_nil (sequence : ReceiveSequence) :
    sequence.acceptAll [] = sequence :=
  rfl

@[simp] theorem acceptAll_cons
    (sequence : ReceiveSequence)
    (number : UInt16)
    (numbers : List UInt16) :
    sequence.acceptAll (number :: numbers) =
      (sequence.accept number).acceptAll numbers :=
  rfl

theorem acceptAll_append
    (sequence : ReceiveSequence)
    (earlier later : List UInt16) :
    sequence.acceptAll (earlier ++ later) =
      (sequence.acceptAll earlier).acceptAll later :=
  List.foldl_append

@[simp] theorem strides_nil (sequence : ReceiveSequence) :
    sequence.strides [] = [] :=
  rfl

/-- Each stride is one number that was accepted and those that it has skipped. -/
theorem length_add_skipped
    (sequence : ReceiveSequence)
    (numbers : List UInt16) :
    (sequence.strides numbers).length +
        ((sequence.strides numbers).map (· - 1)).sum =
      (sequence.strides numbers).sum := by
  induction numbers generalizing sequence with
  | nil => rfl
  | cons number numbers inductionHypothesis =>
      have later := inductionHypothesis (sequence.accept number)
      rw [strides]
      by_cases further : 0 < sequence.distance number
      · rw [if_pos further, List.length_cons, List.map_cons, List.sum_cons,
          List.sum_cons]
        omega
      · rw [if_neg further]
        exact later

/-- A number that was taken from the last one lies its distance ahead of it. -/
theorem add_ofNat_ahead (last number : UInt16) :
    last + UInt16.ofNat (ahead last number) = number := by
  rw [ahead, UInt16.ofNat_toNat, UInt16.add_comm, UInt16.sub_add_cancel]

/-- The receiver has come as far as the strides lead. -/
theorem acceptAll_some (last : UInt16) (numbers : List UInt16) :
    acceptAll ⟨some last⟩ numbers =
      ⟨some (last + UInt16.ofNat (strides ⟨some last⟩ numbers).sum)⟩ := by
  induction numbers generalizing last with
  | nil =>
      have stays : last + UInt16.ofNat 0 = last := UInt16.add_zero last
      rw [strides_nil, acceptAll_nil, List.sum_nil, stays]
  | cons number numbers inductionHypothesis =>
      rw [acceptAll_cons, strides]
      by_cases inWindow : InWindow last number
      · have taken := takes_of_inWindow inWindow
        rw [taken.state, inductionHypothesis,
          if_pos ((distance_pos_iff last number).mpr inWindow),
          taken.distance, Int.toNat_natCast, List.sum_cons,
          UInt16.ofNat_add, ← UInt16.add_assoc, add_ofNat_ahead]
      · have rejected := rejects_of_not_inWindow inWindow
        rw [rejected.state, inductionHypothesis,
          if_neg (Int.not_lt.mpr rejected.distance)]

/-- The first number of all is taken as the next one. -/
theorem takes_start (number : UInt16) : Takes start number 1 :=
  ⟨Nat.one_pos, rfl, rfl⟩

/-- The first number of all is taken as the next one. -/
theorem strides_start (first : UInt16) (later : List UInt16) :
    start.strides (first :: later) = 1 :: strides ⟨some first⟩ later :=
  rfl

/-- Once around half the circle is as far as a number stays behind. -/
theorem rejects_replayed
    {sequence : ReceiveSequence}
    {number : UInt16}
    {stride : Nat}
    (taken : sequence.Takes number stride)
    {later : List UInt16}
    (near : (strides ⟨some number⟩ later).sum ≤ 32768) :
    (sequence.acceptAll (number :: later)).Rejects number := by
  have behind := rejects_behind
    (number + UInt16.ofNat (strides ⟨some number⟩ later).sum) near
  rwa [UInt16.add_sub_cancel, ← acceptAll_some, ← taken.state] at behind

/--
What a receiver that was made anew does with a list of numbers, and
with the next one.
-/
structure Windowed (numbers : List UInt16) : Prop where
  first :
    numbers = [] → ∀ number, (start.acceptAll numbers).Takes number 1
  later : numbers ≠ [] → ∃ last, (start.acceptAll numbers).last = some last
  inside :
    ∀ last ∈ (start.acceptAll numbers).last, ∀ number,
      InWindow last number →
        (start.acceptAll numbers).Takes number (ahead last number)
  outside :
    ∀ last ∈ (start.acceptAll numbers).last, ∀ number,
      ¬InWindow last number → (start.acceptAll numbers).Rejects number
  behind :
    ∀ last ∈ (start.acceptAll numbers).last, ∀ back ≤ 32768,
      (start.acceptAll numbers).Rejects (last - UInt16.ofNat back)
  replayed :
    ∀ earlier number later, numbers = earlier ++ number :: later →
      (∃ stride, (start.acceptAll earlier).Takes number stride) →
        (strides ⟨some number⟩ later).sum ≤ 32768 →
          (start.acceptAll numbers).Rejects number
  summed :
    ∀ last ∈ (start.acceptAll numbers).last, ∀ first ∈ numbers.head?,
      UInt16.ofNat (start.strides numbers).tail.sum = last - first

theorem windowed (numbers : List UInt16) : Windowed numbers := by
  have known {last : UInt16}
      (reached : last ∈ (start.acceptAll numbers).last) :
      start.acceptAll numbers = ⟨some last⟩ :=
    congrArg ReceiveSequence.mk reached
  constructor
  case first =>
    rintro rfl number
    exact takes_start number
  case later =>
    intro given
    obtain ⟨first, later, rfl⟩ := List.exists_cons_of_ne_nil given
    exact ⟨_, congrArg ReceiveSequence.last (acceptAll_some first later)⟩
  case inside =>
    intro last reached number inWindow
    rw [known reached]
    exact takes_of_inWindow inWindow
  case outside =>
    intro last reached number outside
    rw [known reached]
    exact rejects_of_not_inWindow outside
  case behind =>
    intro last reached back near
    rw [known reached]
    exact rejects_behind last near
  case replayed =>
    rintro earlier number later rfl ⟨stride, taken⟩ near
    rw [acceptAll_append]
    exact rejects_replayed taken near
  case summed =>
    intro last reached first starts
    obtain ⟨later, rfl⟩ := List.head?_eq_some_iff.mp starts
    have come := (acceptAll_some first later).symm.trans (known reached)
    obtain rfl := Option.some.inj (ReceiveSequence.mk.inj come)
    rw [UInt16.add_comm, UInt16.add_sub_cancel]
    rfl

end StepSync.ReceiveSequence
