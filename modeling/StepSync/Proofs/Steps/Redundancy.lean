import StepSync.Proofs.Message.StepRun
import StepSync.Proofs.Steps.Window
import StepSync.Steps.Outbound

namespace StepSync

/-!
# Runs and their counts

A run takes steps off the front while they fit (`Redundancy.fitting`), and a run
that is handed over adds one to the count of each of its steps.  Counts that do not
increase along the queue stay so, and those that reach the wanted number of copies
are in front of all others.
-/

namespace Redundancy

/-- The octets that some steps take in a run. -/
def room (steps : List Step) : Nat :=
  (StepRun.payloadOctets (steps.map Step.payload)).length

@[simp] theorem room_nil : room [] = 0 :=
  rfl

@[simp] theorem room_cons (step : Step) (steps : List Step) :
    room (step :: steps) =
      payloadOverhead + step.payload.length + room steps :=
  StepRun.length_payloadOctets_cons _ _

theorem room_le_of_sublist
    {fewer steps : List Step}
    (part : fewer.Sublist steps) :
    room fewer ≤ room steps := by
  induction part with
  | slnil => exact Nat.le_refl _
  | cons step _ inductionHypothesis =>
      rw [room_cons]
      exact Nat.le_trans inductionHypothesis (Nat.le_add_left _ _)
  | cons_cons step _ inductionHypothesis =>
      rw [room_cons, room_cons]
      exact Nat.add_le_add_left inductionHypothesis _

/-- Later steps of a run take no more than the whole run. -/
theorem room_drop_le (steps : List Step) (passed number count : Nat) :
    room ((steps.drop (passed + number)).take (count - number)) ≤
      room ((steps.drop passed).take count) := by
  rw [← List.drop_drop, ← List.drop_take]
  exact room_le_of_sublist (List.drop_sublist _ _)

/-- The payloads that fit are those of the steps in front. -/
theorem fitting_eq_take (budget : Nat) (steps : List Step) :
    fitting budget steps =
      (steps.take (fitting budget steps).length).map Step.payload := by
  induction steps generalizing budget with
  | nil => rfl
  | cons step steps inductionHypothesis =>
      simp only [fitting]
      split
      · rw [List.length_cons, List.take_succ_cons, List.map_cons,
          ← inductionHypothesis]
      · rfl

theorem length_fitting_le (budget : Nat) (steps : List Step) :
    (fitting budget steps).length ≤ steps.length := by
  have lengths := congrArg List.length (fitting_eq_take budget steps)
  rw [List.length_map, List.length_take] at lengths
  omega

theorem room_fitting_le (budget : Nat) (steps : List Step) :
    room (steps.take (fitting budget steps).length) ≤ budget := by
  induction steps generalizing budget with
  | nil => exact Nat.zero_le _
  | cons step steps inductionHypothesis =>
      simp only [fitting]
      split
      case isTrue fits =>
        have rest :=
          inductionHypothesis (budget - (payloadOverhead + step.payload.length))
        rw [List.length_cons, List.take_succ_cons, room_cons]
        omega
      case isFalse => exact Nat.zero_le _

/-- As many steps as fit together are taken. -/
theorem le_length_fitting
    {budget count : Nat}
    {steps : List Step}
    (few : count ≤ steps.length)
    (fits : room (steps.take count) ≤ budget) :
    count ≤ (fitting budget steps).length := by
  induction steps generalizing budget count with
  | nil => exact few
  | cons step steps inductionHypothesis =>
      cases count with
      | zero => exact Nat.zero_le _
      | succ count =>
          rw [List.take_succ_cons, room_cons] at fits
          have first : payloadOverhead + step.payload.length ≤ budget := by
            omega
          have rest :
              count ≤ (fitting
                (budget - (payloadOverhead + step.payload.length))
                steps).length :=
            inductionHypothesis (Nat.le_of_succ_le_succ few) (by omega)
          rw [fitting, if_pos first, List.length_cons]
          exact Nat.succ_le_succ rest

/--
Each of the first steps was sent once more, and the others as often as before.
-/
theorem getD_countSent (length : Nat) (counts : List Nat) (index : Nat) :
    (countSent length counts).getD index 0 =
      counts.getD index 0 + if index < length then 1 else 0 := by
  induction length generalizing counts index with
  | zero => simp [countSent]
  | succ length inductionHypothesis =>
      cases counts with
      | nil =>
          cases index with
          | zero => simp [countSent]
          | succ index =>
              simpa [countSent] using inductionHypothesis [] index
      | cons count counts =>
          cases index with
          | zero => simp [countSent]
          | succ index =>
              simpa [countSent] using inductionHypothesis counts index

theorem length_countSent (length : Nat) (counts : List Nat) :
    (countSent length counts).length = max length counts.length := by
  induction length generalizing counts with
  | zero => simp [countSent]
  | succ length inductionHypothesis =>
      cases counts with
      | nil => simp [countSent, inductionHypothesis]
      | cons count counts =>
          simp [countSent, inductionHypothesis, Nat.add_max_add_right]

/--
A run that covers every counted step adds one to each count, and its further
steps are new.
-/
theorem countSent_eq
    {length : Nat}
    {counts : List Nat}
    (covers : counts.length ≤ length) :
    countSent length counts =
      counts.map (· + 1) ++ List.replicate (length - counts.length) 1 := by
  induction length generalizing counts with
  | zero =>
      have empty := List.eq_nil_of_length_eq_zero (Nat.le_zero.mp covers)
      simp [empty, countSent]
  | succ length inductionHypothesis =>
      cases counts with
      | nil =>
          have rest : countSent length [] = List.replicate length 1 :=
            inductionHypothesis (Nat.zero_le _)
          simp [countSent, rest, List.replicate_succ]
      | cons count counts =>
          simpa [countSent] using
            inductionHypothesis (Nat.le_of_succ_le_succ covers)

/-- The counts in front that reach a bound do so. -/
theorem le_getD_of_lt_takeWhile
    {bound index : Nat}
    {counts : List Nat}
    (front :
      index < (counts.takeWhile fun count => bound ≤ count).length) :
    bound ≤ counts.getD index 0 := by
  have among :
      (counts.takeWhile fun count => bound ≤ count) <+: counts :=
    List.takeWhile_prefix _
  have inRange := Nat.lt_of_lt_of_le front among.length_le
  have reaches := List.all_eq_true.mp List.all_takeWhile _
    (List.getElem_mem front)
  rw [among.getElem front, decide_eq_true_eq] at reaches
  rw [List.getD_eq_getElem?_getD, List.getElem?_eq_getElem inRange]
  exact reaches

/-- Behind the counts in front that reach a bound, none does. -/
theorem lt_of_mem_drop_takeWhile
    {bound count : Nat}
    {counts : List Nat}
    (sorted : counts.Pairwise (· ≥ ·))
    (member :
      count ∈
        counts.drop
          (counts.takeWhile fun count => bound ≤ count).length) :
    count < bound := by
  induction counts with
  | nil => simp at member
  | cons first counts inductionHypothesis =>
      obtain ⟨below, sortedRest⟩ := List.pairwise_cons.mp sorted
      by_cases reaches : bound ≤ first
      · simp only [List.takeWhile_cons, reaches, decide_true, ↓reduceIte,
          List.length_cons, List.drop_succ_cons] at member
        exact inductionHypothesis sortedRest member
      · simp only [List.takeWhile_cons, reaches, decide_false,
          Bool.false_eq_true, ↓reduceIte, List.length_nil, List.drop_zero,
          List.mem_cons] at member
        rcases member with rfl | member
        · omega
        · have := below count member
          omega

/--
Counts of steps that were sent, but not often enough yet; they do not increase.
-/
structure Underway (counts : List Nat) : Prop where
  sorted : counts.Pairwise (· ≥ ·)
  sent : ∀ count ∈ counts, 1 ≤ count
  unfinished : ∀ count ∈ counts, count < copies

namespace Underway

variable {length : Nat} {counts : List Nat}

theorem nil : Underway [] :=
  ⟨.nil, nofun, nofun⟩

theorem drop (underway : Underway counts) (number : Nat) :
    Underway (counts.drop number) where
  sorted := underway.sorted.sublist (List.drop_sublist _ _)
  sent := fun count member => underway.sent count (List.mem_of_mem_drop member)
  unfinished := fun count member =>
    underway.unfinished count (List.mem_of_mem_drop member)

/--
After one more sending of every counted step no count exceeds the wanted number.
-/
theorem mem_countSent
    (underway : Underway counts)
    (covers : counts.length ≤ length)
    {count : Nat}
    (member : count ∈ countSent length counts) :
    1 ≤ count ∧ count ≤ copies := by
  rw [countSent_eq covers, List.mem_append, List.mem_map] at member
  rcases member with ⟨earlier, counted, rfl⟩ | new
  · exact ⟨Nat.le_add_left 1 earlier, underway.unfinished earlier counted⟩
  · rw [(List.mem_replicate.mp new).2]
    decide

/--
After one more sending of every counted step the counts still do not increase.
-/
theorem sorted_countSent
    (underway : Underway counts)
    (covers : counts.length ≤ length) :
    (countSent length counts).Pairwise (· ≥ ·) := by
  rw [countSent_eq covers, List.pairwise_append, List.pairwise_map]
  refine ⟨?_, ?_, ?_⟩
  · exact underway.sorted.imp fun order => Nat.succ_le_succ order
  · exact List.pairwise_replicate.mpr (.inr (Nat.le_refl 1))
  · intro first member second last
    obtain ⟨earlier, _, rfl⟩ := List.mem_map.mp member
    rw [(List.mem_replicate.mp last).2]
    exact Nat.le_add_left 1 earlier

/-- The counts behind those that have reached the wanted number are underway. -/
theorem commit
    (underway : Underway counts)
    (covers : counts.length ≤ length) :
    Underway
      ((countSent length counts).drop
        ((countSent length counts).takeWhile fun count =>
          copies ≤ count).length) where
  sorted := (underway.sorted_countSent covers).sublist (List.drop_sublist _ _)
  sent := fun _ member =>
    (underway.mem_countSent covers (List.mem_of_mem_drop member)).1
  unfinished := fun _ member =>
    lt_of_mem_drop_takeWhile (underway.sorted_countSent covers) member

end Underway

end Redundancy

end StepSync
