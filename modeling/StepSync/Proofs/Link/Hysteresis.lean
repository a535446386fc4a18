import Mathlib.Data.List.Induction
import Mathlib.Data.List.Infix
import StepSync.Proofs.Link.Health

namespace StepSync.Health

/-!
# Hysteresis of the verdict

A link keeps two counters, a count of bad ticks and a verdict.  All four can be
told from its history, which is the list of what the link was told: the counters
are the ticks since something was last heard (`ticksSince`), the count of bad
ticks is a walk that goes up on a degraded tick and down on any other (`walk`),
and the verdict is the reason of the first tick at which the walk was above 60
(`sentence`).  `recorded_afterAll` says that they always are; losses and latencies
are in the history too and have no part in it (`ledger_afterAll_filter`).
-/

/-- What a link is told. -/
inductive Event where
  | tick
  | datagram
  | steps (count : Nat)
  | dropped (count : Nat)
  | latency (milliseconds : Nat)
  deriving Repr, DecidableEq

/-- The link once it was told something. -/
def after (health : Health) : Event → Health
  | .tick => health.tick.1
  | .datagram => health.receivedDatagram
  | .steps count => health.receivedSteps count
  | .dropped count => (health.dropped count).1
  | .latency milliseconds => health.measuredLatency milliseconds

/-- The link with a history, from nothing known on. -/
def afterAll (history : List Event) : Health :=
  history.foldl after unknown

/-! ## What a history says -/

namespace Event

/-- A usable datagram came. -/
def isDatagram : Event → Bool
  | datagram => true
  | _ => false

/-- New authoritative steps came. -/
def bringsSteps : Event → Bool
  | steps count => 0 < count
  | _ => false

/-- Losses and latencies only weigh in the rating. -/
def isJudged : Event → Bool
  | dropped _ => false
  | latency _ => false
  | _ => true

end Event

/-- The ticks since something was last heard, or all ticks if it never was. -/
def ticksSince (heard : Event → Bool) (history : List Event) : Nat :=
  (history.reverse.takeWhile fun event => !heard event).count .tick

/-- Datagrams or steps have been missing for too long. -/
def Degraded (history : List Event) : Prop :=
  40 ≤ ticksSince Event.isDatagram history ∨
    15 < ticksSince Event.bringsSteps history

instance (history : List Event) : Decidable (Degraded history) := by
  unfold Degraded
  infer_instance

/-- The histories at the ticks of a history, from the first tick to the last. -/
def ticks (history : List Event) : List (List Event) :=
  history.inits.filter fun past => past.getLast? = some .tick

/-- One up on each degraded tick, and one down on each other, but not below zero. -/
def walk (history : List Event) : Nat :=
  (ticks history).foldl
    (fun count past => if Degraded past then count + 1 else count - 1) 0

/-- What is missing; datagrams weigh more. -/
def reason (history : List Event) : Verdict :=
  if 40 ≤ ticksSince Event.isDatagram history then .noDatagrams else .noSteps

/--
The reason of the first tick at which the walk was above 60, if there was one.
-/
def sentence (history : List Event) : Verdict :=
  ((ticks history).find? fun past => 60 < walk past).elim .keep reason

/-- The last event is heard, or is one tick more. -/
theorem ticksSince_concat
    (heard : Event → Bool)
    (history : List Event)
    (event : Event) :
    ticksSince heard (history ++ [event]) =
      if heard event then 0
      else ticksSince heard history + if event = .tick then 1 else 0 := by
  unfold ticksSince
  rw [List.reverse_append, List.reverse_singleton, List.singleton_append,
    List.takeWhile_cons]
  by_cases now : heard event
  · simp [now]
  · simp [now, List.count_cons]

/-- A tick more is one history more in which something ticks. -/
theorem ticks_concat (history : List Event) (event : Event) :
    ticks (history ++ [event]) =
      ticks history ++
        if event = .tick then [history ++ [event]] else [] := by
  unfold ticks
  rw [List.inits_append, List.filter_append]
  congr 1
  by_cases isTick : event = .tick <;> simp [isTick]

/-- A tick takes the walk up if it is degraded, and down if not. -/
theorem walk_concat_tick (history : List Event) :
    walk (history ++ [.tick]) =
      if Degraded (history ++ [.tick]) then walk history + 1
      else walk history - 1 := by
  unfold walk
  rw [ticks_concat, if_pos rfl, List.foldl_append]
  rfl

/-- There is no reason to keep a link at a degraded tick. -/
theorem reason_ne_keep (history : List Event) : reason history ≠ .keep := by
  unfold reason
  split <;> nofun

/-- Nothing is decided as long as the walk was never above 60. -/
theorem sentence_eq_keep (history : List Event) :
    sentence history = .keep ↔
      (ticks history).find? (fun past => 60 < walk past) = none := by
  unfold sentence
  cases (ticks history).find? fun past => 60 < walk past with
  | none => simp
  | some past => simp [reason_ne_keep]

/-- A sentence stays, and the first tick above 60 decides. -/
theorem sentence_concat_tick (history : List Event) :
    sentence (history ++ [.tick]) =
      if 60 < walk (history ++ [.tick]) ∧ sentence history = .keep then
        reason (history ++ [.tick])
      else sentence history := by
  have decided := sentence_eq_keep history
  rw [sentence, ticks_concat, if_pos rfl, List.find?_append,
    List.find?_singleton]
  unfold sentence at decided ⊢
  cases earlier : (ticks history).find? fun past => 60 < walk past with
  | some past => simp [reason_ne_keep]
  | none =>
      by_cases above : 60 < walk (history ++ [.tick]) <;> simp [above]

/-- Between ticks neither walk nor sentence changes. -/
theorem walk_sentence_concat
    {event : Event}
    (between : event ≠ .tick)
    (history : List Event) :
    walk (history ++ [event]) = walk history ∧
      sentence (history ++ [event]) = sentence history := by
  have same : ticks (history ++ [event]) = ticks history := by
    rw [ticks_concat, if_neg between, List.append_nil]
  exact ⟨by rw [walk, same]; rfl, by rw [sentence, same]; rfl⟩

/-! ## What the link records -/

/-- The link has recorded its history. -/
structure Recorded (history : List Event) (health : Health) : Prop where
  datagrams :
    health.ticksWithoutDatagrams = ticksSince Event.isDatagram history
  steps : health.ticksWithoutSteps = ticksSince Event.bringsSteps history
  badTicks : health.badTicks = walk history
  verdict : health.verdict = sentence history
  tolerated : sentence history = .keep → walk history ≤ 60

namespace Recorded

variable {history : List Event} {health : Health}

theorem unknown : Recorded [] Health.unknown :=
  ⟨rfl, rfl, rfl, rfl, fun _ => Nat.zero_le _⟩

/-- What changes no more than a counter between ticks. -/
theorem between
    (recorded : Recorded history health)
    (event : Event)
    (isBetween : event ≠ .tick)
    {told : Health}
    (datagrams :
      told.ticksWithoutDatagrams =
        if event.isDatagram then 0 else health.ticksWithoutDatagrams)
    (steps :
      told.ticksWithoutSteps =
        if event.bringsSteps then 0 else health.ticksWithoutSteps)
    (badTicks : told.badTicks = health.badTicks)
    (verdict : told.verdict = health.verdict) :
    Recorded (history ++ [event]) told := by
  obtain ⟨sameWalk, sameSentence⟩ := walk_sentence_concat isBetween history
  constructor
  · rw [ticksSince_concat, if_neg isBetween, datagrams, recorded.datagrams]
    rfl
  · rw [ticksSince_concat, if_neg isBetween, steps, recorded.steps]
    rfl
  · rw [badTicks, sameWalk, recorded.badTicks]
  · rw [verdict, sameSentence, recorded.verdict]
  · rw [sameWalk, sameSentence]
    exact recorded.tolerated

/-- What a tick finds missing is what its history says. -/
theorem currentVerdict_age
    (recorded : Recorded history health) :
    health.age.currentVerdict =
      if Degraded (history ++ [.tick]) then reason (history ++ [.tick])
      else .keep := by
  have datagrams := ticksSince_concat Event.isDatagram history .tick
  have steps := ticksSince_concat Event.bringsSteps history .tick
  rw [← recorded.datagrams] at datagrams
  rw [← recorded.steps] at steps
  simp only [Event.isDatagram, Event.bringsSteps, Bool.false_eq_true,
    ↓reduceIte] at datagrams steps
  simp only [Degraded, reason, datagrams, steps]
  unfold currentVerdict age mostTicksWithoutDatagrams mostTicksWithoutSteps
  grind

/-- A tick is recorded as what it adds to the history. -/
theorem tick (recorded : Recorded history health) :
    Recorded (history ++ [.tick]) health.tick.1 := by
  have found := recorded.currentVerdict_age
  have datagrams :
      ticksSince Event.isDatagram (history ++ [.tick]) =
        health.ticksWithoutDatagrams + 1 := by
    rw [ticksSince_concat, recorded.datagrams]
    rfl
  have steps :
      ticksSince Event.bringsSteps (history ++ [.tick]) =
        health.ticksWithoutSteps + 1 := by
    rw [ticksSince_concat, recorded.steps]
    rfl
  have walks := walk_concat_tick history
  have decides := sentence_concat_tick history
  have few := recorded.tolerated
  by_cases degraded : Degraded (history ++ [.tick])
  · rw [if_pos degraded] at found walks
    have bad : health.age.currentVerdict ≠ .keep :=
      found ▸ reason_ne_keep _
    obtain ⟨agedDatagrams, agedSteps, more, verdict⟩ := tick_of_bad bad
    rw [found, recorded.badTicks, recorded.verdict] at verdict
    rw [walks] at decides
    refine ⟨agedDatagrams.trans datagrams.symm, agedSteps.trans steps.symm,
      by rw [more, walks, recorded.badTicks], verdict.trans decides.symm, ?_⟩
    intro kept
    rw [kept] at decides
    split at decides
    · exact absurd decides.symm (reason_ne_keep _)
    · next undecided =>
        rw [walks]
        exact Nat.le_of_not_lt fun above => undecided ⟨above, decides.symm⟩
  · rw [if_neg degraded] at found walks
    obtain ⟨agedDatagrams, agedSteps, fewer, verdict⟩ := tick_of_good found
    -- A walk that goes down is not above 60 for the first time.
    have stays : sentence (history ++ [.tick]) = sentence history := by
      rw [decides, if_neg]
      rintro ⟨above, kept⟩
      have tolerated := few kept
      omega
    refine ⟨agedDatagrams.trans datagrams.symm, agedSteps.trans steps.symm,
      by rw [fewer, walks, recorded.badTicks],
      by rw [verdict, stays, recorded.verdict], ?_⟩
    rw [stays, walks]
    exact fun kept => Nat.le_trans (Nat.sub_le _ _) (few kept)

/-- Every event is recorded. -/
theorem after (recorded : Recorded history health) (event : Event) :
    Recorded (history ++ [event]) (health.after event) := by
  cases event with
  | tick => exact recorded.tick
  | datagram => exact recorded.between .datagram nofun rfl rfl rfl rfl
  | latency milliseconds =>
      exact recorded.between (.latency milliseconds) nofun rfl rfl rfl rfl
  | steps count =>
      refine recorded.between (.steps count) nofun ?_ ?_ ?_ ?_
      all_goals
        simp only [Health.after, receivedSteps, Event.bringsSteps,
          Event.isDatagram]
        split <;> simp_all
  | dropped count =>
      refine recorded.between (.dropped count) nofun ?_ ?_ ?_ ?_
      all_goals
        simp only [Health.after, Health.dropped]
        split <;> rfl

end Recorded

theorem recorded_afterAll (history : List Event) :
    Recorded history (afterAll history) := by
  induction history using List.reverseRecOn with
  | nil => exact .unknown
  | append_singleton history event inductionHypothesis =>
      rw [afterAll, List.foldl_concat]
      exact inductionHypothesis.after event

/-! ## What has no part in it -/

/-- What the verdict is made from. -/
structure Ledger where
  ticksWithoutDatagrams : Nat
  ticksWithoutSteps : Nat
  badTicks : Nat
  verdict : Verdict
  deriving Repr, DecidableEq

/-- What a link has recorded that the verdict is made from. -/
def ledger (health : Health) : Ledger :=
  ⟨health.ticksWithoutDatagrams, health.ticksWithoutSteps, health.badTicks,
    health.verdict⟩

/-- A tick goes on from the ledger, whatever the rating is. -/
theorem ledger_tick_congr
    {first second : Health}
    (same : first.ledger = second.ledger) :
    first.tick.1.ledger = second.tick.1.ledger := by
  simp only [ledger, Ledger.mk.injEq] at same ⊢
  obtain ⟨datagrams, steps, badTicks, verdict⟩ := same
  have alike : first.age.currentVerdict = second.age.currentVerdict := by
    unfold currentVerdict age
    dsimp only
    rw [datagrams, steps]
  by_cases good : first.age.currentVerdict = .keep
  · have one := tick_of_good good
    have other := tick_of_good (alike ▸ good)
    simp only [one, other, datagrams, steps, badTicks, verdict, and_self]
  · have one := tick_of_bad good
    have other := tick_of_bad (alike ▸ good)
    simp only [one, other, datagrams, steps, badTicks, verdict, alike,
      and_self]

/-- What an event does to the ledger depends on the ledger alone. -/
theorem ledger_after_congr
    {first second : Health}
    (same : first.ledger = second.ledger)
    (event : Event) :
    (first.after event).ledger = (second.after event).ledger := by
  cases event with
  | tick => exact ledger_tick_congr same
  | latency milliseconds => exact same
  | datagram =>
      exact congrArg (fun ledger => { ledger with ticksWithoutDatagrams := 0 })
        same
  | dropped count =>
      simp only [after, dropped]
      split <;> exact same
  | steps count =>
      simp only [after, receivedSteps]
      split
      · exact congrArg (fun ledger => { ledger with ticksWithoutSteps := 0 })
          same
      · exact same

/-- Losses and latencies are not in the ledger. -/
theorem ledger_after_of_unjudged
    {event : Event}
    (unjudged : ¬event.isJudged)
    (health : Health) :
    (health.after event).ledger = health.ledger := by
  cases event with
  | tick => exact absurd rfl unjudged
  | datagram => exact absurd rfl unjudged
  | steps count => exact absurd rfl unjudged
  | latency milliseconds => rfl
  | dropped count =>
      simp only [after, dropped]
      split <;> rfl

/-- Events that are not judged leave no trace in the ledger. -/
theorem ledger_foldl_filter
    {first second : Health}
    (same : first.ledger = second.ledger)
    (events : List Event) :
    (events.foldl after first).ledger =
      ((events.filter Event.isJudged).foldl after second).ledger := by
  induction events generalizing first second with
  | nil => exact same
  | cons event events inductionHypothesis =>
      rw [List.foldl_cons]
      by_cases judged : event.isJudged
      · rw [List.filter_cons_of_pos judged, List.foldl_cons]
        exact inductionHypothesis (ledger_after_congr same event)
      · rw [List.filter_cons_of_neg judged]
        exact inductionHypothesis
          ((ledger_after_of_unjudged judged first).trans same)

/-- Without losses and latencies a history leads to the same ledger. -/
theorem ledger_afterAll_filter (history : List Event) :
    (afterAll history).ledger =
      (afterAll (history.filter Event.isJudged)).ledger :=
  ledger_foldl_filter rfl history

/-- A sentence is not changed by what comes after it. -/
theorem sentence_append
    {history : List Event}
    (decided : sentence history ≠ .keep)
    (later : List Event) :
    sentence (history ++ later) = sentence history := by
  have goesOn :
      ∃ further, ticks (history ++ later) = ticks history ++ further :=
    ⟨_, by rw [ticks, List.inits_append, List.filter_append]; rfl⟩
  obtain ⟨further, whole⟩ := goesOn
  rw [ne_eq, sentence_eq_keep] at decided
  unfold sentence
  rw [whole, List.find?_append]
  cases first : (ticks history).find? fun past => 60 < walk past with
  | none => exact absurd first decided
  | some past => rfl

/-- The count of bad ticks and the verdict, told from the history. -/
structure Hysteresis (history : List Event) : Prop where
  counted : (afterAll history).badTicks = walk history
  givenUp :
    (afterAll history).isGivenUp = true ↔
      ∃ past ∈ ticks history, 60 < walk past
  decided : (afterAll history).verdict = sentence history
  lasting :
    ∀ later, (afterAll history).isGivenUp = true →
      (afterAll (history ++ later)).verdict = (afterAll history).verdict
  unaffected :
    ∀ other,
      other.filter Event.isJudged = history.filter Event.isJudged →
        (afterAll other).badTicks = (afterAll history).badTicks ∧
          (afterAll other).verdict = (afterAll history).verdict

/--
Whatever a link was told, its bad ticks are a walk, and the first time this is
above 60 decides for good.
-/
theorem hysteresis (history : List Event) : Hysteresis history := by
  have recorded := recorded_afterAll history
  have givenUp :
      (afterAll history).isGivenUp = true ↔ sentence history ≠ .keep := by
    rw [isGivenUp, recorded.verdict, bne_iff_ne]
  constructor
  case counted => exact recorded.badTicks
  case decided => exact recorded.verdict
  case givenUp =>
    rw [givenUp, ne_eq, sentence_eq_keep, List.find?_eq_none]
    simp
  case lasting =>
    intro later decided
    rw [(recorded_afterAll (history ++ later)).verdict, recorded.verdict]
    exact sentence_append (givenUp.mp decided) later
  case unaffected =>
    intro other alike
    have same : (afterAll other).ledger = (afterAll history).ledger := by
      rw [ledger_afterAll_filter other, alike, ← ledger_afterAll_filter]
    exact ⟨congrArg Ledger.badTicks same, congrArg Ledger.verdict same⟩

/-- In silence the tick after fifteen good and sixty bad ones is too much. -/
example :
    walk (List.replicate 75 .tick) = 60 ∧
      sentence (List.replicate 75 .tick) = .keep ∧
      sentence (List.replicate 76 .tick) = .noDatagrams := by
  decide +kernel

end StepSync.Health
