import StepSync.Proofs.Session.Outgoing
import StepSync.Proofs.Session.Predicted
import StepSync.Proofs.Steps.Promptness

namespace StepSync

/-!
# Prompt sending of predicted steps

The settings bound a step, and the bound is chosen such that a datagram holds three
of the longest.  Every step that a session holds keeps the bound, so a run never
leaves a step behind while it is shorter than three.  At a good pace that is enough
for every step to be in the very next datagram and in the two behind it
(`Session.prompt_redundancy`).
-/

namespace Situation

/-- No predicted step is longer than the settings allow. -/
def WithinLimit (situation : Situation) : Prop :=
  ∀ step ∈ situation.outbound.predicted.steps,
    step.payload.length ≤ situation.settings.stepOctets

theorem steps_finishDownload (situation : Situation) :
    situation.finishDownload.outbound.predicted.steps.Sublist
      situation.outbound.predicted.steps := by
  unfold finishDownload
  split
  · exact .refl _
  · split
    · exact .refl _
    · exact List.nil_sublist _

/-- No delivery adds a predicted step. -/
theorem steps_accept (situation : Situation) (delivery : Delivery) :
    (situation.accept delivery).outbound.predicted.steps.Sublist
      situation.outbound.predicted.steps := by
  have acknowledges (report : StepReport) :
      (situation.acceptReport report).outbound.predicted.steps.Sublist
        situation.outbound.predicted.steps :=
    List.drop_sublist _ _
  cases delivery with
  | nothing => exact .refl _
  | outOfSlots => exact .refl _
  | report report => exact acknowledges report
  | steps report steps => exact acknowledges report
  | connection response =>
      simp only [accept, acceptConnection]
      split <;> exact .refl _
  | membership response =>
      simp only [accept, acceptMembership]
      split <;> exact .refl _
  | download response =>
      simp only [accept, acceptDownload]
      split
      · exact (steps_finishDownload _).trans (List.nil_sublist _)
      · exact .refl _
  | part channel chunk =>
      simp only [accept, acceptPart]
      split
      · exact .refl _
      · split
        · exact .refl _
        · split
          · exact .refl _
          · exact steps_finishDownload _

namespace WithinLimit

variable {situation after : Situation}

/-- Fewer steps keep the limit. -/
theorem of_sublist
    (within : situation.WithinLimit)
    (fewer : after.outbound.predicted.steps.Sublist
      situation.outbound.predicted.steps)
    (same : after.settings = situation.settings) :
    after.WithinLimit := by
  intro step member
  rw [same]
  exact within step (fewer.subset member)

/-- Whatever the application asks for, the steps keep the limit. -/
theorem ask (within : situation.WithinLimit) (request : Session.Request) :
    (situation.ask request).WithinLimit := by
  cases request with
  | requestConnect =>
      simp only [Situation.ask]
      split <;> exact within
  | beginJoin =>
      simp only [Situation.ask]
      split <;> exact within
  | assignJoinRequest request => exact within
  | disconnect => exact within
  | reset => exact within.of_sublist (List.nil_sublist _) rfl
  | readStep =>
      rw [Situation.ask, readStep_frame]
      exact within
  | predict payload =>
      simp only [Situation.ask, predict]
      split
      case isTrue => exact within
      case isFalse short =>
        split
        case h_1 => exact within
        case h_2 longer written =>
          rw [StepQueue.write_nextId] at written
          split at written
          · cases written
          · obtain rfl := Except.ok.inj written
            intro step member
            rcases List.mem_append.mp member with old | new
            · exact within step old
            · rw [List.mem_singleton.mp new]
              exact Nat.le_of_not_lt short

end WithinLimit

end Situation

namespace Session

variable {session : Session}

/--
The steps that want to be sent: those from the cursor on, once it has
skipped what is gone.
-/
def waitingSteps (outbound : Outbound) : List Step :=
  outbound.predicted.stepsFrom (nextRedundancy outbound).cursor

theorem stepsFrom_sublist (queue : StepQueue) (id : StepId) :
    (queue.stepsFrom id).Sublist queue.steps := by
  have later := List.drop_sublist (id - queue.readId).toNat queue.steps
  unfold StepQueue.stepsFrom
  generalize queue.steps.drop (id - queue.readId).toNat = found at later
  cases found with
  | nil => exact later
  | cons step rest =>
      dsimp only
      split
      · exact later
      · exact List.nil_sublist _

/--
A run has room for three copies of the longest step, with not an octet to spare.
-/
theorem copies_le_runBudget
    {step : Step}
    (short : step.payload.length ≤ Settings.longestStep.toNat) :
    Redundancy.copies *
        (Redundancy.payloadOverhead + step.payload.length) ≤
      runBudget := by
  have exact :
      runBudget =
        Redundancy.copies *
          (Redundancy.payloadOverhead + Settings.longestStep.toNat) := by
    decide
  rw [exact]
  exact Nat.mul_le_mul_left _ (Nat.add_le_add_left short _)

/--
The next run is as long as three steps that wait, if there are so many, and no
longer than sixteen.
-/
theorem length_nextRun
    {outbound : Outbound}
    (short : ∀ step ∈ outbound.predicted.steps,
      step.payload.length ≤ Settings.longestStep.toNat) :
    min Redundancy.copies (waitingSteps outbound).length ≤
        (nextRun outbound).length ∧
      (nextRun outbound).length ≤
        min Redundancy.longestRun (waitingSteps outbound).length := by
  have most := Redundancy.length_fitting_le runBudget
    ((waitingSteps outbound).take Redundancy.longestRun)
  have fits (step : Step)
      (member : step ∈
        (waitingSteps outbound).take Redundancy.longestRun) :=
    copies_le_runBudget
      (short step ((stepsFrom_sublist _ _).subset (List.mem_of_mem_take member)))
  have least := Redundancy.min_copies_le_length_fitting runBudget fits
  have order : Redundancy.copies ≤ Redundancy.longestRun := by decide
  rw [List.length_take] at most least
  change _ ≤ (nextRun outbound).length at least
  change (nextRun outbound).length ≤ _ at most
  omega

/-- Whatever happens, the predicted steps keep the limit. -/
theorem withinLimit_after
    {taken : List Octets}
    (numbers : Numbers taken session)
    (within : session.situation.WithinLimit)
    (event : Event) :
    (session.after event).situation.WithinLimit := by
  have settings : (session.after event).situation.settings =
      session.situation.settings :=
    settings_after session event
  cases event with
  | tickBegun now =>
      rw [after, situation_beginTick]
      exact within
  | received datagram =>
      refine within.of_sublist ?_ settings
      rw [after, situation_receive]
      exact Situation.steps_accept _ _
  | tickEnded now refusal =>
      have same := (endTick_cases numbers.composable numbers.coherent
        now refusal).1
      refine within.of_sublist ?_ settings
      change List.Sublist
        (session.endTick now refusal).outcome.session.outbound.predicted.steps _
      rw [same]
      exact .refl _
  | asked request =>
      rw [after, situation_ask]
      exact within.ask request

/--
The end of a tick sends a run: it offers a datagram of permitted length, which the
transport alone may refuse, with the first of the waiting steps in it, at least
three and at most sixteen if there are so many.
-/
structure SendsRun (session : Session) (refusal : Option String) (ended : Tick)
    (datagram : Octets) : Prop where
  offered : ended.offered = some datagram
  length : datagram.length ≤ mostDatagramOctets
  result : ended.outcome.result =
    match refusal with
    | none => .ok ()
    | some failure => .error (.transport failure)
  run : stepsOf datagram <+: waitingSteps session.outbound
  least : min Redundancy.copies (waitingSteps session.outbound).length ≤
    (stepsOf datagram).length
  most : (stepsOf datagram).length ≤
    min Redundancy.longestRun (waitingSteps session.outbound).length

/-- The end of a synced session's tick gives the link up, or sends a run. -/
theorem sendsRun_endTick
    {taken : List Octets}
    (numbers : Numbers taken session)
    (synced : session.stage = .synced)
    (ready : session.waitTicks = 0)
    (short : ∀ step ∈ session.outbound.predicted.steps,
      step.payload.length ≤ Settings.longestStep.toNat)
    (now : Nat)
    (refusal : Option String) :
    let ended := session.endTick now refusal
    ended.outcome.session.stage = .disconnected ∨
      ∃ datagram, SendsRun session refusal ended datagram := by
  dsimp only
  have atStage := numbers.coherent.atStage
  rw [show session.situation.stage = _ from synced] at atStage
  obtain ⟨connection, connected, named⟩ := atStage.1
  rcases endTick_of_synced connected named synced ready now refusal with
    ⟨_, disconnected⟩ | ⟨datagram, _, offered, steps, _⟩
  · exact .inl (congrArg Situation.stage disconnected)
  · obtain ⟨_, ⟨nothing, _⟩ | ⟨message, due, isDue, concluded⟩⟩ :=
      endTick_cases numbers.composable numbers.coherent now refusal
    · cases nothing.symm.trans offered
    · obtain ⟨least, most⟩ := length_nextRun short
      have run : stepsOf datagram =
          (waitingSteps session.outbound).take
            (nextRun session.outbound).length :=
        steps.trans (number_nextRun numbers.composable.countsUp)
      have length : (stepsOf datagram).length =
          (nextRun session.outbound).length := by
        rw [run, List.length_take]
        exact Nat.min_eq_left (Nat.le_trans most (Nat.min_le_right _ _))
      have same : session.datagramOf message = datagram :=
        Option.some.inj (isDue.symm.trans offered)
      refine .inr ⟨datagram, offered, ?_, ?_, ?_, ?_, ?_⟩
      · rw [← same]
        exact (numbers.wellFormed due).length
      · cases refusal with
        | none => exact concluded.1
        | some failure => exact concluded.1
      · rw [run]
        exact List.take_prefix _ _
      · rw [length]
        exact least
      · rw [length]
        exact most

/-- What somebody notes who looks on at the pace of predictions. -/
def noteSchedule (schedule : Schedule) (session : Session) (event : Event) :
    Schedule :=
  schedule.follow (noteExchange schedule.exchange session event)

/-- The schedule of predicted steps that a run of events shows. -/
def scheduleOf (settings : Settings) (events : List Event) : Schedule :=
  watch noteSchedule (.anchoredAt 0) (create settings).1 events

/-- What an event brings to the exchange of predicted steps. -/
theorem noteExchange_cases
    (exchange : Exchange)
    (session : Session)
    (event : Event) :
    noteExchange exchange session event = exchange ∨
      (∃ anchor, noteExchange exchange session event = .anchoredAt anchor) ∨
      (∃ bound,
        noteExchange exchange session event = exchange.discard bound) ∨
      (∃ steps, noteExchange exchange session event = exchange.send steps) ∨
      ∃ step, noteExchange exchange session event = exchange.write step := by
  unfold noteExchange
  split
  · dsimp only
    split
    · exact .inr (.inl ⟨_, rfl⟩)
    · split
      · exact .inr (.inr (.inl ⟨_, rfl⟩))
      · exact .inr (.inr (.inl ⟨_, rfl⟩))
      · exact .inl rfl
  · split
    · exact .inr (.inr (.inr (.inl ⟨_, rfl⟩)))
    · exact .inl rfl
  · split
    · exact .inr (.inr (.inr (.inr ⟨_, rfl⟩)))
    · exact .inl rfl
  · exact .inr (.inl ⟨_, rfl⟩)
  · exact .inl rfl

/--
A schedule with a place for each step, and with every step on time while the
session is synced.
-/
structure Prompts (schedule : Schedule) (session : Session) : Prop where
  exchanges : Exchanges schedule.exchange session.situation
  numbers : ∃ taken, Numbers taken session
  within : session.situation.WithinLimit
  placed : schedule.Placed
  onTime : session.stage = .synced → schedule.exchange.InRange →
    schedule.Paced → schedule.OnTime

/-- Only a datagram syncs a session. -/
theorem synced_of_unreceived
    {event : Event}
    (moved : Moved event session.situation (session.after event).situation)
    (unreceived : ∀ datagram, event ≠ .received datagram)
    (synced : (session.after event).stage = .synced) :
    session.stage = .synced := by
  have edge := moved.edge
  generalize before : session.situation.stage = stage at edge
  generalize left : (session.after event).situation.stage = entered at edge
  obtain rfl : entered = .synced := left.symm.trans synced
  cases edge with
  | stay => exact before
  | announceEmpty datagram => exact absurd rfl (unreceived datagram)
  | finish datagram => exact absurd rfl (unreceived datagram)

namespace Prompts

variable {schedule : Schedule}

/-- No step is longer than the longest that three copies have room for. -/
theorem short
    (prompts : Prompts schedule session)
    (step : Step)
    (held : step ∈ session.outbound.predicted.steps) :
    step.payload.length ≤ Settings.longestStep.toNat :=
  Nat.le_trans (prompts.within step held) prompts.exchanges.short

/-- Whatever happens, every step keeps its place. -/
theorem placed_after
    (placed : schedule.Placed)
    (session : Session)
    (event : Event) :
    (noteSchedule schedule session event).Placed := by
  unfold noteSchedule
  rcases noteExchange_cases schedule.exchange session event with
    same | ⟨anchor, anchored⟩ | ⟨bound, discards⟩ | ⟨steps, sends⟩ |
      ⟨step, writes⟩
  · rw [same, Schedule.follow_self placed]
    exact placed
  · rw [anchored, Schedule.follow_anchored]
    exact rfl
  · rw [discards, Schedule.follow_discard placed]
    exact placed
  · rw [sends, Schedule.follow_send placed]
    exact placed
  · rw [writes, Schedule.follow_write placed, Schedule.Placed,
      Exchange.length_write, List.length_append, placed]
    rfl

/-- Where nothing is noted, everything stays on time. -/
theorem onTime_same
    (prompts : Prompts schedule session)
    (synced : session.stage = .synced) :
    let next := schedule.follow schedule.exchange
    next.exchange.InRange → next.Paced → next.OnTime := by
  rw [Schedule.follow_self prompts.placed]
  exact prompts.onTime synced

/-- What is received makes no step late. -/
theorem onTime_received
    (prompts : Prompts schedule session)
    (datagram : Octets)
    (synced : (session.after (.received datagram)).stage = .synced) :
    let next := noteSchedule schedule session (.received datagram)
    next.exchange.InRange → next.Paced → next.OnTime := by
  unfold noteSchedule noteExchange
  dsimp only
  split
  case isTrue syncs =>
    rw [Schedule.follow_anchored]
    exact fun _ _ => Schedule.onTime_anchored _
  case isFalse stays =>
    have before : session.stage = .synced :=
      Decidable.of_not_not fun unsynced => stays ⟨unsynced, synced⟩
    have discards (bound : StepId) :
        let next := schedule.follow (schedule.exchange.discard bound)
        next.exchange.InRange → next.Paced → next.OnTime := by
      rw [Schedule.follow_discard prompts.placed]
      exact fun inRange paced =>
        (prompts.onTime before inRange paced).discard bound
    split
    · exact discards _
    · exact discards _
    · exact prompts.onTime_same before

/--
At a good pace a run that is handed over has every step that wants to be sent.
-/
theorem onTime_tickEnded
    (prompts : Prompts schedule session)
    (now : Nat)
    (refusal : Option String)
    (synced : (session.after (.tickEnded now refusal)).stage = .synced) :
    let next := noteSchedule schedule session (.tickEnded now refusal)
    next.exchange.InRange → next.Paced → next.OnTime := by
  have before : session.stage = .synced :=
    synced_of_unreceived (coherent_after prompts.exchanges.coherent _).2
      (fun _ same => by cases same) synced
  cases refusal with
  | some failure => exact prompts.onTime_same before
  | none =>
      obtain ⟨connection, connected, named⟩ :=
        prompts.exchanges.connected before
      have ready := prompts.exchanges.ready before
      rcases endTick_of_synced connected named before ready now none with
        ⟨_, disconnected⟩ | ⟨datagram, _, offered, steps, _⟩
      · have gone :
            (session.after (.tickEnded now none)).stage = .disconnected :=
          congrArg Situation.stage disconnected
        cases gone.symm.trans synced
      · have sends :
            noteExchange schedule.exchange session (.tickEnded now none) =
              schedule.exchange.send (stepsOf datagram) := by
          simp only [noteExchange, before, offered]
        rw [noteSchedule, sends, Schedule.follow_send prompts.placed]
        intro next inRange paced
        have onTime := prompts.onTime before inRange paced
        obtain ⟨gone, passed, aligned⟩ :=
          prompts.exchanges.aligned before inRange
        have skipped := aligned.skip inRange
        have few := onTime.few prompts.placed paced skipped inRange
          (Nat.le_max_right _ _)
        have waiting : waitingSteps session.outbound =
            schedule.exchange.written.drop (max passed gone) :=
          skipped.stepsFrom_cursor inRange (Nat.le_max_right _ _)
        obtain ⟨_, run⟩ := Exchanges.nextRun_eq aligned inRange
        have long := (length_nextRun prompts.short).1
        rw [waiting, List.length_drop, Nat.min_eq_right few] at long
        have whole : stepsOf datagram =
            schedule.exchange.written.drop (max passed gone) := by
          rw [steps]
          refine run.trans (List.take_of_length_le ?_)
          rw [List.length_drop]
          exact long
        have sent := onTime.send prompts.placed skipped inRange
        rw [← whole] at sent
        exact sent

/-- A request makes no step late. -/
theorem onTime_asked
    (prompts : Prompts schedule session)
    (request : Request)
    (synced : (session.after (.asked request)).stage = .synced) :
    let next := noteSchedule schedule session (.asked request)
    next.exchange.InRange → next.Paced → next.OnTime := by
  have before : session.stage = .synced :=
    synced_of_unreceived (coherent_after prompts.exchanges.coherent _).2
      (fun _ same => by cases same) synced
  cases request with
  | predict payload =>
      unfold noteSchedule noteExchange
      dsimp only
      split
      case h_2 => exact prompts.onTime_same before
      case h_1 id written =>
        rw [Schedule.follow_write prompts.placed]
        intro inRange paced
        have inRangeBefore := Exchange.InRange.of_write inRange
        obtain ⟨gone, passed, aligned⟩ :=
          prompts.exchanges.aligned before inRangeBefore
        have pacedBefore : schedule.Paced :=
          (List.pairwise_append.mp paced).1
        exact (prompts.onTime before inRangeBefore pacedBefore).write
          prompts.placed aligned inRange
  | reset =>
      unfold noteSchedule noteExchange
      rw [Schedule.follow_anchored]
      exact fun _ _ => Schedule.onTime_anchored _
  | requestConnect => exact prompts.onTime_same before
  | beginJoin => exact prompts.onTime_same before
  | assignJoinRequest joinRequest => exact prompts.onTime_same before
  | readStep => exact prompts.onTime_same before
  | disconnect => exact prompts.onTime_same before

theorem after
    (prompts : Prompts schedule session)
    (event : Event) :
    Prompts (noteSchedule schedule session event) (session.after event) where
  exchanges := prompts.exchanges.after event
  numbers := by
    obtain ⟨taken, numbers⟩ := prompts.numbers
    exact ⟨_, numbers.after event⟩
  within := by
    obtain ⟨taken, numbers⟩ := prompts.numbers
    exact withinLimit_after numbers prompts.within event
  placed := placed_after prompts.placed session event
  onTime := fun synced => by
    cases event with
    | tickBegun now =>
        have same := congrArg Situation.stage (situation_beginTick now session)
        exact prompts.onTime_same (same.symm.trans synced)
    | received datagram => exact prompts.onTime_received datagram synced
    | tickEnded now refusal =>
        exact prompts.onTime_tickEnded now refusal synced
    | asked request => exact prompts.onTime_asked request synced

end Prompts

theorem prompts_afterAll (settings : Settings) (events : List Event) :
    Prompts (scheduleOf settings events)
      ((create settings).1.afterAll events) := by
  refine keeps_watch Prompts (fun _ _ event prompts => prompts.after event)
    ?_ events
  have numbers := numbers_afterAll settings []
  refine ⟨exchanges_afterAll settings [], ⟨_, numbers⟩, ?_, rfl, ?_⟩
  · rw [session_create]
    exact fun step member => by cases member
  · exact fun _ _ _ => Schedule.onTime_anchored _

/--
The limit of a step keeps three copies of it in datagrams, and at a good pace in
the next three.
-/
structure Prompt (schedule : Schedule) (session : Session) : Prop where
  short : ∀ step ∈ session.outbound.predicted.steps,
    step.payload.length ≤ Settings.longestStep.toNat
  sends : ∀ (now : Nat) (refusal : Option String),
    let ended := session.endTick now refusal
    ended.outcome.session.stage = .disconnected ∨
      ∃ datagram, SendsRun session refusal ended datagram
  placed : schedule.Placed
  carried : schedule.exchange.InRange → schedule.Paced →
    ∀ (index place : Nat) (step : Step), schedule.places[index]? = some place →
      schedule.exchange.written[index]? = some step →
        step.id ∉ schedule.exchange.discarded →
          ∀ later < Redundancy.copies, ∀ steps : List Step,
            schedule.exchange.sent[place + later]? = some steps →
              step ∈ steps

/--
After any events, the end of a synced session's tick sends three of the waiting
steps at least.  Where no two steps were predicted without a datagram between
them, each step that is not discarded is in the first datagram behind it, and in
the two after that, as far as they were handed over yet.
-/
theorem prompt_redundancy
    (settings : Settings)
    (events : List Event)
    (synced : ((create settings).1.afterAll events).stage = .synced) :
    Prompt (scheduleOf settings events)
      ((create settings).1.afterAll events) := by
  have prompts := prompts_afterAll settings events
  obtain ⟨taken, numbers⟩ := prompts.numbers
  exact
    { short := prompts.short
      sends := sendsRun_endTick numbers synced
        (prompts.exchanges.ready synced) prompts.short
      placed := prompts.placed
      carried := fun inRange paced =>
        (prompts.onTime synced inRange paced).carried }

/-- Two steps are predicted, each followed by a tick, and a third tick follows. -/
def oneByOne : List Event :=
  eventsOf
    (syncing ++
      [.tick 20 ⟨[], none⟩,
        .ask (.predict [19]),
        .tick 40 ⟨[], none⟩,
        .ask (.predict [23]),
        .tick 60 ⟨[], none⟩,
        .tick 80 ⟨[], none⟩])

theorem prompt_redundancy_oneByOne :
    (scheduleOf Settings.standard oneByOne).exchange.InRange ∧
      (scheduleOf Settings.standard oneByOne).Paced ∧
      (scheduleOf Settings.standard oneByOne).places = [1, 2] ∧
      (scheduleOf Settings.standard oneByOne).exchange.sent =
        [[], [⟨5, [19]⟩], [⟨5, [19]⟩, ⟨6, [23]⟩], [⟨5, [19]⟩, ⟨6, [23]⟩]] ∧
      Prompt (scheduleOf Settings.standard oneByOne)
        ((create Settings.standard).1.afterAll oneByOne) := by
  have synced :
      ((create Settings.standard).1.afterAll oneByOne).stage = .synced := by
    decide +kernel
  refine ⟨?_, ?_, ?_, ?_, prompt_redundancy _ _ synced⟩
  · unfold Exchange.InRange
    decide +kernel
  · decide +kernel
  · decide +kernel
  · decide +kernel

/-- One step is predicted, and the server says that it has it before it is sent. -/
def acknowledgedUnsent : List Event :=
  eventsOf
    (syncing ++
      [.tick 20 ⟨[], none⟩,
        .ask (.predict [19]),
        .tick 40
          ⟨[.datagram
              (numberedMessage 3
                (StepReport.fields ⟨1, 0, 20, 5⟩ ++ StepRun.fields 5 []))],
            none⟩])

/--
So many steps are predicted, each before a tick in which the transport fails to
receive; the last tick goes well.
-/
def unreceivedTicks (count : Nat) : List Event :=
  eventsOf
    (syncing ++
      (List.range count).flatMap
        (fun _ => [.ask (.predict []), .tick 20 ⟨[.failure "lost"], none⟩]) ++
      [.tick 40 ⟨[], none⟩])

/-- So many steps are predicted before the first tick. -/
def beforeFirstTick (count : Nat) : List Event :=
  eventsOf
    (syncing ++
      (List.range count).map (fun _ => .ask (.predict [])) ++
      [.tick 20 ⟨[], none⟩])

/--
One step between two ticks does not put each into the very next datagram: it may be
acknowledged before that, and without a datagram steps pile up from tick to tick, or
before the first.
-/
theorem not_always_in_next_datagram :
    scheduleOf Settings.standard acknowledgedUnsent =
        ⟨⟨5, [⟨5, [19]⟩], [5], [[], []]⟩, [1]⟩ ∧
      ((create Settings.standard).1.afterAll acknowledgedUnsent).stage =
        .synced ∧
      (exchangeOf Settings.standard (unreceivedTicks 17)).written.length =
        17 ∧
      (exchangeOf Settings.standard (unreceivedTicks 17)).sent =
        [(exchangeOf Settings.standard
          (unreceivedTicks 17)).written.take 16] ∧
      (exchangeOf Settings.standard (beforeFirstTick 17)).written.length =
        17 ∧
      (exchangeOf Settings.standard (beforeFirstTick 17)).sent =
        [(exchangeOf Settings.standard
          (beforeFirstTick 17)).written.take 16] := by
  refine ⟨?_, ?_, ?_, ?_, ?_, ?_⟩
  · decide +kernel
  · decide +kernel
  · decide +kernel
  · decide +kernel
  · decide +kernel
  · decide +kernel

end Session

end StepSync
