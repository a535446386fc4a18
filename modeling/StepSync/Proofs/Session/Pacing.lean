import StepSync.Proofs.Session.Beat

namespace StepSync.Session

/-!
# The pace of a session

The beats of a run are its ticks, without those whose receiving fails (`beatsOf`).
Unless the session is reset, the phase of a beat is never earlier than that of a
beat before it.  So a request that was offered is offered again once the countdown
is over, four beats later, and not before (`countdown`).
-/

/-- The beat that a call is, if it is a tick whose receiving does not fail. -/
def Call.beat? (session : Session) : Call → Option Beat
  | .tick now wire =>
      if received : failure? wire.arrivals = none then
        some ⟨session, now, wire, received⟩
      else none
  | .receive _ | .ask _ => none

/-- The beats of a run. -/
def beatsOf (session : Session) : List Call → List Beat
  | [] => []
  | call :: calls =>
      (call.beat? session).toList ++ beatsOf (session.call call).2 calls

/--
A call is a beat of the session that it finds, and leaves what the beat leaves.
-/
theorem eq_of_beat?
    {session : Session}
    {call : Call}
    {beat : Beat}
    (found : call.beat? session = some beat) :
    beat.session = session ∧ (session.call call).2 = beat.left := by
  cases call with
  | receive datagram => cases found
  | ask request => cases found
  | tick now wire =>
      by_cases received : failure? wire.arrivals = none
      · rw [Call.beat?, dif_pos received] at found
        obtain rfl := Option.some.inj found
        exact ⟨rfl, rfl⟩
      · rw [Call.beat?, dif_neg received] at found
        cases found

/-- A call that is no beat does not send, and a session goes on. -/
theorem Paced.call
    {session : Session}
    (paced : Paced session)
    {call : Call}
    (noBeat : call.beat? session = none)
    (noReset : call ≠ .ask .reset) :
    Paced (session.call call).2 ∧
      session.situation.Proceeds (session.call call).2.situation := by
  rw [session_call]
  refine paced.afterAll ?_
  cases call with
  | receive datagram =>
      exact List.forall_mem_singleton.mpr trivial
  | ask request =>
      refine List.forall_mem_singleton.mpr ?_
      cases request with
      | reset => exact absurd rfl noReset
      | requestConnect | beginJoin | assignJoinRequest | predict | readStep
      | disconnect => trivial
  | tick now wire =>
      cases failure : failure? wire.arrivals with
      | none =>
          rw [Call.beat?, dif_pos failure] at noBeat
          cases noBeat
      | some message =>
          rw [Call.events, Wire.events, failure, List.append_nil]
          exact passive_receiving now wire.arrivals

/-- A run of a session that is paced, without a reset. -/
structure PacedRun (session : Session) (calls : List Call) : Prop where
  paced : Paced session
  noReset : .ask .reset ∉ calls

namespace PacedRun

variable {session : Session} {call : Call} {calls : List Call} {beat : Beat}

/-- A run that begins with a beat. -/
theorem beatsOf_beat
    (run : PacedRun session (call :: calls))
    (found : call.beat? session = some beat) :
    beatsOf session (call :: calls) = beat :: beatsOf beat.left calls ∧
      Paced beat.session ∧
      session.situation.Proceeds beat.sending.situation ∧
      PacedRun beat.left calls := by
  obtain ⟨same, leaves⟩ := eq_of_beat? found
  have paced : Paced beat.session := same ▸ run.paced
  refine ⟨?_, paced, ?_, beat.paced_left paced, ?_⟩
  · rw [beatsOf, found, leaves]
    rfl
  · have proceeds := beat.proceeds paced
    rw [same] at proceeds
    exact proceeds
  · exact fun member => run.noReset (List.mem_cons_of_mem _ member)

/-- A run that begins with something else. -/
theorem beatsOf_noBeat
    (run : PacedRun session (call :: calls))
    (noBeat : call.beat? session = none) :
    beatsOf session (call :: calls) = beatsOf (session.call call).2 calls ∧
      session.situation.Proceeds (session.call call).2.situation ∧
      PacedRun (session.call call).2 calls := by
  have noReset : call ≠ .ask .reset := by
    rintro rfl
    exact run.noReset List.mem_cons_self
  obtain ⟨paced, proceeds⟩ := run.paced.call noBeat noReset
  refine ⟨?_, proceeds, paced, ?_⟩
  · rw [beatsOf, noBeat]
    rfl
  · exact fun member => run.noReset (List.mem_cons_of_mem _ member)

/-- No beat of a run is in an earlier phase than its beginning. -/
theorem rank_le
    (run : PacedRun session calls)
    (member : beat ∈ beatsOf session calls) :
    session.situation.phase.rank ≤ beat.sending.situation.phase.rank := by
  induction calls generalizing session with
  | nil => cases member
  | cons call calls inductionHypothesis =>
      cases found : call.beat? session with
      | none =>
          obtain ⟨same, proceeds, rest⟩ := run.beatsOf_noBeat found
          rw [same] at member
          exact Nat.le_trans proceeds.rank (inductionHypothesis rest member)
      | some first =>
          obtain ⟨same, paced, proceeds, rest⟩ := run.beatsOf_beat found
          rw [same] at member
          rcases List.mem_cons.mp member with rfl | member
          · exact proceeds.rank
          · have later := inductionHypothesis rest member
            rw [first.phase_left paced] at later
            exact Nat.le_trans proceeds.rank later

/-- Every beat of a run is one of a paced session, and a run goes on behind it. -/
theorem goesOn
    (run : PacedRun session calls)
    {index : Nat}
    (found : (beatsOf session calls)[index]? = some beat) :
    Paced beat.session ∧
      ∃ later, PacedRun beat.left later ∧
        ∀ further,
          (beatsOf session calls)[index + 1 + further]? =
            (beatsOf beat.left later)[further]? := by
  induction calls generalizing session index with
  | nil => cases found
  | cons call calls inductionHypothesis =>
      cases first? : call.beat? session with
      | none =>
          obtain ⟨same, _, rest⟩ := run.beatsOf_noBeat first?
          rw [same] at found ⊢
          exact inductionHypothesis rest found
      | some first =>
          obtain ⟨same, paced, _, rest⟩ := run.beatsOf_beat first?
          rw [same] at found ⊢
          cases index with
          | zero =>
              obtain rfl := Option.some.inj found
              refine ⟨paced, calls, rest, fun further => ?_⟩
              rw [Nat.zero_add, Nat.add_comm, List.getElem?_cons_succ]
          | succ index =>
              obtain ⟨pacedThere, later, runLater, same⟩ :=
                inductionHypothesis rest found
              refine ⟨pacedThere, later, runLater, fun further => ?_⟩
              rw [← same, Nat.add_right_comm, Nat.add_right_comm _ 1,
                List.getElem?_cons_succ]

theorem paced_of_mem
    (run : PacedRun session calls)
    (member : beat ∈ beatsOf session calls) :
    Paced beat.session := by
  obtain ⟨index, found⟩ := List.getElem?_of_mem member
  exact (run.goesOn found).1

/-- No beat of a run is in an earlier phase than a beat before it. -/
theorem rank_mono
    (run : PacedRun session calls)
    {index later : Nat}
    {first second : Beat}
    (foundFirst : (beatsOf session calls)[index]? = some first)
    (foundSecond : (beatsOf session calls)[later]? = some second)
    (order : index ≤ later) :
    first.sending.situation.phase.rank ≤
      second.sending.situation.phase.rank := by
  rcases Nat.eq_or_lt_of_le order with rfl | before
  · obtain rfl := Option.some.inj (foundFirst.symm.trans foundSecond)
    exact Nat.le_refl _
  · obtain ⟨paced, rest, runRest, same⟩ := run.goesOn foundFirst
    obtain ⟨further, rfl⟩ := Nat.exists_eq_add_of_lt before
    rw [Nat.add_right_comm, same] at foundSecond
    rw [← first.phase_left paced]
    exact runRest.rank_le (List.mem_of_getElem? foundSecond)

end PacedRun

/--
Among some beats, a request is not offered before so many have passed,
and then it is.
-/
structure RepeatsAfter
    (phase : Phase)
    (wait : Nat)
    (beats : List Beat) :
    Prop where
  notBefore : ∀ index beat, beats[index]? = some beat →
    beat.command? = phase.command? → wait ≤ index
  again : ∀ beat, beats[wait]? = some beat →
    beat.sending.situation.phase = phase → beat.command? = phase.command?

namespace RepeatsAfter

variable {phase : Phase} {wait : Nat} {beats : List Beat} {beat : Beat}

theorem nil (phase : Phase) (wait : Nat) : RepeatsAfter phase wait [] where
  notBefore := by
    intro index beat found
    rw [List.getElem?_nil] at found
    cases found
  again := by
    intro beat found
    rw [List.getElem?_nil] at found
    cases found

/-- In later phases the request is not offered at all. -/
theorem of_later
    (repeats : phase.Repeats)
    (later : ∀ beat ∈ beats,
      Paced beat.session ∧
        phase.rank < beat.sending.situation.phase.rank) :
    RepeatsAfter phase wait beats := by
  constructor
  case notBefore =>
    intro index beat found offered
    obtain ⟨paced, rank⟩ := later beat (List.mem_of_getElem? found)
    obtain ⟨command, calls⟩ : ∃ command, phase.command? = some command := by
      rcases repeats with rfl | rfl | rfl <;> exact ⟨_, rfl⟩
    have same := beat.command?_phase paced (offered.trans calls)
    rw [Phase.eq_of_command? same calls] at rank
    exact absurd rank (Nat.lt_irrefl _)
  case again =>
    intro beat found same
    obtain ⟨_, rank⟩ := later beat (List.mem_of_getElem? found)
    rw [same] at rank
    exact absurd rank (Nat.lt_irrefl _)

/-- A beat without an offer puts the request off. -/
theorem cons_waiting
    (repeats : phase.Repeats)
    (rest : RepeatsAfter phase wait beats)
    (waiting : beat.command? = none) :
    RepeatsAfter phase (wait + 1) (beat :: beats) := by
  constructor
  case notBefore =>
    intro index other found offered
    cases index with
    | zero =>
        obtain rfl := Option.some.inj found
        rw [waiting] at offered
        rcases repeats with rfl | rfl | rfl <;> cases offered
    | succ index =>
        exact Nat.succ_le_succ (rest.notBefore index other found offered)
  case again => exact rest.again

/-- A beat with the offer ends the wait. -/
theorem cons_offering (offers : beat.command? = phase.command?) :
    RepeatsAfter phase 0 (beat :: beats) := by
  constructor
  case notBefore => exact fun _ _ _ _ => Nat.zero_le _
  case again =>
    intro other found _
    obtain rfl := Option.some.inj found
    exact offers

end RepeatsAfter

/--
While a countdown goes on, the request is not offered; once it is over, it is,
unless the session has entered a later phase by then.
-/
theorem countdown
    {session : Session}
    {calls : List Call}
    (run : PacedRun session calls)
    {wait : Nat}
    (counts : session.situation.Counts wait) :
    RepeatsAfter session.situation.phase wait (beatsOf session calls) := by
  -- The induction is on the calls; each of them keeps the phase and the countdown,
  -- or leaves the phase for good.
  induction calls generalizing session wait with
  | nil => exact .nil _ _
  | cons call calls inductionHypothesis =>
      cases found : call.beat? session with
      | none =>
          obtain ⟨same, proceeds, rest⟩ := run.beatsOf_noBeat found
          rw [same]
          generalize (session.call call).2 = next at proceeds rest
          by_cases stays : next.situation.phase = session.situation.phase
          · rw [← stays]
            exact inductionHypothesis rest (counts.proceeds proceeds stays)
          · refine .of_later counts.repeats fun beat member => ?_
            have rank := rest.rank_le member
            have apart := mt Phase.eq_of_rank (Ne.symm stays)
            have rankNext := proceeds.rank
            exact ⟨rest.paced_of_mem member, by omega⟩
      | some beat =>
          obtain ⟨same, paced, proceeds, rest⟩ := run.beatsOf_beat found
          rw [same]
          by_cases stays :
              beat.sending.situation.phase = session.situation.phase
          · have counted := counts.proceeds proceeds stays
            rw [← stays]
            cases wait with
            | zero =>
                exact .cons_offering (beat.command?_of_counted paced counted)
            | succ wait =>
                obtain ⟨waiting, goesOn⟩ := beat.counts_left paced counted
                have again := inductionHypothesis rest goesOn
                rw [beat.phase_left paced] at again
                exact again.cons_waiting counted.repeats waiting
          · refine .of_later counts.repeats fun other member => ?_
            have rankBeat := proceeds.rank
            have apart := mt Phase.eq_of_rank (Ne.symm stays)
            rcases List.mem_cons.mp member with rfl | member
            · exact ⟨paced, by omega⟩
            · have rank := rest.rank_le member
              rw [beat.phase_left paced] at rank
              exact ⟨rest.paced_of_mem member, by omega⟩

/-- The requests of the handshake. -/
def handshakeRequests : List Command :=
  [.connectRequest, .joinGameRequest, .downloadGameStateRequest]

/-- The requests of the handshake are those that are repeated. -/
theorem repeats_of_request
    {phase : Phase}
    {command : Command}
    (request : command ∈ handshakeRequests)
    (calls : phase.command? = some command) :
    phase.Repeats := by
  cases phase <;> cases calls <;> first
    | exact absurd request (by decide)
    | decide

/-- Behind a request that was offered, the countdown goes on. -/
theorem PacedRun.repeatsAfter
    {session : Session}
    {calls : List Call}
    (run : PacedRun session calls)
    {index : Nat}
    {beat : Beat}
    (found : (beatsOf session calls)[index]? = some beat)
    {command : Command}
    (request : command ∈ handshakeRequests)
    (offered : beat.command? = some command) :
    beat.sending.situation.phase.command? = some command ∧
      ∃ later,
        RepeatsAfter beat.sending.situation.phase 3 later ∧
          ∀ further,
            (beatsOf session calls)[index + 1 + further]? =
              later[further]? := by
  obtain ⟨paced, later, runLater, same⟩ := run.goesOn found
  have calls := beat.command?_phase paced offered
  have counts :=
    beat.counts_of_offered paced (repeats_of_request request calls) offered
  have again := countdown runLater counts
  rw [beat.phase_left paced] at again
  exact ⟨calls, _, again, same⟩

/-- Nothing is to be sent at the stage, or what is to be sent is not known. -/
def Quiet (session : Session) : Prop :=
  session.stage = .idle ∨ session.stage = .connected ∨
    session.stage = .disconnected ∨
    session.stage = .requestingState ∧
      (session.progress = .outOfSlots ∨
        session.progress = .joining ∧ session.joinRequest = none)

theorem dueMessage?_of_quiet {session : Session} (quiet : session.Quiet) :
    session.situation.dueMessage? = none := by
  unfold Situation.dueMessage?
  rcases quiet with
    stage | stage | stage | ⟨stage, progress | ⟨progress, unasked⟩⟩
  · rw [show session.situation.stage = _ from stage]
  · rw [show session.situation.stage = _ from stage]
  · rw [show session.situation.stage = _ from stage]
  · rw [show session.situation.stage = _ from stage,
      show session.situation.progress = _ from progress]
  · rw [show session.situation.stage = _ from stage,
      show session.situation.progress = _ from progress,
      show session.situation.joinRequest = _ from unasked]
    rfl

/--
The pace of some beats: what each of them offers, what none of them offers, and
when the requests of the handshake are offered again.
-/
structure KeepsPace (beats : List Beat) : Prop where
  atMostOne : ∀ beat ∈ beats,
    beat.tick.offered.isSome = beat.command?.isSome ∧
      beat.left.sendSequence =
        if beat.tick.offered.isSome = true ∧ beat.wire.refusal = none then
          beat.session.sendSequence.advance
        else beat.session.sendSequence
  quiet : ∀ beat ∈ beats, beat.sending.Quiet → beat.tick.offered = none
  downloading : ∀ beat ∈ beats, beat.left.stage = .downloadingState →
    beat.command? = some .downloadGameStateStatus
  playing : ∀ beat ∈ beats, beat.left.stage = .synced →
    beat.command? = some .gameStep
  apart : ∀ command ∈ handshakeRequests,
    ∀ index later first second, index < later →
      beats[index]? = some first → first.command? = some command →
      beats[later]? = some second → second.command? = some command →
      (∀ between beat, index < between → between < later →
        beats[between]? = some beat → beat.command? ≠ some command) →
      later = index + 4
  again : ∀ command ∈ handshakeRequests,
    ∀ index first second,
      beats[index]? = some first → first.command? = some command →
      beats[index + 4]? = some second →
      second.sending.stage = first.sending.stage →
      second.sending.progress = first.sending.progress →
      second.command? = some command

namespace PacedRun

variable {session : Session} {calls : List Call} {beat : Beat}

/--
A beat that leaves the session in the download or in the game offers what the
phase calls for.
-/
theorem command?_of_later
    (run : PacedRun session calls)
    (member : beat ∈ beatsOf session calls)
    (later : beat.left.stage = .downloadingState ∨
      beat.left.stage = .synced) :
    beat.command? = beat.left.situation.phase.command? := by
  have paced := run.paced_of_mem member
  have stage := (beat.ends paced).stage
  rw [show beat.tick.outcome.session.stage = beat.left.stage from rfl]
    at stage
  have atStage := (beat.coherent_sending paced).atStage
  rw [show beat.sending.situation.stage = beat.left.stage from stage.symm]
    at atStage
  have ready : beat.sending.waitTicks = 0 := by
    refine beat.unwaiting_sending paced ?_
    rw [show beat.sending.situation.stage = _ from stage.symm]
    exact later
  have due : ∃ message,
      beat.sending.situation.dueMessage? = some message := by
    unfold Situation.dueMessage?
    rw [show beat.sending.situation.stage = beat.left.stage from stage.symm]
    rcases later with downloading | synced
    · rw [downloading] at atStage ⊢
      obtain ⟨_, _, download, found, _⟩ := atStage
      rw [found]
      exact ⟨_, rfl⟩
    · rw [synced]
      exact ⟨_, rfl⟩
  obtain ⟨message, due⟩ := due
  rw [beat.phase_left paced]
  exact beat.command?_of_ready paced (by rw [ready]) due

/-- Two offers of one request with none of it between them are four beats apart. -/
theorem apart
    (run : PacedRun session calls)
    {command : Command}
    (request : command ∈ handshakeRequests)
    {index later : Nat}
    {first second : Beat}
    (order : index < later)
    (foundFirst : (beatsOf session calls)[index]? = some first)
    (offeredFirst : first.command? = some command)
    (foundSecond : (beatsOf session calls)[later]? = some second)
    (offeredSecond : second.command? = some command)
    (nothingBetween : ∀ between beat, index < between → between < later →
      (beatsOf session calls)[between]? = some beat →
      beat.command? ≠ some command) :
    later = index + 4 := by
  obtain ⟨phaseFirst, rest, repeats, same⟩ :=
    run.repeatsAfter foundFirst request offeredFirst
  have pacedSecond := run.paced_of_mem (List.mem_of_getElem? foundSecond)
  have phaseSecond := second.command?_phase pacedSecond offeredSecond
  obtain ⟨further, rfl⟩ := Nat.exists_eq_add_of_lt order
  have notBefore : 3 ≤ further := by
    refine repeats.notBefore further second ?_ ?_
    · rw [← same, Nat.add_right_comm]
      exact foundSecond
    · rw [phaseFirst]
      exact offeredSecond
  -- The beat after the countdown is in the same phase, since the two offers are.
  obtain ⟨fourth, foundFourth⟩ :
      ∃ beat, (beatsOf session calls)[index + 4]? = some beat := by
    have inside := (List.getElem?_eq_some_iff.mp foundSecond).1
    exact ⟨_, List.getElem?_eq_getElem (by omega)⟩
  have rankBelow := run.rank_mono foundFirst foundFourth (by omega)
  have rankAbove := run.rank_mono foundFourth foundSecond (by omega)
  rw [Phase.eq_of_command? phaseSecond phaseFirst] at rankAbove
  have stays :
      fourth.sending.situation.phase = first.sending.situation.phase :=
    Phase.eq_of_rank (Nat.le_antisymm rankAbove rankBelow)
  have offeredFourth : fourth.command? = some command := by
    rw [← phaseFirst]
    refine repeats.again fourth ?_ stays
    rw [← same]
    exact foundFourth
  have notBetween : ¬index + 4 < index + further + 1 := fun before =>
    nothingBetween (index + 4) fourth (by omega) before foundFourth offeredFourth
  omega

/--
A request that was offered is offered again four beats later, if the session
is still there.
-/
theorem again
    (run : PacedRun session calls)
    {command : Command}
    (request : command ∈ handshakeRequests)
    {index : Nat}
    {first second : Beat}
    (foundFirst : (beatsOf session calls)[index]? = some first)
    (offered : first.command? = some command)
    (foundSecond : (beatsOf session calls)[index + 4]? = some second)
    (stage : second.sending.stage = first.sending.stage)
    (progress : second.sending.progress = first.sending.progress) :
    second.command? = some command := by
  obtain ⟨phaseFirst, rest, repeats, same⟩ :=
    run.repeatsAfter foundFirst request offered
  rw [← phaseFirst]
  refine repeats.again second ?_ ?_
  · rw [← same]
    exact foundSecond
  · rw [Situation.phase, Situation.phase,
      show second.sending.situation.stage = _ from stage,
      show second.sending.situation.progress = _ from progress]
    rfl

/-- Every run without a reset keeps the pace. -/
theorem keepsPace (run : PacedRun session calls) :
    KeepsPace (beatsOf session calls) where
  atMostOne := by
    intro beat member
    have paced := run.paced_of_mem member
    have sendSequence := (beat.ends paced).sendSequence
    rw [show beat.sending.sendSequence = beat.session.sendSequence from
      (beat.proceeds paced).sendSequence] at sendSequence
    exact ⟨beat.isSome_offered paced, sendSequence⟩
  quiet := by
    intro beat member quiet
    have paced := run.paced_of_mem member
    rw [(beat.ends paced).offered, dueNow?, dueMessage?_of_quiet quiet,
      ite_self]
    rfl
  downloading := by
    intro beat member stage
    rw [run.command?_of_later member (.inl stage), Situation.phase,
      show beat.left.situation.stage = _ from stage]
    rfl
  playing := by
    intro beat member stage
    rw [run.command?_of_later member (.inr stage), Situation.phase,
      show beat.left.situation.stage = _ from stage]
    rfl
  apart := fun _ request _ _ _ _ order => run.apart request order
  again := fun _ request _ _ _ => run.again request

end PacedRun

/-- A new session is paced. -/
theorem paced_create (settings : Settings) :
    Paced (create settings).1 where
  numbers := ⟨_, numbers_afterAll settings []⟩
  unwaiting := by
    rw [session_create]
    exact fun _ => rfl

/--
Whatever the application asks for, short of a reset, and whatever the network
does, a session keeps its pace: each tick whose receiving does not fail offers one
datagram at most, none where nothing is to be said, always one during the download
and the game, and the same request of the handshake exactly every four of these
ticks.
-/
theorem keepsPace_beatsOf
    (settings : Settings)
    {calls : List Call}
    (noReset : .ask .reset ∉ calls) :
    KeepsPace (beatsOf (create settings).1 calls) :=
  PacedRun.keepsPace ⟨paced_create settings, noReset⟩

/--
A request to connect is not taken at first, and one tick receives nothing
but a failure.
-/
def connecting : List Call :=
  [.ask .requestConnect,
    .tick 0 ⟨[], some "would block"⟩,
    .tick 20 ⟨[], none⟩,
    .tick 40 ⟨[.failure "lost"], none⟩,
    .tick 60 ⟨[], none⟩,
    .tick 80 ⟨[], none⟩,
    .tick 100 ⟨[], none⟩]

theorem keepsPace_connecting :
    .ask .reset ∉ connecting ∧
      (beatsOf (create Settings.standard).1 connecting).map Beat.command? =
        [some .connectRequest, none, none, none, some .connectRequest] ∧
      KeepsPace (beatsOf (create Settings.standard).1 connecting) :=
  ⟨by decide, by decide +kernel,
    keepsPace_beatsOf Settings.standard (by decide)⟩

end StepSync.Session
