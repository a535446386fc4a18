import StepSync.Proofs.Session.Hearing

namespace StepSync.Session

/-!
# When a session is given up

A tick judges the link if its receiving ends well and finds the session synced.
From such ticks alone, and from what they receive, it can be told when a session is
given up (`giving_up`): on the 76th silent tick at the latest, on no judgement
before the 76th, and never while steps keep coming.

The judged link is watched through a run (`Watched`).  Between the judgements
whatever happens only eases it, and a judgement lets a tick of it pass.
-/

/-- The session behind the receiving of a tick. -/
def afterReceiving (session : Session) (now : Nat) (wire : Wire) : Session :=
  session.afterAll
    (.tickBegun now :: (datagrams wire.arrivals).map .received)

/--
Of datagrams received in order, one brings an authoritative step that is stored.
-/
def storesAny : Session → List Octets → Bool
  | _, [] => false
  | session, datagram :: datagrams =>
      session.stores datagram ||
        storesAny (session.receive datagram).session datagrams

/-- Whether a call judges the link; if it does, whether a new step came to it. -/
def judgement? (session : Session) : Call → Option Bool
  | .tick now wire =>
      if failure? wire.arrivals = none ∧
          (session.afterReceiving now wire).stage = .synced then
        some
          ((Action.beginTick now session).session.storesAny
            (datagrams wire.arrivals))
      else none
  | _ => none

/-- The judgements of a run, in order. -/
def judgements : Session → List Call → List Bool
  | _, [] => []
  | session, call :: calls =>
      (session.judgement? call).toList ++
        judgements (session.call call).2 calls

/-- A call asks to leave the server or to start over. -/
def Call.Interrupts (call : Call) : Prop :=
  call = .ask .disconnect ∨ call = .ask .reset

/--
Nothing comes by a call: it is a tick that receives nothing, or a request that
does not interrupt.
-/
def Call.Silent : Call → Prop
  | .tick _ wire =>
      datagrams wire.arrivals = [] ∧ failure? wire.arrivals = none
  | .receive _ => False
  | .ask request => ¬(Call.ask request).Interrupts

/-- A call is a tick. -/
def Call.isTick : Call → Bool
  | .tick _ _ => true
  | _ => false

instance Call.decidableInterrupts (call : Call) :
    Decidable call.Interrupts :=
  inferInstanceAs (Decidable (_ ∨ _))

theorem run_append (session : Session) (first second : List Call) :
    session.run (first ++ second) = (session.run first).run second :=
  List.foldl_append

theorem reached_append (settings : Settings) (first second : List Call) :
    (reached settings first).run second = reached settings (first ++ second) :=
  (run_append _ first second).symm

/-- Only ticks judge the link. -/
theorem length_judgements_le (session : Session) (calls : List Call) :
    (session.judgements calls).length ≤ calls.countP Call.isTick := by
  induction calls generalizing session with
  | nil => exact Nat.le_refl 0
  | cons call calls inductionHypothesis =>
      have rest := inductionHypothesis (session.call call).2
      rw [judgements, List.length_append, List.countP_cons]
      have here :
          (session.judgement? call).toList.length ≤
            if call.isTick then 1 else 0 := by
        cases call with
        | tick now wire =>
            cases session.judgement? (.tick now wire) with
            | none => exact Nat.zero_le 1
            | some stored => exact Nat.le_refl 1
        | receive datagram => exact Nat.le_refl 0
        | ask request => exact Nat.le_refl 0
      omega

/-! ## Reachable sessions -/

/-- What holds of every reachable session. -/
structure Sound (session : Session) : Prop where
  coherent : session.situation.Coherent
  tracked : ∃ stream, Tracks stream session

namespace Sound

variable {session : Session}

theorem after (sound : Sound session) (event : Event) :
    Sound (session.after event) := by
  obtain ⟨stream, tracks⟩ := sound.tracked
  exact
    ⟨(coherent_after sound.coherent event).1, _, tracks.after event⟩

theorem call (sound : Sound session) (call : Call) :
    Sound (session.call call).2 := by
  rw [session_call]
  generalize call.events = events
  induction events generalizing session with
  | nil => exact sound
  | cons event events inductionHypothesis =>
      exact inductionHypothesis (sound.after event)

theorem goesOn (sound : Sound session) :
    session.inbound.ready.nextId = session.inbound.window.expected := by
  obtain ⟨stream, tracks⟩ := sound.tracked
  exact tracks.faithful.goesOn

theorem reached (settings : Settings) (calls : List Call) :
    Sound (reached settings calls) := by
  rw [Session.reached, run_eq_afterAll]
  exact
    ⟨coherent_afterAll settings _, _, tracks_afterAll settings _⟩

/--
A request that does not interrupt leaves the link, and moves a session along the
handshake if it moves it.
-/
theorem asked
    (sound : Sound session)
    {request : Request}
    (lasting : ¬(Call.ask request).Interrupts) :
    (session.after (.asked request)).health = session.health ∧
      ((session.after (.asked request)).stage = session.stage ∨
        (session.stage ≠ .disconnected ∧ session.stage ≠ .synced ∧
          (session.after (.asked request)).stage ≠ .disconnected ∧
          (session.after (.asked request)).stage ≠ .synced)) := by
  refine ⟨health_ask session
    fun same => lasting (.inr (congrArg Call.ask same)), ?_⟩
  have edge := (coherent_after sound.coherent (.asked request)).2.edge
  change Edge _ session.stage (session.after (.asked request)).stage at edge
  generalize (session.after (.asked request)).stage = later at edge ⊢
  generalize session.stage = earlier at edge ⊢
  cases edge with
  | stay => exact .inl rfl
  | requestConnect => exact .inr (by decide)
  | beginJoin => exact .inr (by decide)
  | disconnect => exact absurd (.inl rfl) lasting
  | reset => exact absurd (.inr rfl) lasting

end Sound

/-! ## Watching the link -/

/-- What is known of links that are only heard of. -/
structure Lenient (Known : Health → Prop) : Prop where
  unknown : Known Health.unknown
  eases : ∀ {before after : Health},
    Known before → before.Eases after → Known after

theorem lenient_early (ticks : Nat) : Lenient (Health.Early ticks) :=
  ⟨.unknown ticks, Health.Early.eases⟩

theorem lenient_fed (ticks : Nat) : Lenient (Health.Fed ticks) :=
  ⟨.unknown ticks, Health.Fed.eases⟩

/-- A session is there, and something is known of its link. -/
structure Watched (Known : Health → Prop) (session : Session) : Prop where
  sound : Sound session
  present : session.stage ≠ .disconnected
  known : Known session.link

namespace Watched

variable
  {Known : Health → Prop} {session : Session}
  {now : Nat} {wire : Wire}

theorem of_unsynced
    (lenient : Lenient Known)
    (sound : Sound session)
    (present : session.stage ≠ .disconnected)
    (unsynced : session.stage ≠ .synced) :
    Watched Known session := by
  refine ⟨sound, present, ?_⟩
  rw [Heard.link_of_unsynced unsynced]
  exact lenient.unknown

/-- An event that leaves the stage and the link leaves what is known. -/
theorem after_of_same
    (watched : Watched Known session)
    {event : Event}
    (sameStage : (session.after event).stage = session.stage)
    (sameHealth : (session.after event).health = session.health) :
    Watched Known (session.after event) := by
  refine ⟨watched.sound.after event, ?_, ?_⟩
  · rw [sameStage]
    exact watched.present
  · unfold link
    rw [sameStage, sameHealth]
    exact watched.known

theorem tickBegun (watched : Watched Known session) (now : Nat) :
    Watched Known (session.after (.tickBegun now)) :=
  watched.after_of_same
    (congrArg Situation.stage (situation_beginTick now session))
    (health_beginTick now session)

/-- A datagram only eases the link. -/
theorem received
    (watched : Watched Known session)
    (lenient : Lenient Known)
    (datagram : Octets) :
    Watched Known (session.after (.received datagram)) := by
  have sound := watched.sound.after (.received datagram)
  have heard := heard_receive session datagram
  have present :
      (session.after (.received datagram)).stage ≠ .disconnected := by
    intro gone
    have edge :=
      (coherent_after watched.sound.coherent (.received datagram)).2.edge
    change Edge _ session.stage
      (session.after (.received datagram)).stage at edge
    rw [gone] at edge
    generalize stage : session.stage = before at edge
    cases edge
    exact watched.present stage
  by_cases synced : (session.after (.received datagram)).stage = .synced
  · refine ⟨sound, present, ?_⟩
    rw [Heard.link_of_synced synced]
    exact lenient.eases watched.known (heard.eases synced)
  · exact of_unsynced lenient sound present synced

/-- A request that does not interrupt leaves the link. -/
theorem asked
    (watched : Watched Known session)
    (lenient : Lenient Known)
    {request : Request}
    (lasting : ¬(Call.ask request).Interrupts) :
    Watched Known (session.after (.asked request)) := by
  obtain ⟨sameHealth, same | ⟨_, _, present, unsynced⟩⟩ :=
    watched.sound.asked lasting
  · exact watched.after_of_same same sameHealth
  · exact of_unsynced lenient (watched.sound.after _) present unsynced

theorem receivedAll
    (watched : Watched Known session)
    (lenient : Lenient Known)
    (received : List Octets) :
    Watched Known (session.afterAll (received.map .received)) := by
  induction received generalizing session with
  | nil => exact watched
  | cons datagram received inductionHypothesis =>
      exact inductionHypothesis (watched.received lenient datagram)

/-- A new step takes the ticks back that have passed without one. -/
theorem fedAll
    {ticks : Nat}
    (watched : Watched (Health.Fed ticks) session)
    (received : List Octets)
    (stores : session.storesAny received = true) :
    Watched (Health.Fed 0) (session.afterAll (received.map .received)) := by
  induction received generalizing session with
  | nil => cases stores
  | cons datagram received inductionHypothesis =>
      have after := watched.received (lenient_fed ticks) datagram
      rw [storesAny, Bool.or_eq_true] at stores
      rcases stores with now | later
      · have fed :
            Watched (Health.Fed 0)
              (session.after (.received datagram)) := by
          refine ⟨after.sound, after.present, ?_⟩
          by_cases synced : session.stage = .synced
          · have still : (session.after (.received datagram)).stage = .synced :=
              (heard_receive session datagram).stays synced
            have fresh := fresh_receive synced watched.sound.goesOn now
            have known := after.known
            rw [Heard.link_of_synced still] at known ⊢
            exact ⟨Nat.le_of_eq fresh.datagrams, Nat.le_of_eq fresh.steps,
              known.badTicks, known.verdict⟩
          · have unknown :
                Watched (Health.Fed 0) session :=
              of_unsynced (lenient_fed 0) watched.sound watched.present
                synced
            exact (unknown.received (lenient_fed 0) datagram).known
        exact fed.receivedAll (lenient_fed 0) received
      · exact inductionHypothesis after later

/-- Receiving in a tick only eases the link. -/
theorem afterReceiving
    (watched : Watched Known session)
    (lenient : Lenient Known)
    (now : Nat)
    (wire : Wire) :
    Watched Known (session.afterReceiving now wire) :=
  (watched.tickBegun now).receivedAll lenient _

/-- At the end of a tick nothing is judged but a synced session. -/
theorem tickEnded_of_unsynced
    (watched : Watched Known session)
    (unsynced : session.stage ≠ .synced)
    (lenient : Lenient Known)
    (now : Nat)
    (refusal : Option String) :
    Watched Known (session.after (.tickEnded now refusal)) := by
  have sameStage :
      (session.after (.tickEnded now refusal)).stage = session.stage := by
    rcases situation_endTick session now refusal with
      ⟨synced, _⟩ | sends
    · exact absurd synced unsynced
    · exact sends.stage
  exact of_unsynced lenient (watched.sound.after _)
    (sameStage ▸ watched.present) (sameStage ▸ unsynced)

/-- At the end of a tick one tick of a synced session's link passes. -/
theorem tickEnded_of_synced
    {Later : Health → Prop}
    (watched : Watched Known session)
    (synced : session.stage = .synced)
    (passes : ∀ health, Known health →
      health.tick.1.isGivenUp = false ∧ Later health.tick.1)
    (now : Nat)
    (refusal : Option String) :
    Watched Later (session.after (.tickEnded now refusal)) := by
  have known := watched.known
  rw [Heard.link_of_synced synced] at known
  obtain ⟨kept, later⟩ := passes session.health known
  obtain ⟨health, stage⟩ := health_endTick synced now refusal
  rw [kept] at stage
  change (session.after (.tickEnded now refusal)).health = _ at health
  change (session.after (.tickEnded now refusal)).stage = .synced at stage
  refine ⟨watched.sound.after _, ?_, ?_⟩
  · rw [stage]
    decide
  · rw [Heard.link_of_synced stage, health]
    exact later

end Watched

section

variable {session : Session} {now : Nat} {wire : Wire}

/-- A tick whose receiving ends well ends behind it. -/
theorem call_tick_of_received
    (received : failure? wire.arrivals = none) :
    (session.call (.tick now wire)).2 =
      (session.afterReceiving now wire).after
        (.tickEnded now wire.refusal) := by
  rw [session_call, Call.events, Wire.events, received, afterAll_append]
  rfl

/-- A tick whose receiving fails ends there. -/
theorem call_tick_of_failure
    {message : String}
    (fails : failure? wire.arrivals = some message) :
    (session.call (.tick now wire)).2 = session.afterReceiving now wire := by
  rw [session_call, Call.events, Wire.events, fails, List.append_nil]
  rfl

theorem judgement?_eq_some
    {call : Call}
    {stored : Bool}
    (judged : session.judgement? call = some stored) :
    ∃ now wire,
      call = .tick now wire ∧ failure? wire.arrivals = none ∧
        (session.afterReceiving now wire).stage = .synced ∧
        (Action.beginTick now session).session.storesAny
          (datagrams wire.arrivals) = stored := by
  cases call with
  | receive datagram => cases judged
  | ask request => cases judged
  | tick now wire =>
      by_cases found :
          failure? wire.arrivals = none ∧
            (session.afterReceiving now wire).stage = .synced
      · rw [judgement?, if_pos found] at judged
        exact ⟨now, wire, rfl, found.1, found.2, Option.some.inj judged⟩
      · rw [judgement?, if_neg found] at judged
        cases judged

namespace Watched

variable {Known : Health → Prop}

/-- A call that does not judge the link leaves what is known of it. -/
theorem unjudged
    (watched : Watched Known session)
    (lenient : Lenient Known)
    {call : Call}
    (lasting : ¬call.Interrupts)
    (silent : session.judgement? call = none) :
    Watched Known (session.call call).2 := by
  cases call with
  | receive datagram => exact watched.received lenient datagram
  | ask request => exact watched.asked lenient lasting
  | tick now wire =>
      have received := watched.afterReceiving lenient now wire
      cases outcome : failure? wire.arrivals with
      | some message =>
          rw [call_tick_of_failure outcome]
          exact received
      | none =>
          have unsynced :
              (session.afterReceiving now wire).stage ≠ .synced := by
            intro synced
            rw [judgement?, if_pos ⟨outcome, synced⟩] at silent
            cases silent
          rw [call_tick_of_received outcome]
          exact received.tickEnded_of_unsynced unsynced lenient now _

/-- A judgement lets one tick of the link pass. -/
theorem judged
    {Later : Health → Prop}
    (watched : Watched Known session)
    (lenient : Lenient Known)
    {call : Call}
    {stored : Bool}
    (judged : session.judgement? call = some stored)
    (passes : ∀ health, Known health →
      health.tick.1.isGivenUp = false ∧ Later health.tick.1) :
    Watched Later (session.call call).2 := by
  obtain ⟨now, wire, rfl, received, synced, _⟩ := judgement?_eq_some judged
  rw [call_tick_of_received received]
  exact (watched.afterReceiving lenient now wire).tickEnded_of_synced synced
    passes now _

/-- A judgement to which a new step came is the first since steps came. -/
theorem judged_fed
    {ticks : Nat}
    (watched : Watched (Health.Fed ticks) session)
    {call : Call}
    (judged : session.judgement? call = some true) :
    Watched (Health.Fed 1) (session.call call).2 := by
  obtain ⟨now, wire, rfl, received, synced, stores⟩ :=
    judgement?_eq_some judged
  rw [call_tick_of_received received]
  have fed : Watched (Health.Fed 0) (session.afterReceiving now wire) :=
    (watched.tickBegun now).fedAll _ stores
  exact fed.tickEnded_of_synced synced (Health.Fed.passes (by decide)) now _

end Watched

end

/-! ## Never too early -/

/-- A session is there as long as fewer judgements fell than may be bad. -/
theorem present_of_few
    {ticks : Nat}
    {session : Session}
    (watched : Watched (Health.Early ticks) session)
    {calls : List Call}
    (lasting : ∀ call ∈ calls, ¬call.Interrupts)
    (few : ticks + (session.judgements calls).length ≤ 75) :
    (session.run calls).stage ≠ .disconnected := by
  induction calls generalizing ticks session with
  | nil => exact watched.present
  | cons call calls inductionHypothesis =>
      have rest := fun other mem => lasting other (List.mem_cons_of_mem _ mem)
      have here := lasting call List.mem_cons_self
      rw [judgements, List.length_append] at few
      change ((session.call call).2.run calls).stage ≠ .disconnected
      cases judged : session.judgement? call with
      | none =>
          rw [judged] at few
          refine inductionHypothesis
            (watched.unjudged (lenient_early ticks) here judged) rest ?_
          simpa using few
      | some stored =>
          rw [judged, Option.toList_some, List.length_singleton] at few
          have inTime : ticks + 1 ≤ 75 := by
            omega
          have later :=
            watched.judged (lenient_early ticks) judged
              (Health.Early.passes inTime)
          exact inductionHypothesis later rest (by omega)

/-! ## Never while steps come -/

/-- Among any fifteen judgements in a row there is one to which a new step came. -/
def Steady (judgements : List Bool) : Prop :=
  ∀ earlier window later,
    judgements = earlier ++ window ++ later →
      window.length = 15 → true ∈ window

namespace Steady

variable {missed : Nat} {judgements : List Bool}

theorem of_append
    {earlier : List Bool}
    (steady : Steady (earlier ++ judgements)) :
    Steady judgements := by
  intro before window later parts
  refine steady (earlier ++ before) window later ?_
  rw [parts]
  simp only [List.append_assoc]

theorem steady_iff :
    Steady judgements ↔
      ∀ start < judgements.length - 14,
        true ∈ (judgements.drop start).take 15 := by
  constructor
  · intro steady start within
    refine steady (judgements.take start) _
      ((judgements.drop start).drop 15) ?_ ?_
    · rw [List.append_assoc, List.take_append_drop, List.take_append_drop]
    · rw [List.length_take, List.length_drop]
      omega
  · rintro steady earlier window later rfl long
    have found := steady earlier.length (by
      simp only [List.length_append]
      omega)
    rw [List.append_assoc, List.drop_left, ← long, List.take_left] at found
    exact found

instance : Decidable (Steady judgements) :=
  decidable_of_iff' _ steady_iff

/-- No more than fourteen judgements in a row miss steps. -/
theorem missed_lt
    (steady : Steady (List.replicate missed false ++ judgements)) :
    missed < 15 := by
  refine Nat.lt_of_not_le fun tooMany => ?_
  obtain ⟨more, rfl⟩ := Nat.exists_eq_add_of_le tooMany
  have mem :=
    steady [] (List.replicate 15 false)
      (List.replicate more false ++ judgements)
      (by rw [← List.replicate_append_replicate, List.append_assoc,
        List.nil_append])
      List.length_replicate
  exact absurd (List.eq_of_mem_replicate mem) (by decide)

/-- A judgement that misses steps is one more of those in a row. -/
theorem miss
    (steady : Steady (List.replicate missed false ++ false :: judgements)) :
    Steady (List.replicate (missed + 1) false ++ judgements) := by
  rw [List.replicate_succ', List.append_assoc]
  exact steady

/-- A judgement to which a step came begins anew. -/
theorem hit
    (steady : Steady (List.replicate missed false ++ true :: judgements)) :
    Steady judgements := by
  rw [← List.singleton_append, ← List.append_assoc] at steady
  exact steady.of_append

end Steady

/-- A session is there as long as steps keep coming. -/
theorem present_of_steady
    {missed : Nat}
    {session : Session}
    (watched : Watched (Health.Fed (missed + 1)) session)
    {calls : List Call}
    (lasting : ∀ call ∈ calls, ¬call.Interrupts)
    (steady :
      Steady (List.replicate missed false ++ session.judgements calls)) :
    (session.run calls).stage ≠ .disconnected := by
  induction calls generalizing missed session with
  | nil => exact watched.present
  | cons call calls inductionHypothesis =>
      have rest := fun other mem => lasting other (List.mem_cons_of_mem _ mem)
      have here := lasting call List.mem_cons_self
      have lenient := lenient_fed (missed + 1)
      rw [judgements] at steady
      change ((session.call call).2.run calls).stage ≠ .disconnected
      cases judged : session.judgement? call with
      | none =>
          rw [judged] at steady
          exact inductionHypothesis (watched.unjudged lenient here judged)
            rest steady
      | some stored =>
          rw [judged] at steady
          cases stored with
          | true =>
              exact inductionHypothesis (watched.judged_fed judged) rest
                steady.hit
          | false =>
              have more := steady.miss
              have few := more.missed_lt
              exact inductionHypothesis
                (watched.judged lenient judged (Health.Fed.passes few)) rest
                more

/-! ## Never too late -/

/-- In silence a session is gone, or so many ticks of it were silent. -/
def Fading (ticks : Nat) (session : Session) : Prop :=
  session.stage = .disconnected ∨
    session.stage = .synced ∧ Health.Silent ticks session.health

namespace Fading

variable {ticks : Nat} {session : Session}

/-- A request that does not interrupt breaks no silence. -/
theorem asked
    (fading : Fading ticks session)
    (sound : Sound session)
    {request : Request}
    (lasting : ¬(Call.ask request).Interrupts) :
    Fading ticks (session.after (.asked request)) := by
  obtain ⟨sameHealth, same | ⟨present, unsynced, _⟩⟩ := sound.asked lasting
  · unfold Fading
    rw [same, sameHealth]
    exact fading
  · rcases fading with gone | ⟨synced, _⟩
    · exact absurd gone present
    · exact absurd synced unsynced

/-- The end of a tick counts it, or gives the session up. -/
theorem tickEnded
    (fading : Fading ticks session)
    (now : Nat)
    (refusal : Option String) :
    Fading (ticks + 1) (session.after (.tickEnded now refusal)) := by
  rcases fading with gone | ⟨synced, silent⟩
  · left
    rcases situation_endTick session now refusal with ⟨synced, _⟩ | sends
    · change session.stage = .synced at synced
      rw [gone] at synced
      cases synced
    · exact sends.stage.trans gone
  · obtain ⟨health, stage⟩ := health_endTick synced now refusal
    change (session.after (.tickEnded now refusal)).health = _ at health
    change (session.after (.tickEnded now refusal)).stage = _ at stage
    unfold Fading
    rw [stage, health]
    cases given : session.health.tick.1.isGivenUp with
    | true => exact .inl rfl
    | false => exact .inr ⟨rfl, silent.tick given⟩

/-- A silent call counts if it is a tick. -/
theorem call
    (fading : Fading ticks session)
    (sound : Sound session)
    {call : Call}
    (silent : call.Silent) :
    Fading (ticks + call.isTick.toNat) (session.call call).2 := by
  cases call with
  | receive datagram => exact silent.elim
  | ask request => exact fading.asked sound silent
  | tick now wire =>
      rw [call_tick_of_received silent.2, afterReceiving, silent.1]
      have begun : Fading ticks (session.after (.tickBegun now)) := by
        have sameStage :
            (session.after (.tickBegun now)).stage = session.stage :=
          congrArg Situation.stage (situation_beginTick now session)
        have sameHealth :
            (session.after (.tickBegun now)).health = session.health :=
          health_beginTick now session
        unfold Fading
        rw [sameStage, sameHealth]
        exact fading
      exact begun.tickEnded now wire.refusal

/-- A run in silence counts its ticks. -/
theorem run
    (fading : Fading ticks session)
    (sound : Sound session)
    {calls : List Call}
    (silent : ∀ call ∈ calls, call.Silent) :
    Fading (ticks + calls.countP Call.isTick) (session.run calls) := by
  induction calls generalizing ticks session with
  | nil => exact fading
  | cons call calls inductionHypothesis =>
      have counted :
          ticks + (call :: calls).countP Call.isTick =
            ticks + call.isTick.toNat + calls.countP Call.isTick := by
        rw [List.countP_cons]
        cases call.isTick <;> simp [Nat.add_comm, Nat.add_left_comm]
      rw [counted]
      refine inductionHypothesis
        (fading.call sound (silent call List.mem_cons_self)) ?_
        fun other mem => silent other (List.mem_cons_of_mem _ mem)
      exact sound.call call

end Fading

/-! ## The decision -/

/--
A tick on which a session is given up found it synced, leaves the verdict, and
sends nothing.
-/
theorem tick_of_givenUp
    {session : Session}
    (sound : Sound session)
    (present : session.stage ≠ .disconnected)
    {now : Nat}
    {wire : Wire}
    (gone : (session.tick now wire).outcome.session.stage = .disconnected) :
    session.stage = .synced ∧
      (session.tick now wire).outcome.session.health.isGivenUp = true ∧
      (session.tick now wire).offered = none := by
  have anything : Lenient fun _ => True := ⟨trivial, fun _ _ => trivial⟩
  have watched : Watched (fun _ => True) session :=
    ⟨sound, present, trivial⟩
  cases outcome : failure? wire.arrivals with
  | some message =>
      rw [(tick_of_failure outcome session now).1] at gone
      exact absurd gone (watched.afterReceiving anything now wire).present
  | none =>
      obtain ⟨leaves, _, offers⟩ := tick_of_received outcome session now
      change _ = (session.afterReceiving now wire).after
        (.tickEnded now wire.refusal) at leaves
      rw [leaves] at gone ⊢
      rw [offers]
      change _ ∧ _ ∧
        ((session.afterReceiving now wire).endTick now wire.refusal).offered =
          none
      have judged : (session.afterReceiving now wire).stage = .synced := by
        refine Decidable.byContradiction fun unsynced => ?_
        have kept :=
          Watched.tickEnded_of_unsynced
            (watched.afterReceiving anything now wire) unsynced anything now
            wire.refusal
        exact kept.present gone
      obtain ⟨health, stage⟩ := health_endTick judged now wire.refusal
      change ((session.afterReceiving now wire).after
        (.tickEnded now wire.refusal)).health = _ at health
      change ((session.afterReceiving now wire).after
        (.tickEnded now wire.refusal)).stage = _ at stage
      have given :
          (session.afterReceiving now wire).health.tick.1.isGivenUp =
            true := by
        rw [gone] at stage
        cases given :
            (session.afterReceiving now wire).health.tick.1.isGivenUp with
        | true => rfl
        | false =>
            rw [given] at stage
            cases stage
      refine ⟨?_, by rw [health]; exact given, ?_⟩
      · -- A session that becomes synced in the tick has an unknown link.
        refine Decidable.byContradiction fun unsynced => ?_
        have early :=
          (Watched.of_unsynced (lenient_early 0) sound present
            unsynced).afterReceiving (lenient_early 0) now wire
        have kept :=
          early.tickEnded_of_synced judged (Health.Early.passes (by decide))
            now wire.refusal
        exact kept.present gone
      · have verdict := (judgeLink_of_synced judged).1
        rw [given] at verdict
        exact (endTick_of_givenUp verdict now wire.refusal).1

/--
When a session is given up.  A synced session that hears nothing any more is gone
after 76 ticks (1).  From before it is synced, a session that nobody takes down
is there as long as fewer than 76 ticks have judged it, and as long as among any
fifteen ticks in a row that judge it there is one that brings a new authoritative
step (2).  A tick takes down only a synced session, only by the verdict on its
link, and then sends nothing (3).
-/
theorem giving_up (settings : Settings) (earlier : List Call) :
    let session := reached settings earlier
    (session.stage = .synced →
        ∀ calls : List Call,
          (∀ call ∈ calls, call.Silent) →
            76 ≤ calls.countP Call.isTick →
              (session.run calls).stage = .disconnected) ∧
      (session.stage ≠ .synced → session.stage ≠ .disconnected →
        ∀ calls : List Call,
          (∀ call ∈ calls, ¬call.Interrupts) →
            ((session.judgements calls).length < 76 →
                (session.run calls).stage ≠ .disconnected) ∧
              (Steady (session.judgements calls) →
                (session.run calls).stage ≠ .disconnected)) ∧
      (session.stage ≠ .disconnected →
        ∀ now wire,
          let tick := session.tick now wire
          tick.outcome.session.stage = .disconnected →
            session.stage = .synced ∧
              tick.outcome.session.health.isGivenUp = true ∧
              tick.offered = none) := by
  have sound := Sound.reached settings earlier
  dsimp only
  generalize reached settings earlier = session at sound
  refine ⟨fun synced calls silent enough => ?_,
    fun unsynced present calls lasting => ⟨fun few => ?_, fun steady => ?_⟩,
    fun present now wire gone => tick_of_givenUp sound present gone⟩
  · have fading : Fading 0 session := .inr ⟨synced, .zero _⟩
    rcases fading.run sound silent with gone | ⟨_, counted⟩
    · exact gone
    · have few := counted.few
      change 0 + calls.countP Call.isTick ≤ 75 at few
      omega
  · exact present_of_few
      (.of_unsynced (lenient_early 0) sound present unsynced) lasting
      (by omega)
  · exact present_of_steady
      (.of_unsynced (lenient_fed 1) sound present unsynced) lasting steady

/-- Ticks on which nothing comes. -/
def silence (ticks : Nat) : List Call :=
  List.replicate ticks (.tick 20 ⟨[], none⟩)

theorem silence_succ (ticks : Nat) :
    silence (ticks + 1) = silence ticks ++ [.tick 20 ⟨[], none⟩] :=
  List.replicate_succ'

theorem run_silence_succ (session : Session) (ticks : Nat) :
    session.run (silence (ticks + 1)) =
      ((session.run (silence ticks)).tick 20 ⟨[], none⟩).outcome.session := by
  rw [silence_succ, run_append]
  rfl

theorem countP_silence (ticks : Nat) :
    (silence ticks).countP Call.isTick = ticks := by
  simp [silence, List.countP_replicate, Call.isTick]

theorem silent_of_mem_silence
    {ticks : Nat}
    {call : Call}
    (mem : call ∈ silence ticks) :
    call.Silent := by
  rw [List.eq_of_mem_replicate mem]
  exact ⟨rfl, rfl⟩

/--
The empty snapshot is announced, and between twenty ticks of silence new
steps come once.
-/
def steppedOnce : List Call :=
  let steps :=
    numberedMessage 3 (StepReport.fields ⟨1, 0, 20, 4⟩ ++ StepRun.fields 5 [[19]])
  syncing.drop 5 ++ silence 10 ++ [.tick 20 ⟨[.datagram steps], none⟩] ++
    silence 10

/--
After 75 ticks of silence a session is there, with the next it is gone; new
steps in time keep it.
-/
theorem giving_up_silence :
    let silent := (reached Settings.standard syncing).run (silence 75)
    let tick := silent.tick 20 ⟨[], none⟩
    silent.stage = .synced ∧ tick.outcome.session.stage = .disconnected ∧
      tick.outcome.session.health.isGivenUp = true ∧ tick.offered = none ∧
      true ∈
        (reached Settings.standard (syncing.take 5)).judgements steppedOnce ∧
      ((reached Settings.standard (syncing.take 5)).run steppedOnce).stage ≠
        .disconnected := by
  dsimp only
  have synced : (reached Settings.standard syncing).stage = .synced := by
    decide +kernel
  have begins :
      (reached Settings.standard (syncing.take 5)).run (syncing.drop 5) =
        reached Settings.standard syncing := by
    rw [reached_append, List.take_append_drop]
  obtain ⟨unsynced, there⟩ :
      (reached Settings.standard (syncing.take 5)).stage ≠ .synced ∧
        (reached Settings.standard (syncing.take 5)).stage ≠
          .disconnected := by
    decide +kernel
  have lasts :=
    (giving_up Settings.standard (syncing.take 5)).2.1 unsynced there
  have present :
      ((reached Settings.standard syncing).run (silence 75)).stage ≠
        .disconnected := by
    have few :
        ((reached Settings.standard (syncing.take 5)).judgements
          (syncing.drop 5 ++ silence 75)).length < 76 := by
      refine Nat.lt_of_le_of_lt (length_judgements_le _ _) ?_
      rw [List.countP_append, countP_silence]
      decide
    have kept := (lasts _ (by decide +kernel)).1 few
    rw [run_append, begins] at kept
    exact kept
  have gone :=
    (giving_up Settings.standard syncing).1 synced (silence (75 + 1))
      (fun _ => silent_of_mem_silence)
        (Nat.le_of_eq (countP_silence (75 + 1)).symm)
  rw [run_silence_succ] at gone
  have judgements :
      (reached Settings.standard (syncing.take 5)).judgements steppedOnce =
        List.replicate 10 false ++ [true] ++ List.replicate 10 false := by
    decide +kernel
  have kept :=
    (lasts steppedOnce (by decide +kernel)).2 (by rw [judgements]; decide)
  have decided := (giving_up Settings.standard (syncing ++ silence 75)).2.2
  rw [← reached_append] at decided
  obtain ⟨wasSynced, givenUp, nothing⟩ :=
    decided present 20 ⟨[], none⟩ gone
  refine ⟨wasSynced, gone, givenUp, nothing, ?_, kept⟩
  rw [judgements]
  decide

end StepSync.Session
