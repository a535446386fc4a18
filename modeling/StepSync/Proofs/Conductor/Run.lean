import StepSync.Conductor.Basic
import StepSync.Proofs.Session.Run

namespace StepSync.Conductor

/-!
# Runs of a conductor

A run is a list of calls: wishes of the application, updates, and what the
application does to the session between two updates.  Whatever the call, the session
goes through events of its own (`session_call`).  So what holds of a session after
any events holds of the session that is conducted (`exists_events`).

As for sessions, a conductor that is built in words is the one that runs start with
(`create?_eq_some_iff`).
-/

/-- What the application does to a conducted session itself. -/
inductive Deed where
  | receive (datagram : Octets)
  | predict (payload : Octets)
  | readStep
  deriving Repr, DecidableEq

/-- The deed as a call of the session. -/
def Deed.call : Deed → Session.Call
  | .receive datagram => .receive datagram
  | .predict payload => .ask (.predict payload)
  | .readStep => .ask .readStep

/-- One call from outside. -/
inductive Call where
  | joinGame (localIndices : Octets)
  | quitGame
  | reset
  | reinit
  | update (now : Nat) (wire : Session.Wire)
  | deed (deed : Deed)
  deriving Repr, DecidableEq

/-- What a call gives back; an update also shows what it did to the transport. -/
inductive Answer where
  | done
  | updated
      (result : Except Refusal Unit)
      (left : List Session.Arrival)
      (offered : Option Octets)
  | deed (answer : Session.Answer)

/-- Answer one call. -/
def call (conductor : Conductor) : Call → Answer × Conductor
  | .joinGame localIndices => (.done, (conductor.joinGame localIndices).1)
  | .quitGame => (.done, conductor.quitGame.1)
  | .reset => (.done, conductor.reset.1)
  | .reinit => (.done, conductor.reinit.1)
  | .update now wire =>
      let update := conductor.update now wire
      (.updated update.result update.left update.offered, update.conductor)
  | .deed deed =>
      let (answer, session) := conductor.session.call deed.call
      (.deed answer, { conductor with session := session })

/-- The conductor that a run of calls leaves. -/
def run (conductor : Conductor) (calls : List Call) : Conductor :=
  calls.foldl (fun conductor call => (conductor.call call).2) conductor

/-- The conductor that a run leaves which starts with a new conductor. -/
def reached (settings : Settings) (calls : List Call) : Conductor :=
  (create settings).1.run calls

@[simp] theorem run_cons
    (conductor : Conductor)
    (call : Call)
    (calls : List Call) :
    conductor.run (call :: calls) = (conductor.call call).2.run calls :=
  rfl

theorem run_append
    (conductor : Conductor)
    (first second : List Call) :
    conductor.run (first ++ second) = (conductor.run first).run second :=
  List.foldl_append

theorem create_fst (settings : Settings) :
    (create settings).1 =
      ⟨(Session.create settings).1, .fresh, .fresh, 1⟩ := by
  unfold create
  generalize Session.create settings = created
  rfl

/-- Where there is a session in words, its conductor is that of all settings. -/
theorem create?_eq_some_iff
    {settings : Settings}
    {created : Conductor × List Notice} :
    create? settings = some created ↔
      settings.clamp?.isSome ∧ created = create settings := by
  rw [create?, Option.map_eq_some_iff]
  constructor
  · rintro ⟨session, built, rfl⟩
    obtain ⟨isInRange, rfl⟩ := Session.create?_eq_some_iff.mp built
    exact ⟨isInRange, rfl⟩
  · rintro ⟨isInRange, rfl⟩
    exact ⟨_, Session.create?_eq_some_iff.mpr ⟨isInRange, rfl⟩, rfl⟩

/-- What every call keeps, a run keeps. -/
theorem keeps_run
    (Kept : Conductor → Prop)
    (keeps : ∀ conductor call, Kept conductor → Kept (conductor.call call).2)
    {conductor : Conductor}
    (kept : Kept conductor)
    (calls : List Call) :
    Kept (conductor.run calls) := by
  induction calls generalizing conductor with
  | nil => exact kept
  | cons call calls inductionHypothesis =>
      exact inductionHypothesis (keeps conductor call kept)

/-- What the conductor asks of the session on the way to its goal, if anything. -/
def wish? (conductor : Conductor) : Option Session.Request :=
  if conductor.standing = conductor.goal then none
  else
    match conductor.goal, conductor.session.stage with
    | .synced, .idle => some .requestConnect
    | .synced, .connected => some .beginJoin
    | _, _ => none

/-- The step towards the goal does to the session what the conductor wishes. -/
theorem session_advance (conductor : Conductor) :
    conductor.advance.1.session =
      conductor.session.afterAll (conductor.wish?.toList.map .asked) := by
  unfold advance wish?
  by_cases arrived : conductor.standing = conductor.goal
  · simp only [arrived, ↓reduceIte, Option.toList_none, List.map_nil,
      Session.afterAll_nil]
  · simp only [arrived, ↓reduceIte]
    cases goal : conductor.goal with
    | synced => cases stage : conductor.session.stage <;> rfl
    | cleared => rfl
    | fresh => rfl
    | renewed => rfl
    | disconnected => rfl

/--
The update finds the session disconnected, at rest or without a goal, and
does not tick it.
-/
def Idles (conductor : Conductor) : Prop :=
  conductor.session.stage = .disconnected ∨ conductor.standing = .cleared ∨
    conductor.goal = .fresh

instance (conductor : Conductor) : Decidable conductor.Idles := by
  unfold Idles
  infer_instance

/-- The conductor with the session after a tick. -/
def ticked (conductor : Conductor) (now : Nat) (wire : Session.Wire) :
    Conductor :=
  { conductor with session := (conductor.session.tick now wire).outcome.session }

/-- An update of a disconnected session notes that, and does nothing else. -/
theorem update_of_disconnected
    {conductor : Conductor}
    (gone : conductor.session.stage = .disconnected)
    (now : Nat)
    (wire : Session.Wire) :
    let update := conductor.update now wire
    update.conductor = { conductor with standing := .disconnected } ∧
      update.left = wire.arrivals ∧
      update.offered = none ∧
      update.result = .ok () := by
  dsimp only
  rw [update, if_pos gone]
  exact ⟨rfl, rfl, rfl, rfl⟩

/-- An update that does not tick the session still goes on towards the goal. -/
theorem update_of_unticked
    {conductor : Conductor}
    (present : conductor.session.stage ≠ .disconnected)
    (still : conductor.standing = .cleared ∨ conductor.goal = .fresh)
    (now : Nat)
    (wire : Session.Wire) :
    let update := conductor.update now wire
    update.conductor = conductor.advance.1 ∧
      update.left = wire.arrivals ∧
      update.offered = none ∧
      update.result = .ok () := by
  dsimp only
  rw [update, if_neg present, if_pos still]
  exact ⟨rfl, rfl, rfl, rfl⟩

/--
Otherwise an update ticks the session, and goes on towards the goal if the
tick went well.
-/
theorem update_of_ticked
    {conductor : Conductor}
    (active : ¬conductor.Idles)
    (now : Nat)
    (wire : Session.Wire) :
    let update := conductor.update now wire
    let tick := conductor.session.tick now wire
    update.left = tick.left ∧
      update.offered = tick.offered ∧
      update.result = tick.outcome.result ∧
      update.conductor =
        match tick.outcome.result with
        | .ok _ => (conductor.ticked now wire).advance.1
        | .error _ => conductor.ticked now wire := by
  unfold Idles at active
  rw [not_or] at active
  dsimp only
  rw [update, if_neg active.1, if_neg active.2]
  cases result : (conductor.session.tick now wire).outcome.result <;>
    simp [result, ticked]

/-- The events that an update brings to the session. -/
def updateEvents (conductor : Conductor) (now : Nat) (wire : Session.Wire) :
    List Session.Event :=
  if conductor.session.stage = .disconnected then []
  else if conductor.Idles then conductor.wish?.toList.map .asked
  else
    wire.events now ++
      match (conductor.session.tick now wire).outcome.result with
      | .ok _ => (conductor.ticked now wire).wish?.toList.map .asked
      | .error _ => []

/-- The events that a call brings to the session. -/
def sessionEvents (conductor : Conductor) : Call → List Session.Event
  | .joinGame localIndices =>
      [.asked (.assignJoinRequest ⟨conductor.nextNonce, localIndices⟩)]
  | .quitGame => [.asked .disconnect]
  | .reset | .reinit => [.asked .reset]
  | .update now wire => conductor.updateEvents now wire
  | .deed deed => deed.call.events

theorem session_update
    (conductor : Conductor)
    (now : Nat)
    (wire : Session.Wire) :
    (conductor.update now wire).conductor.session =
      conductor.session.afterAll (conductor.updateEvents now wire) := by
  unfold updateEvents
  by_cases gone : conductor.session.stage = .disconnected
  · rw [if_pos gone, (update_of_disconnected gone now wire).1]
    rfl
  · rw [if_neg gone]
    by_cases idles : conductor.Idles
    · have still := idles.resolve_left gone
      rw [if_pos idles, (update_of_unticked gone still now wire).1,
        session_advance]
    · have ticks : (conductor.ticked now wire).session =
          conductor.session.afterAll (wire.events now) :=
        Session.session_call conductor.session (.tick now wire)
      rw [if_neg idles, (update_of_ticked idles now wire).2.2.2]
      cases (conductor.session.tick now wire).outcome.result with
      | error refusal =>
          rw [List.append_nil]
          exact ticks
      | ok _ =>
          dsimp only
          rw [session_advance, ticks, Session.afterAll_append]

/-- A call leaves the session that its events leave. -/
theorem session_call (conductor : Conductor) (call : Call) :
    (conductor.call call).2.session =
      conductor.session.afterAll (conductor.sessionEvents call) := by
  cases call with
  | joinGame localIndices => rfl
  | quitGame => rfl
  | reset => rfl
  | reinit => rfl
  | update now wire => exact conductor.session_update now wire
  | deed deed => exact Session.session_call conductor.session deed.call

/-- A conducted session has gone through events of its own. -/
theorem exists_events (settings : Settings) (calls : List Call) :
    ∃ events,
      (reached settings calls).session =
        (Session.create settings).1.afterAll events := by
  rw [reached, create_fst]
  generalize (Session.create settings).1 = first
  refine keeps_run
    (fun conductor => ∃ events, conductor.session = first.afterAll events)
    (fun conductor call reaches => ?_) ⟨[], rfl⟩ calls
  obtain ⟨events, reaches⟩ := reaches
  refine ⟨events ++ conductor.sessionEvents call, ?_⟩
  rw [session_call, reaches, Session.afterAll_append]

end StepSync.Conductor
