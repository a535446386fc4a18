import StepSync.Proofs.Session.Outgoing
import StepSync.Proofs.Session.Unchanged

namespace StepSync

/-!
# Capacities

How many steps a session holds, predicted ones and authoritative ones, and how
many samples its lag trace keeps, was settled when it was made.  No event changes
that, starting over included.
-/

/-- A queue takes a step without growing wider. -/
theorem StepQueue.capacity_write
    {queue longer : StepQueue}
    {id : StepId}
    {payload : Octets}
    (written : queue.write id payload = .ok longer) :
    longer.capacity = queue.capacity := by
  unfold write at written
  split at written
  · cases written
  · split at written
    · cases written
    · obtain rfl := Except.ok.inj written
      rfl

/-- A queue that completed steps are handed to does not grow wider. -/
theorem ReceiveWindow.capacity_handOver
    (slots : List (Option Octets))
    (id : StepId)
    (queue : StepQueue) :
    (handOver slots id queue).2.capacity = queue.capacity := by
  induction slots generalizing id queue with
  | nil => rfl
  | cons slot slots inductionHypothesis =>
      cases slot with
      | none => rfl
      | some payload =>
          rw [handOver]
          cases written : queue.write id payload with
          | error failure => rfl
          | ok longer =>
              exact (inductionHypothesis (id + 1) longer).trans
                (StepQueue.capacity_write written)

namespace Inbound

/-- Releasing what waits does not widen the queue of ready steps. -/
theorem capacity_release
    {inbound released : Inbound}
    {moved : Nat}
    (releases : inbound.release = .ok (moved, released)) :
    released.ready.capacity = inbound.ready.capacity := by
  unfold release ReceiveWindow.releaseInto at releases
  dsimp only at releases
  by_cases apart : inbound.ready.nextId ≠ inbound.window.expected
  · rw [if_pos apart] at releases
    cases releases
  · rw [if_neg apart] at releases
    obtain ⟨_, rfl⟩ := Prod.mk.inj (Except.ok.inj releases)
    exact ReceiveWindow.capacity_handOver _ _ _

/-- Steps from the server are taken into a queue as wide as before. -/
theorem capacity_takeAll (inbound : Inbound) (steps : List Step) :
    (inbound.takeAll steps).ready.capacity = inbound.ready.capacity := by
  unfold takeAll
  dsimp only
  split
  case h_1 => rfl
  case h_2 moved released releases =>
    exact (capacity_release releases).trans rfl

/-- Reading a step makes room, but no wider queue. -/
theorem capacity_read
    {inbound : Inbound}
    {reading : Reading}
    (reads : inbound.read = some reading) :
    reading.inbound.ready.capacity = inbound.ready.capacity := by
  have shorter {step : Step} {ready : StepQueue}
      (taken : inbound.ready.read = some (step, ready)) :
      ready.capacity = inbound.ready.capacity := by
    unfold StepQueue.read at taken
    split at taken
    · cases taken
    · obtain ⟨_, rfl⟩ := Prod.mk.inj (Option.some.inj taken)
      rfl
  unfold read at reads
  split at reads
  case h_1 => cases reads
  case h_2 step ready taken =>
    dsimp only at reads
    split at reads
    · obtain rfl := Option.some.inj reads
      exact shorter taken
    · split at reads
      case h_1 moved refilled releases =>
        obtain rfl := Option.some.inj reads
        exact (capacity_release releases).trans (shorter taken)
      case h_2 =>
        obtain rfl := Option.some.inj reads
        exact shorter taken

end Inbound

namespace Situation

/-- How many steps are held at most, predicted ones and authoritative ones. -/
def capacities (situation : Situation) : Nat × Nat :=
  (situation.outbound.predicted.capacity, situation.inbound.ready.capacity)

theorem capacities_finishDownload (situation : Situation) :
    situation.finishDownload.capacities = situation.capacities := by
  unfold finishDownload
  split
  · rfl
  · split <;> rfl

/-- Nothing that a server says makes room for more steps. -/
theorem capacities_accept (situation : Situation) (delivery : Delivery) :
    (situation.accept delivery).capacities = situation.capacities := by
  cases delivery with
  | nothing => rfl
  | outOfSlots => rfl
  | report report => rfl
  | steps report steps =>
      exact congrArg (Prod.mk _) (Inbound.capacity_takeAll _ steps)
  | connection response =>
      simp only [accept, acceptConnection]
      split <;> rfl
  | membership response =>
      simp only [accept, acceptMembership]
      split <;> rfl
  | download response =>
      simp only [accept, acceptDownload]
      split
      · exact capacities_finishDownload _
      · rfl
  | part channel chunk =>
      simp only [accept, acceptPart]
      split
      · rfl
      · split
        · rfl
        · split
          · rfl
          · exact capacities_finishDownload _

/-- Nothing that the application asks for makes room for more steps. -/
theorem capacities_ask (situation : Situation) (request : Session.Request) :
    (situation.ask request).capacities = situation.capacities := by
  cases request with
  | requestConnect =>
      simp only [ask]
      split <;> rfl
  | beginJoin =>
      simp only [ask]
      split <;> rfl
  | assignJoinRequest request => rfl
  | disconnect => rfl
  | reset => rfl
  | predict payload =>
      simp only [ask, predict]
      split
      · rfl
      · split
        case h_1 => rfl
        case h_2 longer written =>
          exact congrArg (Prod.mk · _) (StepQueue.capacity_write written)
  | readStep =>
      simp only [ask, readStep]
      split
      case h_1 => rfl
      case h_2 reading reads =>
        exact congrArg (Prod.mk _) (Inbound.capacity_read reads)

end Situation

namespace Session

/-- No event makes room for more steps, the end of a tick included. -/
theorem capacities_after
    {taken : List Octets}
    {session : Session}
    (numbers : Numbers taken session)
    (event : Event) :
    (session.after event).situation.capacities =
      session.situation.capacities := by
  cases event with
  | tickBegun now => rw [after, situation_beginTick]
  | received datagram =>
      rw [after, situation_receive]
      exact Situation.capacities_accept _ _
  | asked request =>
      rw [after, situation_ask]
      exact Situation.capacities_ask _ _
  | tickEnded now refusal =>
      have predicted := (endTick_cases numbers.composable numbers.coherent
        now refusal).1
      refine Prod.ext (congrArg StepQueue.capacity predicted) ?_
      rcases situation_endTick session now refusal with
        ⟨_, _, disconnected⟩ | sends
      · rw [after, disconnected]
        rfl
      · rw [after, sends.frame]
        rfl

/--
The settings say how many predicted steps a session holds; of authoritative ones
it holds as many as any.
-/
theorem capacities_afterAll (settings : Settings) (events : List Event) :
    ((create settings).1.afterAll events).situation.capacities =
      (settings.clamp.1.predictedSteps.toNat, Inbound.readyCapacity) := by
  have starts :
      ∃ taken, Numbers taken (create settings).1 ∧
        (create settings).1.situation.capacities =
          (settings.clamp.1.predictedSteps.toNat, Inbound.readyCapacity) := by
    refine ⟨_, numbers_afterAll settings [], ?_⟩
    rw [session_create]
    generalize settings.clamp.1 = clamped
    rfl
  obtain ⟨_, _, same⟩ := keeps_afterAll
    (fun session => ∃ taken, Numbers taken session ∧
      session.situation.capacities =
        (settings.clamp.1.predictedSteps.toNat, Inbound.readyCapacity))
    (fun session event ⟨_, numbers, same⟩ =>
      ⟨_, numbers.after event, (capacities_after numbers event).trans same⟩)
    starts events
  exact same

theorem traceCapacity_receive (session : Session) (datagram : Octets) :
    (session.receive datagram).session.traceCapacity =
      session.traceCapacity := by
  have accepted :
      (Action.acceptDatagram datagram
        (session.countArrival datagram)).session.traceCapacity =
          session.traceCapacity :=
    Action.Keeps.acceptDatagram datagram (session.countArrival datagram)
  unfold receive
  dsimp only
  split <;> exact accepted

/-- The application does not change how many samples are kept. -/
theorem traceCapacity_ask (session : Session) (request : Request) :
    (session.ask request).2.traceCapacity = session.traceCapacity := by
  by_cases startsOver : request = .reset
  · rw [startsOver]
    rfl
  · exact field_ask traceCapacity session startsOver

/-- No event changes how many samples are kept. -/
theorem traceCapacity_after (session : Session) (event : Event) :
    (session.after event).traceCapacity = session.traceCapacity := by
  cases event with
  | tickBegun now =>
      obtain ⟨_, begun⟩ := session_beginTick now session
      rw [after, begun]
      rfl
  | received datagram => exact traceCapacity_receive session datagram
  | tickEnded now refusal =>
      exact (field_endTick traceCapacity session now refusal).trans
        (Action.Keeps.judgeLink session)
  | asked request => exact traceCapacity_ask session request

/-- The lag trace of every session keeps as many samples as that of a new one. -/
theorem traceCapacity_afterAll (settings : Settings) (events : List Event) :
    ((create settings).1.afterAll events).traceCapacity =
      (create settings).1.traceCapacity :=
  keeps_afterAll
    (fun session => session.traceCapacity = (create settings).1.traceCapacity)
    (fun session event same => (traceCapacity_after session event).trans same)
    rfl events

end Session

end StepSync
