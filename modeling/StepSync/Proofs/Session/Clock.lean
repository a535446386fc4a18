import StepSync.Proofs.Session.Unchanged

namespace StepSync.Session

/-!
# The clock

Only the beginning of a tick sets the clock, so whatever a tick receives, it sends
with the time that it was called with (`now_received`).
-/

/-- A datagram leaves the clock alone. -/
theorem now_receive (session : Session) (datagram : Octets) :
    (session.receive datagram).session.now = session.now := by
  have accepted :
      (Action.acceptDatagram datagram
        (session.countArrival datagram)).session.now = session.now :=
    Action.Keeps.acceptDatagram datagram (session.countArrival datagram)
  unfold receive
  dsimp only
  split <;> exact accepted

/-- The beginning of a tick sets the clock. -/
theorem now_beginTick (now : Nat) (session : Session) :
    (Action.beginTick now session).session.now = now := by
  obtain ⟨_, begun⟩ := session_beginTick now session
  rw [begun]

/-- What a tick receives does not change the time that it was called with. -/
theorem now_received (session : Session) (now : Nat) (received : List Octets) :
    (session.afterAll
      (.tickBegun now :: received.map Event.received)).now = now := by
  have begun := now_beginTick now session
  rw [afterAll_cons, after]
  generalize (Action.beginTick now session).session = session at begun
  induction received generalizing session with
  | nil => exact begun
  | cons datagram received inductionHypothesis =>
      exact inductionHypothesis _ ((now_receive session datagram).trans begun)

end StepSync.Session
