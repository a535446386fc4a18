import StepSync.Proofs.Session.Inert

namespace StepSync.Session

/-!
# Noninterference

Who does not know the connection's secret can count on nothing but being counted.
Into a run of calls inert datagrams may be put at any points, fed in by hand or
among what arrives in a tick: the calls of the run answer as if they were not
there.
-/

/--
A part of a list into which datagrams were put: one of its own, or a datagram.
-/
inductive Entry (Own : Type) where
  | own (part : Own)
  | inserted (datagram : Octets)
  deriving Repr, DecidableEq

namespace Entry

/-- The list without what was put in. -/
def withoutInserted {Own : Type} (entries : List (Entry Own)) : List Own :=
  entries.filterMap fun
    | own part => some part
    | inserted _ => none

/-- What arrives, inserted datagrams included. -/
def arrivals (entries : List (Entry Arrival)) : List Arrival :=
  entries.map fun
    | own arrival => arrival
    | inserted datagram => .datagram datagram

end Entry

/-- A call; among what arrives in a tick there may be inserted datagrams. -/
inductive MixedCall where
  | tick (now : Nat) (entries : List (Entry Arrival)) (refusal : Option String)
  | receive (datagram : Octets)
  | ask (request : Request)
  deriving Repr, DecidableEq

namespace MixedCall

/-- The call with the inserted datagrams. -/
def mixed : MixedCall → Call
  | tick now entries refusal => .tick now ⟨Entry.arrivals entries, refusal⟩
  | receive datagram => .receive datagram
  | ask request => .ask request

/-- The call without the inserted datagrams. -/
def plain : MixedCall → Call
  | tick now entries refusal =>
      .tick now ⟨Entry.withoutInserted entries, refusal⟩
  | receive datagram => .receive datagram
  | ask request => .ask request

end MixedCall

/-- The calls of a run with the inserted datagrams, some of them fed in by hand. -/
def mixedCalls (entries : List (Entry MixedCall)) : List Call :=
  entries.map fun
    | .own call => call.mixed
    | .inserted datagram => .receive datagram

/-- The calls of a run without the inserted datagrams. -/
def plainCalls (entries : List (Entry MixedCall)) : List Call :=
  (Entry.withoutInserted entries).map MixedCall.plain

/-- The answers to the calls of a run. -/
def answers : Session → List Call → List Answer
  | _, [] => []
  | session, call :: calls =>
      (session.call call).1 :: answers (session.call call).2 calls

/-- The answers to a run's own calls, while datagrams are put in between. -/
def ownAnswers : Session → List (Entry MixedCall) → List Answer
  | _, [] => []
  | session, .own call :: entries =>
      (session.call call.mixed).1 ::
        ownAnswers (session.call call.mixed).2 entries
  | session, .inserted datagram :: entries =>
      ownAnswers (session.receive datagram).session entries

/--
What is inserted among arrivals is inert when it is received.  An empty datagram
is not among them, because it would end the receiving.
-/
def InertArrivals : Session → List (Entry Arrival) → Prop
  | _, [] => True
  | session, .inserted datagram :: entries =>
      datagram ≠ [] ∧
        session.Inert (datagram.take mostDatagramOctets) ∧
        InertArrivals
          (session.receive (datagram.take mostDatagramOctets)).session entries
  | session, .own (.datagram datagram) :: entries =>
      datagram = [] ∨
        InertArrivals
          (session.receive (datagram.take mostDatagramOctets)).session entries
  | _, .own (.failure _) :: _ => True

/-- What is inserted into a call is inert when it is received. -/
def InertIn (session : Session) : MixedCall → Prop
  | .tick now entries _ =>
      InertArrivals (Action.beginTick now session).session entries
  | .receive _ => True
  | .ask _ => True

/-- Every datagram that is inserted into a run is inert when it is received. -/
def InertAlong : Session → List (Entry MixedCall) → Prop
  | _, [] => True
  | session, .own call :: entries =>
      session.InertIn call ∧
        InertAlong (session.call call.mixed).2 entries
  | session, .inserted datagram :: entries =>
      session.Inert datagram ∧
        InertAlong (session.receive datagram).session entries

/-- What a tick answers and leaves, by its events. -/
theorem call_tick (session : Session) (now : Nat) (wire : Wire) :
    session.call (.tick now wire) =
      let received :=
        (Action.beginTick now session).session.afterAll
          ((datagrams wire.arrivals).map .received)
      match failure? wire.arrivals with
      | some message =>
          (.ticked (.error (.transport message)) none, received)
      | none =>
          let ended := received.endTick now wire.refusal
          (.ticked ended.outcome.result ended.offered,
            ended.outcome.session) := by
  cases outcome : failure? wire.arrivals with
  | some message =>
      obtain ⟨leaves, result, offered⟩ := tick_of_failure outcome session now
      rw [Session.call, leaves, result, offered]
      rfl
  | none =>
      obtain ⟨leaves, result, offered⟩ := tick_of_received outcome session now
      rw [Session.call, leaves, result, offered]
      rfl

/-- The answers are the same, and the sessions after them alike. -/
def AnswerAlike (first second : Answer × Session) : Prop :=
  first.1 = second.1 ∧ Alike first.2 second.2

namespace Alike

variable {noisy plain : Session}

/-- Alike sessions are alike after the same arrivals, but for inert ones. -/
theorem arrivals
    (alike : Alike noisy plain)
    {entries : List (Entry Arrival)}
    (inert : noisy.InertArrivals entries) :
    failure? (Entry.arrivals entries) =
        failure? (Entry.withoutInserted entries) ∧
      Alike
        (noisy.afterAll
          ((datagrams (Entry.arrivals entries)).map .received))
        (plain.afterAll
          ((datagrams (Entry.withoutInserted entries)).map .received)) := by
  induction entries generalizing noisy plain with
  | nil => exact ⟨rfl, alike⟩
  | cons entry entries inductionHypothesis =>
      cases entry with
      | inserted datagram =>
          obtain ⟨notEmpty, isInert, rest⟩ := inert
          have still := isInert.receive.trans alike
          have looked : datagram.isEmpty = false := by
            rw [List.isEmpty_eq_false_iff]
            exact notEmpty
          have continues := inductionHypothesis still rest
          simp only [Entry.arrivals, Entry.withoutInserted, List.map_cons,
            List.filterMap_cons, failure?, datagrams, looked,
            Bool.false_eq_true, ↓reduceIte, afterAll_cons] at continues ⊢
          exact continues
      | own arrival =>
          cases arrival with
          | failure message => exact ⟨rfl, alike⟩
          | datagram datagram =>
              by_cases empty : datagram.isEmpty
              · simp only [Entry.arrivals, Entry.withoutInserted,
                  List.map_cons, List.filterMap_cons, failure?, datagrams,
                  empty, ↓reduceIte, List.map_nil, afterAll_nil]
                exact ⟨trivial, alike⟩
              · have notEmpty : datagram ≠ [] :=
                  mt List.isEmpty_iff.mpr empty
                have rest := inert.resolve_left notEmpty
                have still :=
                  (alike.receive (datagram.take mostDatagramOctets)).session
                have continues := inductionHypothesis still rest
                simp only [Entry.arrivals, Entry.withoutInserted,
                  List.map_cons, List.filterMap_cons, failure?, datagrams,
                  empty, Bool.false_eq_true, ↓reduceIte, afterAll_cons]
                  at continues ⊢
                exact continues

/-- Alike sessions answer a tick alike, also when datagrams are put into one. -/
theorem tick
    (alike : Alike noisy plain)
    {now : Nat}
    {entries : List (Entry Arrival)}
    (inert :
      InertArrivals (Action.beginTick now noisy).session entries)
    (refusal : Option String) :
    AnswerAlike
      (noisy.call (.tick now ⟨Entry.arrivals entries, refusal⟩))
      (plain.call (.tick now ⟨Entry.withoutInserted entries, refusal⟩)) := by
  have begun := (Action.Blind.beginTick now noisy plain alike).session
  obtain ⟨fails, received⟩ := begun.arrivals inert
  rw [call_tick, call_tick, fails]
  cases failure? (Entry.withoutInserted entries) with
  | some message => exact ⟨rfl, received⟩
  | none =>
      obtain ⟨⟨concluded, sameResult⟩, sameOffer⟩ :=
        received.endTick now refusal
      have answered := congr (congrArg Answer.ticked sameResult) sameOffer
      exact ⟨answered, concluded⟩

/-- Alike sessions answer a call alike, also when datagrams are put into one. -/
theorem call
    (alike : Alike noisy plain)
    {call : MixedCall}
    (inert : noisy.InertIn call) :
    AnswerAlike (noisy.call call.mixed) (plain.call call.plain) := by
  cases call with
  | tick now entries refusal => exact alike.tick inert refusal
  | ask request => exact alike.ask request
  | receive datagram =>
      obtain ⟨received, same⟩ := alike.receive datagram
      exact ⟨congrArg Answer.done same, received⟩

/-- Inert datagrams in a run show in no answer, and leave an alike session. -/
theorem run
    (alike : Alike noisy plain)
    {entries : List (Entry MixedCall)}
    (inert : noisy.InertAlong entries) :
    noisy.ownAnswers entries = plain.answers (plainCalls entries) ∧
      Alike (noisy.run (mixedCalls entries))
        (plain.run (plainCalls entries)) := by
  induction entries generalizing noisy plain with
  | nil => exact ⟨rfl, alike⟩
  | cons entry entries inductionHypothesis =>
      cases entry with
      | inserted datagram =>
          obtain ⟨isInert, rest⟩ := inert
          exact inductionHypothesis (isInert.receive.trans alike) rest
      | own call =>
          obtain ⟨isInert, rest⟩ := inert
          obtain ⟨same, still⟩ := alike.call isInert
          obtain ⟨sameRest, alikeRest⟩ := inductionHypothesis still rest
          exact ⟨congr (congrArg List.cons same) sameRest, alikeRest⟩

end Alike

/--
An inert datagram changes nothing but the counts of arrivals.  So a run into which
any number of inert datagrams is put, at any points, gives the same answers as the
run without them: the same results, the same datagrams offered to the transport,
and the same authoritative steps.
-/
theorem noninterference (session : Session) :
    (∀ datagram, session.Inert datagram →
      Alike (session.receive datagram).session session) ∧
    ∀ entries, session.InertAlong entries →
      session.ownAnswers entries = session.answers (plainCalls entries) ∧
        Alike (session.run (mixedCalls entries))
          (session.run (plainCalls entries)) := by
  constructor
  · intro datagram inert
    exact inert.receive
  · intro entries inert
    exact (Alike.refl session).run inert

/-- The first authoritative steps, in the datagram with the number 3. -/
def firstSteps : Octets :=
  numberedMessage 3
    (StepReport.fields ⟨1, 0, 20, 4⟩ ++ StepRun.fields 5 [[19], [23]])

/-- A datagram is repeated, another one forged, and a handshake is tried. -/
def attacked : List (Entry MixedCall) :=
  [.own (.receive firstSteps),
    .inserted firstSteps,
    .own (.tick 20 [.inserted [9, 0, 0, 0], .own (.datagram [7, 0])] none),
    .inserted
      (unsealedMessage (ConnectResponse.fields ⟨9, ConnectFlags.none, 11⟩)),
    .own (.ask .readStep)]

theorem noninterference_attacked :
    let session := reached Settings.standard syncing
    session.ownAnswers attacked = session.answers (plainCalls attacked) ∧
      Alike (session.run (mixedCalls attacked))
        (session.run (plainCalls attacked)) := by
  intro session
  have inert : session.InertAlong attacked := by
    refine ⟨trivial, ?_, ⟨?_, ?_, .inr trivial⟩, ?_, trivial, trivial⟩
    · exact .stale 7 _ 3 _ (by decide) rfl (by decide +kernel)
    · decide
    · exact .foreign 9 rfl (by decide) (by decide +kernel)
    · exact .outOfBand rfl fun asked => absurd asked (by decide +kernel)
  exact (noninterference session).2 attacked inert

end StepSync.Session
