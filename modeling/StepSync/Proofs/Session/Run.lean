import StepSync.Proofs.Session.Settings
import StepSync.Session.Control
import StepSync.Session.Stepping
import StepSync.Session.Tick

namespace StepSync.Session

/-!
# Runs of a session

A run is a list of calls: ticks, datagrams that are fed in, and requests of the
application.  A tick is no single happening.  It begins, receives one datagram
after the other, and ends by judging the link and sending; `Call.events` takes a
call apart into such events, and `run_eq_after` says that nothing is lost by it.
What holds of a session after every event holds after every run.

Runs start with `create`, which gives a session for all settings.  A session that
is built in words is the same one (`create?_eq_some_iff`), so what is proved about
runs holds of it.
-/

/-- What the application can ask of a session between two ticks. -/
inductive Request where
  | requestConnect
  | beginJoin
  | assignJoinRequest (request : JoinRequest)
  | predict (payload : Octets)
  | readStep
  | disconnect
  | reset
  deriving Repr, DecidableEq

/-- One call from outside: a tick, a datagram fed in by hand, or a request. -/
inductive Call where
  | tick (now : Nat) (wire : Wire)
  | receive (datagram : Octets)
  | ask (request : Request)
  deriving Repr, DecidableEq

/--
What a call gives back; a tick also shows the datagram it offered to
the transport.
-/
inductive Answer where
  | done (result : Except Refusal Unit)
  | ticked (result : Except Refusal Unit) (offered : Option Octets)
  | predicted (result : Except Refusal StepId)
  | stepRead (result : Except Refusal (Option Step))

/-- Turn the outcome of an action into an answer and the session it leaves. -/
def answered
    {Result : Type}
    (answer : Except Refusal Result → Answer)
    (outcome : Outcome Result) :
    Answer × Session :=
  (answer outcome.result, outcome.session)

/-- Do what the application asks. -/
def ask (session : Session) : Request → Answer × Session
  | .requestConnect => answered .done (Action.requestConnect session)
  | .beginJoin => answered .done (Action.beginJoin session)
  | .assignJoinRequest request =>
      answered .done (Action.assignJoinRequest request session)
  | .predict payload => answered .predicted (Action.predict payload session)
  | .readStep => answered .stepRead (Action.readStep session)
  | .disconnect => answered .done (Action.disconnect session)
  | .reset => answered .done (Action.reset session)

/-- Answer one call. -/
def call (session : Session) : Call → Answer × Session
  | .tick now wire =>
      let tick := session.tick now wire
      (.ticked tick.outcome.result tick.offered, tick.outcome.session)
  | .receive datagram => answered .done (session.receive datagram)
  | .ask request => session.ask request

/-- The session that a run of calls leaves. -/
def run (session : Session) (calls : List Call) : Session :=
  calls.foldl (fun session call => (session.call call).2) session

/-- The session that a run leaves which starts with a new session. -/
def reached (settings : Settings) (calls : List Call) : Session :=
  (create settings).1.run calls

/-- Octets within a connection, behind its id and the seal that belongs to them. -/
def sealedDatagram
    (id : UInt8)
    (secret : UInt64)
    (covered : Octets) :
    Octets :=
  id :: (Octets.ofWord32 (Seal.make secret covered) ++ covered)

/-- A server's message with its number, on connection 7 with the secret 11. -/
def numberedMessage (number : UInt16) (fields : List Octets) : Octets :=
  sealedDatagram 7 11 (Octets.ofWord16 number ++ fields.flatten)

/-- A server's message outside any connection. -/
def unsealedMessage (fields : List Octets) : Octets :=
  noConnectionId :: (Octets.ofWord16 0 ++ fields.flatten)

/-- The shortest run to a synced session: the snapshot of the step 5 is empty. -/
def syncing : List Call :=
  [.ask .requestConnect,
    .receive
      (unsealedMessage (ConnectResponse.fields ⟨7, ConnectFlags.none, 11⟩)),
    .ask (.assignJoinRequest ⟨13, [0]⟩),
    .ask .beginJoin,
    .receive (numberedMessage 1 (JoinResponse.fields ⟨13, 0, 17, []⟩)),
    .receive (numberedMessage 2 (DownloadResponse.fields ⟨0, 5, 0, 1⟩))]

theorem settings_idle (settings : Settings) :
    (idle settings).settings = settings :=
  rfl

theorem session_create (settings : Settings) :
    (create settings).1 = idle settings.clamp.1 := by
  unfold create
  generalize settings.clamp = clamped
  rfl

/--
Where settings can be brought into range in words, the session is that
of all settings.
-/
theorem create?_eq_some_iff
    {settings : Settings}
    {created : Session × List Notice} :
    create? settings = some created ↔
      settings.clamp?.isSome ∧ created = create settings := by
  constructor
  · intro built
    obtain ⟨clamped, inRange, rfl⟩ := Option.map_eq_some_iff.mp built
    rw [create, ← Settings.eq_clamp_of_clamp? inRange, inRange]
    exact ⟨rfl, rfl⟩
  · rintro ⟨isInRange, rfl⟩
    obtain ⟨clamped, inRange⟩ := Option.isSome_iff_exists.mp isInRange
    rw [create?, create, inRange, Settings.eq_clamp_of_clamp? inRange]
    rfl

/--
The end of a tick: judge the link and, unless it is given up, send what is due.
-/
def endTick (session : Session) (now : Nat) (refusal : Option String) : Tick :=
  let prepared := Action.prepareSending now session
  match prepared.result with
  | .error failure =>
      ⟨⟨prepared.session, prepared.notices, .error failure⟩, [], none⟩
  | .ok none => ⟨⟨prepared.session, prepared.notices, .ok ()⟩, [], none⟩
  | .ok (some datagram) =>
      let concluded :=
        Action.concludeSending datagram refusal prepared.session
      ⟨{ concluded with notices := prepared.notices ++ concluded.notices },
        [], some datagram⟩

/-- What happens to a session in one piece. -/
inductive Event where
  | tickBegun (now : Nat)
  | received (datagram : Octets)
  | tickEnded (now : Nat) (refusal : Option String)
  | asked (request : Request)
  deriving Repr, DecidableEq

/-- The session that one event leaves. -/
def after (session : Session) : Event → Session
  | .tickBegun now => (Action.beginTick now session).session
  | .received datagram => (session.receive datagram).session
  | .tickEnded now refusal => (session.endTick now refusal).outcome.session
  | .asked request => (session.ask request).2

/-- The beginning of a tick sets the clock and measures, and does nothing else. -/
theorem session_beginTick (now : Nat) (session : Session) :
    ∃ metrics,
      (Action.beginTick now session).session =
        { session with
          lastTick := some now
          now := now
          tickCount := session.tickCount + 1
          metrics := metrics } := by
  simp only [Action.beginTick, Action.measureTick, Action.session_bind,
    Action.result_bind, Action.current_apply]
  cases session.lastTick <;> exact ⟨_, rfl⟩

/-- The datagrams that a tick looks at, each cut to the greatest length. -/
def datagrams : List Arrival → List Octets
  | .datagram octets :: left =>
      if octets.isEmpty then []
      else octets.take mostDatagramOctets :: datagrams left
  | _ => []

/-- The failure of the transport that ends a tick's receiving, if one does. -/
def failure? : List Arrival → Option String
  | [] => none
  | .failure message :: _ => some message
  | .datagram octets :: left =>
      if octets.isEmpty then none else failure? left

/-- The events of a tick; a failure of the transport takes the end away. -/
def Wire.events (wire : Wire) (now : Nat) : List Event :=
  .tickBegun now :: (datagrams wire.arrivals).map Event.received ++
    match failure? wire.arrivals with
    | none => [.tickEnded now wire.refusal]
    | some _ => []

/-- The events of a call. -/
def Call.events : Call → List Event
  | .tick now wire => wire.events now
  | .receive datagram => [.received datagram]
  | .ask request => [.asked request]

/-- The session that a run of events leaves. -/
def afterAll (session : Session) (events : List Event) : Session :=
  events.foldl after session

@[simp] theorem afterAll_nil (session : Session) :
    session.afterAll [] = session :=
  rfl

@[simp] theorem afterAll_cons
    (session : Session)
    (event : Event)
    (events : List Event) :
    session.afterAll (event :: events) =
      (session.after event).afterAll events :=
  rfl

theorem afterAll_append
    (session : Session)
    (first second : List Event) :
    session.afterAll (first ++ second) =
      (session.afterAll first).afterAll second :=
  List.foldl_append

/-- A tick receives its datagrams one after the other. -/
theorem session_receiveAll (arrivals : List Arrival) (session : Session) :
    (receiveAll arrivals session).outcome.session =
      session.afterAll ((datagrams arrivals).map .received) := by
  induction arrivals generalizing session with
  | nil => rfl
  | cons arrival left inductionHypothesis =>
      cases arrival with
      | failure message => rfl
      | datagram octets =>
          by_cases empty : octets.isEmpty
          · simp [receiveAll, datagrams, empty]
          · simp only [receiveAll, datagrams, empty, Bool.false_eq_true,
              ↓reduceIte, List.map_cons, afterAll_cons]
            exact inductionHypothesis _

/-- Receiving is refused exactly when the transport fails. -/
theorem result_receiveAll (arrivals : List Arrival) (session : Session) :
    (receiveAll arrivals session).outcome.result =
      match failure? arrivals with
      | none => .ok ()
      | some message => .error (.transport message) := by
  induction arrivals generalizing session with
  | nil => rfl
  | cons arrival left inductionHypothesis =>
      cases arrival with
      | failure message => rfl
      | datagram octets =>
          by_cases empty : octets.isEmpty
          · simp [receiveAll, failure?, empty]
          · simp only [receiveAll, failure?, empty, Bool.false_eq_true,
              ↓reduceIte]
            exact inductionHypothesis _

/--
A tick whose receiving succeeds ends as its end says, and offers
what that offers.
-/
theorem tick_of_received
    {wire : Wire}
    (received : failure? wire.arrivals = none)
    (session : Session)
    (now : Nat) :
    let ended :=
      (session.afterAll
        (.tickBegun now :: (datagrams wire.arrivals).map .received)).endTick
          now wire.refusal
    (session.tick now wire).outcome.session = ended.outcome.session ∧
      (session.tick now wire).outcome.result = ended.outcome.result ∧
      (session.tick now wire).offered = ended.offered := by
  have succeeds :=
    result_receiveAll wire.arrivals (Action.beginTick now session).session
  have leaves :=
    session_receiveAll wire.arrivals (Action.beginTick now session).session
  rw [received] at succeeds
  simp only [afterAll_cons, after, ← leaves]
  simp only [tick, endTick, succeeds]
  split <;> simp_all

/-- A tick whose receiving fails ends there, and offers nothing. -/
theorem tick_of_failure
    {wire : Wire}
    {message : String}
    (fails : failure? wire.arrivals = some message)
    (session : Session)
    (now : Nat) :
    (session.tick now wire).outcome.session =
        session.afterAll
          (.tickBegun now :: (datagrams wire.arrivals).map .received) ∧
      (session.tick now wire).outcome.result =
        .error (.transport message) ∧
      (session.tick now wire).offered = none := by
  have refused :=
    result_receiveAll wire.arrivals (Action.beginTick now session).session
  have leaves :=
    session_receiveAll wire.arrivals (Action.beginTick now session).session
  rw [fails] at refused
  simp only [afterAll_cons, after, ← leaves]
  simp [tick, refused]

/-- A call leaves what its events leave. -/
theorem session_call (session : Session) (call : Call) :
    (session.call call).2 = session.afterAll call.events := by
  cases call with
  | receive datagram => rfl
  | ask request => rfl
  | tick now wire =>
      cases outcome : failure? wire.arrivals with
      | none =>
          have ended := (tick_of_received outcome session now).1
          simp only [Session.call, ended, Call.events, Wire.events, outcome,
            List.cons_append, afterAll_cons, afterAll_append, afterAll_nil]
          rfl
      | some message =>
          have ended := (tick_of_failure outcome session now).1
          simp only [Session.call, ended, Call.events, Wire.events, outcome,
            List.append_nil]

/-- The events of a run. -/
def eventsOf (calls : List Call) : List Event :=
  calls.flatMap Call.events

/-- A run leaves what its events leave. -/
theorem run_eq_afterAll (session : Session) (calls : List Call) :
    session.run calls = session.afterAll (eventsOf calls) := by
  induction calls generalizing session with
  | nil => rfl
  | cons call calls inductionHypothesis =>
      have rest := inductionHypothesis (session.call call).2
      simp only [run, List.foldl_cons] at rest ⊢
      rw [rest, session_call, eventsOf, eventsOf, List.flatMap_cons,
        afterAll_append]

/-- What every event keeps, a run of events keeps. -/
theorem keeps_afterAll
    (Kept : Session → Prop)
    (keeps : ∀ session event, Kept session → Kept (session.after event))
    {session : Session}
    (kept : Kept session)
    (events : List Event) :
    Kept (session.afterAll events) := by
  induction events generalizing session with
  | nil => exact kept
  | cons event events inductionHypothesis =>
      exact inductionHypothesis (keeps session event kept)

/--
Somebody who looks on: `note` adds to what was seen so far, from the session as
it is and the event that comes next.
-/
def watch
    {Seen : Type}
    (note : Seen → Session → Event → Seen) :
    Seen → Session → List Event → Seen
  | seen, _, [] => seen
  | seen, session, event :: events =>
      watch note (note seen session event) (session.after event) events

/--
Who looks on at one run after another goes on from what was seen of the first.
-/
theorem watch_append
    {Seen : Type}
    (note : Seen → Session → Event → Seen)
    (seen : Seen)
    (session : Session)
    (first second : List Event) :
    watch note seen session (first ++ second) =
      watch note (watch note seen session first) (session.afterAll first)
        second := by
  induction first generalizing seen session with
  | nil => rfl
  | cons event events inductionHypothesis => exact inductionHypothesis _ _

/--
What every event keeps of a session and of what was seen, a run of events keeps.
-/
theorem keeps_watch
    {Seen : Type}
    {note : Seen → Session → Event → Seen}
    (Kept : Seen → Session → Prop)
    (keeps : ∀ seen session event, Kept seen session →
      Kept (note seen session event) (session.after event))
    {seen : Seen}
    {session : Session}
    (kept : Kept seen session)
    (events : List Event) :
    Kept (watch note seen session events) (session.afterAll events) := by
  induction events generalizing seen session with
  | nil => exact kept
  | cons event events inductionHypothesis =>
      exact inductionHypothesis (keeps seen session event kept)

end StepSync.Session
