import StepSync.Proofs.Session.Authoritative
import StepSync.Proofs.Session.Outgoing
import StepSync.Proofs.Steps.Holding

namespace StepSync.Session

/-!
# What the server is told

Each datagram of a synced session tells the server which authoritative steps have
come, and the server forgets these.  What it was told is true, and stays true: until
the buffers are anchored anew, nothing that was reported is lost or replaced
(`acknowledgement_binding`).

A step may be reported and later not be reported any more.  That happens when the
steps before it move on to the queue of ready ones and it cannot follow because the
queue is full: the first slot of the window has no bit in the mask.  It is the only
way in which a report is taken back (`acknowledgement_lasting`).
-/

/-- What a datagram tells the server, if it is one with steps. -/
def acknowledgementOf? (datagram : Octets) : Option Acknowledgement :=
  match ClientMessage.ofDatagram? datagram with
  | some (.steps expected laterMask _) => some ⟨expected, laterMask⟩
  | _ => none

/-- What the session tells the server in the datagram that an event offers. -/
def tells? (session : Session) : Event → Option Acknowledgement
  | .tickEnded now refusal =>
      (session.endTick now refusal).offered.bind acknowledgementOf?
  | _ => none

/-- No event of a run anchors the buffers. -/
def Unanchored : Session → List Event → Prop
  | _, [] => True
  | session, event :: events =>
      ¬session.Anchors event ∧ Unanchored (session.after event) events

instance decidableUnanchored :
    ∀ (session : Session) (events : List Event),
      Decidable (session.Unanchored events)
  | _, [] => inferInstanceAs (Decidable True)
  | session, event :: events =>
      have := decidableUnanchored (session.after event) events
      inferInstanceAs (Decidable
        (¬session.Anchors event ∧ Unanchored (session.after event) events))

/-- The stream of authoritative steps that a run of events shows. -/
def streamSeen (settings : Settings) (events : List Event) : StepStream :=
  watch noteStream (.anchoredAt 0) (create settings).1 events

namespace Passes

variable {stream laterStream : StepStream} {inbound later : Inbound}

theorem grows
    (passes : Passes stream inbound laterStream later)
    (faithful : Inbound.Faithful stream inbound) :
    Inbound.Grows stream inbound laterStream later := by
  cases passes with
  | unchanged => exact .refl stream inbound
  | taken steps => exact .takeAll faithful steps
  | read reading found => exact .read faithful found

theorem settled
    (passes : Passes stream inbound laterStream later)
    (faithful : Inbound.Faithful stream inbound)
    (before : inbound.Settled) :
    later.Settled := by
  cases passes with
  | unchanged => exact before
  | taken steps => exact Inbound.settled_takeAll faithful steps
  | read reading found => exact Inbound.settled_read faithful found

end Passes

section

variable {session : Session}

/-- What is seen of a session is faithful, and no step waits in it without need. -/
structure Tracks (stream : StepStream) (session : Session) : Prop where
  faithful : Inbound.Faithful stream session.inbound
  settled : session.inbound.Settled

theorem Tracks.after
    {stream : StepStream}
    (tracks : Tracks stream session)
    (event : Event) :
    Tracks (noteStream stream session event) (session.after event) := by
  refine ⟨faithful_after tracks.faithful event, ?_⟩
  rcases passes_after stream session event with
    ⟨_, first, _, anchored⟩ | ⟨_, passes⟩
  · rw [anchored]
    exact Inbound.settled_restart _ _
  · exact passes.settled tracks.faithful tracks.settled

theorem tracks_afterAll (settings : Settings) (events : List Event) :
    Tracks (streamSeen settings events)
      ((create settings).1.afterAll events) := by
  refine keeps_watch Tracks (fun _ _ event tracks => tracks.after event) ?_
    events
  rw [session_create]
  exact
    ⟨Inbound.faithful_anchored 0 rfl rfl, Inbound.settled_of_empty rfl⟩

/-- While nothing anchors them, authoritative steps only become more. -/
theorem Tracks.grows
    {stream : StepStream}
    (tracks : Tracks stream session)
    {events : List Event}
    (unanchored : session.Unanchored events) :
    Inbound.Grows stream session.inbound
      (watch noteStream stream session events)
      (session.afterAll events).inbound := by
  induction events generalizing stream session with
  | nil => exact .refl stream session.inbound
  | cons event events inductionHypothesis =>
      obtain ⟨first, rest⟩ := unanchored
      rcases passes_after stream session event with
        ⟨anchors, _⟩ | ⟨_, passes⟩
      · exact absurd anchors first
      · exact (passes.grows tracks.faithful).trans
          (inductionHypothesis (tracks.after event) rest)

/-- A session that composes what is due tells the server what there is to tell. -/
theorem acknowledgement_of_composable
    (composable : session.situation.Composable)
    (coherent : session.situation.Coherent)
    {event : Event}
    {acknowledgement : Acknowledgement}
    (tells : session.tells? event = some acknowledgement) :
    acknowledgement = session.inbound.acknowledgement := by
  cases event with
  | tickBegun now => cases tells
  | received datagram => cases tells
  | asked request => cases tells
  | tickEnded now refusal =>
      obtain ⟨datagram, offered, found⟩ := Option.bind_eq_some_iff.mp tells
      obtain ⟨_, ⟨nothing, _⟩ | ⟨message, due, offers, _⟩⟩ :=
        endTick_cases composable coherent now refusal
      · rw [nothing] at offered
        cases offered
      · obtain rfl := Option.some.inj (offers.symm.trans offered)
        have named := named_of_coherent coherent (present_of_due due)
        have decoded :
            ClientMessage.ofDatagram? (session.datagramOf message) =
              some message :=
          ofDatagram?_framed named (composable.fits due).1 _ _
        rw [acknowledgementOf?, decoded] at found
        cases message with
        | connect request => cases found
        | join request => cases found
        | requestState request => cases found
        | downloadStatus channel waitingFor laterMask => cases found
        | steps expected laterMask run =>
            obtain ⟨sameExpected, sameMask⟩ :=
              Situation.acknowledgement_of_due due
            rw [← Option.some.inj found, sameExpected, sameMask]
            rfl

end

/-- What a session tells the server is what there is to tell. -/
theorem acknowledgement_of_tells
    (settings : Settings)
    {events : List Event}
    {event : Event}
    {acknowledgement : Acknowledgement}
    (tells :
      ((create settings).1.afterAll events).tells? event =
        some acknowledgement) :
    acknowledgement =
      ((create settings).1.afterAll events).inbound.acknowledgement := by
  have numbers := numbers_afterAll settings events
  exact
    acknowledgement_of_composable numbers.composable numbers.coherent tells

/-- Between two anchorings authoritative steps only become more. -/
theorem grows_streamSeen
    (settings : Settings)
    {earlier later : List Event}
    (unanchored :
      ((create settings).1.afterAll earlier).Unanchored later) :
    Inbound.Grows (streamSeen settings earlier)
      ((create settings).1.afterAll earlier).inbound
      (streamSeen settings (earlier ++ later))
      ((create settings).1.afterAll (earlier ++ later)).inbound := by
  rw [streamSeen, streamSeen, watch_append, afterAll_append]
  exact (tracks_afterAll settings earlier).grows unanchored

/--
What the server was told of the authoritative steps was true, and it stays so: each
step that was reported is held, then and later, with the same payload.
-/
structure Binding
    (acknowledgement : Acknowledgement)
    (stream : StepStream)
    (inbound : Inbound)
    (laterStream : StepStream)
    (later : Inbound) :
    Prop where
  delivered : ∀ id : StepId,
    stream.anchor.toNat ≤ id.toNat →
      id.toNat < acknowledgement.expected.toNat →
        ∃ step ∈ inbound.delivered stream, step.id = id
  bits : ∀ index, index < 64 →
    acknowledgement.laterMask.toNat.testBit index =
      (inbound.window.payload?
        (acknowledgement.expected + 1 + UInt32.ofNat index)).isSome
  binds : ∀ id : StepId,
    stream.anchor.toNat ≤ id.toNat → acknowledgement.Reports id →
      ∃ payload,
        inbound.Holds stream ⟨id, payload⟩ ∧
          later.Holds laterStream ⟨id, payload⟩ ∧
          ∀ step ∈ later.delivered laterStream, step.id = id →
            step.payload = payload

/--
Whatever the server was told, and whatever comes until the buffers are anchored
anew: it was true, and binds the session.
-/
theorem acknowledgement_binding
    (settings : Settings)
    (earlier later : List Event)
    (event : Event)
    (acknowledgement : Acknowledgement)
    (tells :
      ((create settings).1.afterAll earlier).tells? event =
        some acknowledgement)
    (unanchored :
      ((create settings).1.afterAll earlier).Unanchored (event :: later))
    (inRange :
      Inbound.InRange (streamSeen settings (earlier ++ event :: later))
        ((create settings).1.afterAll (earlier ++ event :: later)).inbound) :
    Binding acknowledgement (streamSeen settings earlier)
      ((create settings).1.afterAll earlier).inbound
      (streamSeen settings (earlier ++ event :: later))
      ((create settings).1.afterAll
        (earlier ++ event :: later)).inbound := by
  have tracks := tracks_afterAll settings earlier
  have laterTracks := tracks_afterAll settings (earlier ++ event :: later)
  have grows := grows_streamSeen settings unanchored
  have nowInRange := grows.inRange inRange
  obtain rfl := acknowledgement_of_tells settings tells
  constructor
  · intro id anchored below
    exact tracks.faithful.exists_delivered nowInRange anchored below
  · intro index inMask
    exact ReceiveWindow.testBit_laterMask _ inMask
  · intro id anchored reports
    obtain ⟨payload, held⟩ :=
      tracks.faithful.holds_of_reports nowInRange anchored reports
    have heldLater :=
      grows.holds tracks.faithful laterTracks.faithful inRange held
    refine ⟨payload, held, heldLater, fun step member named => ?_⟩
    have first :=
      (laterTracks.faithful.holds_iff inRange _).mp heldLater
    have other :=
      (laterTracks.faithful.holds_iff inRange step).mp (.inl member)
    rw [named, first] at other
    rw [← Option.some.inj other]

/-- The second step has come, and the first one has not. -/
def overtaken : List Event :=
  eventsOf syncing ++
    [.received
      (numberedMessage 3
        (StepReport.fields ⟨1, 0, 20, 4⟩ ++ StepRun.fields 6 [[23]]))]

/-- The first step comes, and the second one again with another payload. -/
def caughtUp : List Event :=
  [.received
      (numberedMessage 4
        (StepReport.fields ⟨1, 0, 20, 4⟩ ++ StepRun.fields 5 [[19], [29]])),
    .asked .readStep,
    .asked .readStep]

/-- What the server is told before and after, and what is read. -/
theorem tells_overtaken :
    let before := (create Settings.standard).1.afterAll overtaken
    let events := overtaken ++ .tickEnded 20 none :: caughtUp
    let after := (create Settings.standard).1.afterAll events
    before.tells? (.tickEnded 20 none) = some ⟨5, 1⟩ ∧
      before.Unanchored (.tickEnded 20 none :: caughtUp) ∧
      after.tells? (.tickEnded 40 none) = some ⟨7, 0⟩ ∧
      Inbound.InRange (streamSeen Settings.standard events) after.inbound ∧
      (streamSeen Settings.standard overtaken).anchor = 5 ∧
      (streamSeen Settings.standard events).reads =
        [⟨5, [19]⟩, ⟨6, [23]⟩] := by
  decide +kernel

theorem acknowledgement_binding_overtaken :
    Inbound.Holds (streamSeen Settings.standard overtaken)
        ((create Settings.standard).1.afterAll overtaken).inbound
        ⟨6, [23]⟩ ∧
      ⟨6, [23]⟩ ∈
        (streamSeen Settings.standard
          (overtaken ++ .tickEnded 20 none :: caughtUp)).reads := by
  obtain ⟨tells, unanchored, _, inRange, anchor, reads⟩ := tells_overtaken
  have binding :=
    acknowledgement_binding Settings.standard overtaken caughtUp
      (.tickEnded 20 none) ⟨5, 1⟩ tells unanchored inRange
  have anchored :
      (streamSeen Settings.standard overtaken).anchor.toNat ≤
        (6 : StepId).toNat := by
    rw [anchor]
    decide
  obtain ⟨payload, held, _, same⟩ := binding.binds 6 anchored (by decide)
  have read :
      (⟨6, [23]⟩ : Step) ∈
        (streamSeen Settings.standard
          (overtaken ++ .tickEnded 20 none :: caughtUp)).reads := by
    rw [reads]
    decide
  obtain rfl : [23] = payload :=
    same ⟨6, [23]⟩ (List.mem_append_left _ read) rfl
  exact ⟨held, read⟩

/-- Two more steps have come than are ready at once. -/
def stalled : List Event :=
  eventsOf syncing ++
    [.received
        (numberedMessage 3
          (StepReport.fields ⟨1, 0, 20, 4⟩ ++
            StepRun.fields 5 (List.replicate 65 []))),
      .received
        (numberedMessage 4
          (StepReport.fields ⟨1, 0, 20, 4⟩ ++
            StepRun.fields 70 (List.replicate 65 [])))]

/--
A step that was reported need not be reported ever after: when one step is read, one
of the two that wait takes its place, and the other one has no bit any more.
-/
theorem not_reported_forever :
    ¬∀ (settings : Settings) (earlier later : List Event)
        (event laterEvent : Event)
        (acknowledgement laterAcknowledgement : Acknowledgement),
        ((create settings).1.afterAll earlier).tells? event =
            some acknowledgement →
          ((create settings).1.afterAll earlier).Unanchored
              (event :: later) →
            ((create settings).1.afterAll
                (earlier ++ event :: later)).tells? laterEvent =
              some laterAcknowledgement →
            Inbound.InRange (streamSeen settings (earlier ++ event :: later))
                ((create settings).1.afterAll
                  (earlier ++ event :: later)).inbound →
              ∀ id, acknowledgement.Reports id →
                laterAcknowledgement.Reports id := by
  intro forever
  let events := stalled ++ .tickEnded 20 none :: [.asked .readStep]
  let session := (create Settings.standard).1.afterAll stalled
  have facts :
      session.tells? (.tickEnded 20 none) = some ⟨133, 1⟩ ∧
        session.Unanchored (.tickEnded 20 none :: [.asked .readStep]) ∧
        ((create Settings.standard).1.afterAll events).tells?
            (.tickEnded 40 none) =
          some ⟨134, 0⟩ ∧
        Inbound.InRange (streamSeen Settings.standard events)
          ((create Settings.standard).1.afterAll events).inbound := by
    decide +kernel
  obtain ⟨tells, unanchored, tellsLater, inRange⟩ := facts
  have still : Acknowledgement.Reports ⟨134, 0⟩ 134 :=
    forever _ _ _ _ _ _ _ tells unanchored tellsLater inRange 134 (by decide)
  exact absurd still (by decide)

/--
Until the buffers are anchored anew, what was reported is reported ever after, but
for one step: the one that is expected, while it waits for room among the steps that
are ready.
-/
theorem acknowledgement_lasting
    (settings : Settings)
    (earlier later : List Event)
    (event laterEvent : Event)
    (acknowledgement laterAcknowledgement : Acknowledgement)
    (tells :
      ((create settings).1.afterAll earlier).tells? event =
        some acknowledgement)
    (unanchored :
      ((create settings).1.afterAll earlier).Unanchored (event :: later))
    (tellsLater :
      ((create settings).1.afterAll
          (earlier ++ event :: later)).tells? laterEvent =
        some laterAcknowledgement)
    (inRange :
      Inbound.InRange (streamSeen settings (earlier ++ event :: later))
        ((create settings).1.afterAll (earlier ++ event :: later)).inbound)
    (id : StepId)
    (reports : acknowledgement.Reports id) :
    let inbound :=
      ((create settings).1.afterAll (earlier ++ event :: later)).inbound
    laterAcknowledgement.Reports id ∨
      id = laterAcknowledgement.expected ∧
        (inbound.window.payload? id).isSome = true ∧
        inbound.ready.isFull = true := by
  have tracks := tracks_afterAll settings earlier
  have laterTracks := tracks_afterAll settings (earlier ++ event :: later)
  have grows := grows_streamSeen settings unanchored
  have nowInRange := grows.inRange inRange
  obtain rfl := acknowledgement_of_tells settings tells
  obtain rfl := acknowledgement_of_tells settings tellsLater
  by_cases anchored : (streamSeen settings earlier).anchor.toNat ≤ id.toNat
  · obtain ⟨payload, held⟩ :=
      tracks.faithful.holds_of_reports nowInRange anchored reports
    have heldLater :=
      grows.holds tracks.faithful laterTracks.faithful inRange held
    rcases laterTracks.faithful.reports_of_holds inRange heldLater with
      still | ⟨first, waits⟩
    · exact .inl still
    · have waitsFirst :=
        congrArg Option.isSome (show _ = some payload from waits)
      refine .inr ⟨first, waitsFirst, laterTracks.settled ?_⟩
      rw [← first]
      exact waitsFirst
  · left
    left
    have expected := laterTracks.faithful.toNat_expected inRange
    have sameAnchor := grows.anchor
    rw [sameAnchor] at expected
    simp only [Inbound.acknowledgement]
    omega

theorem acknowledgement_lasting_overtaken :
    Acknowledgement.Reports ⟨5, 1⟩ 6 ∧
      Acknowledgement.Reports ⟨7, 0⟩ 6 := by
  obtain ⟨tells, unanchored, tellsLater, inRange, _⟩ := tells_overtaken
  have reports : Acknowledgement.Reports ⟨5, 1⟩ 6 := by
    decide
  rcases acknowledgement_lasting Settings.standard overtaken caughtUp
      (.tickEnded 20 none) (.tickEnded 40 none) ⟨5, 1⟩ ⟨7, 0⟩ tells
      unanchored tellsLater inRange 6 reports with
    still | ⟨first, _⟩
  · exact ⟨reports, still⟩
  · exact absurd first (by decide)

end StepSync.Session
