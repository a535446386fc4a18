import StepSync.Proofs.Session.Adapting
import StepSync.Proofs.Session.Run

namespace StepSync

/-!
# Bonds

Two sessions that do the same may differ in the nonce and the request id, in the
clock, in the rates, and in what they have learnt from echoed times.  A `Bond`
says by how much, and whether it is known that the clocks agree, and what echoed
times have told.

`Paired` says of two actions that they keep a bond and come to results that agree.
It goes through `bind`, so two actions are paired because their parts are.
-/

/-- What echoed times have told about a link. -/
structure Latencies where
  latest : Option Nat
  mean : WindowAverage
  samples : List LagSample
  linkMean : WindowAverage
  lastLinkMean : Int
  rating : Nat
  ratings : WindowAverage
  deriving Repr, DecidableEq

/-- The health of a link of which echoed times have told something else. -/
def Health.learning (health : Health) (latencies : Latencies) : Health :=
  { health with
    latency := latencies.linkMean
    lastLatency := latencies.lastLinkMean
    rating := latencies.rating
    ratings := latencies.ratings }

/-- What echoed times have told, with what the link makes of it. -/
def Health.learnt (health : Health) (latencies : Latencies) : Latencies :=
  { latencies with
    linkMean := health.latency
    lastLinkMean := health.lastLatency
    rating := health.rating
    ratings := health.ratings }

namespace Session

/-- The clock, the rates, and what was learnt from echoed times. -/
structure Private where
  now : Nat
  datagramsIn : Rate
  datagramsOut : Rate
  stepsIn : Rate
  latencies : Latencies
  deriving Repr, DecidableEq

/-- What a session has learnt from echoed times. -/
def latencies (session : Session) : Latencies where
  latest := session.latency
  mean := session.metrics.latency
  samples := session.lagTrace.samples
  linkMean := session.health.latency
  lastLinkMean := session.health.lastLatency
  rating := session.health.rating
  ratings := session.health.ratings

/-- A session's own clock, rates and latencies. -/
def privates (session : Session) : Private where
  now := session.now
  datagramsIn := session.metrics.datagramsIn
  datagramsOut := session.metrics.datagramsOut
  stepsIn := session.metrics.stepsIn
  latencies := session.latencies

/--
The session that is ahead by a shift, with a clock, rates and
latencies of its own.
-/
def ahead (session : Session) (shift : Shift) (own : Private) : Session :=
  { session with
    joinRequest := session.joinRequest.map shift.joinRequest
    requestId := session.requestId + shift.requestId
    now := own.now
    latency := own.latencies.latest
    health := session.health.learning own.latencies
    metrics := { session.metrics with
      latency := own.latencies.mean
      datagramsIn := own.datagramsIn
      datagramsOut := own.datagramsOut
      stepsIn := own.stepsIn }
    lagTrace := { session.lagTrace with samples := own.latencies.samples } }

/-- The session to which echoed times have told something else. -/
def learning (session : Session) (latencies : Latencies) : Session :=
  { session with
    latency := latencies.latest
    health := session.health.learning latencies
    metrics := { session.metrics with latency := latencies.mean }
    lagTrace := { session.lagTrace with samples := latencies.samples } }

/--
A shift, and what is known: that the clocks agree, and what echoed
times have told.
-/
structure Bond where
  shift : Shift
  clocked : Prop
  measured : Prop

variable {bond : Bond}

/-- The first session is the second one, ahead by the shift of the bond. -/
def Bond.Ties (bond : Bond) (first second : Session) : Prop :=
  ∃ own,
    first = second.ahead bond.shift own ∧
      (bond.clocked → own.now = second.now) ∧
      (bond.measured → own.latencies = second.latencies)

namespace Bond

/-- Less need be known. -/
theorem Ties.weaken
    {first second : Session}
    (ties : bond.Ties first second)
    {clocked measured : Prop}
    (clock : clocked → bond.clocked)
    (latencies : measured → bond.measured) :
    Bond.Ties ⟨bond.shift, clocked, measured⟩ first second := by
  obtain ⟨own, made, sameTime, same⟩ := ties
  exact ⟨own, made, fun known => sameTime (clock known),
    fun known => same (latencies known)⟩

/--
A change does the same to a session and to one that is ahead of it, but for what
the latter has of its own; it shows in the latencies alike, if these are alike.
-/
structure CommonAt
    (change : Session → Session)
    (vary : Session → Private → Private)
    (shift : Shift)
    (session : Session)
    (own : Private) :
    Prop where
  keeps :
    change (session.ahead shift own) =
      (change session).ahead shift (vary session own)
  now : (change session).now = session.now
  ownNow : (vary session own).now = own.now
  latencies : own.latencies = session.latencies →
    (vary session own).latencies = (change session).latencies

/--
A change that does the same to tied sessions, but for what each has of its own.
-/
def Common
    (change : Session → Session)
    (vary : Session → Private → Private) :
    Prop :=
  ∀ shift session own, CommonAt change vary shift session own

/-- No session is ahead of itself. -/
theorem ahead_privates (session : Session) :
    session.ahead ⟨0, 0⟩ session.privates = session := by
  have sameRequest :
      session.joinRequest.map (Shift.joinRequest ⟨0, 0⟩) =
        session.joinRequest := by
    cases session.joinRequest with
    | none => rfl
    | some request => simp [Shift.joinRequest]
  rw [ahead, sameRequest, UInt8.add_zero]
  rfl

/--
What does the same whatever the shift, and whatever is a session's own,
leaves that alone.
-/
theorem Common.of_keeps
    {change : Session → Session}
    (keeps : ∀ (shift : Shift) (session : Session) (own : Private),
      change (session.ahead shift own) = (change session).ahead shift own) :
    Common change fun _ own => own := by
  intro shift session own
  have alone := keeps ⟨0, 0⟩ session session.privates
  rw [ahead_privates] at alone
  have sameTime := congrArg Session.now alone
  have sameLatencies := congrArg Session.latencies alone
  exact ⟨keeps shift session own, sameTime, rfl,
    fun same => same.trans sameLatencies.symm⟩

theorem Ties.change
    {first second : Session}
    (ties : bond.Ties first second)
    {change : Session → Session}
    {vary : Session → Private → Private}
    (common : Common change vary) :
    bond.Ties (change first) (change second) := by
  obtain ⟨own, rfl, sameTime, same⟩ := ties
  obtain ⟨keeps, now, ownNow, latencies⟩ := common bond.shift second own
  refine ⟨vary second own, keeps, fun known => ?_,
    fun known => latencies (same known)⟩
  rw [ownNow, now]
  exact sameTime known

/-- Each session may learn something from echoed times. -/
theorem Ties.learning
    {first second : Session}
    (ties : bond.Ties first second)
    {firstLatencies secondLatencies : Latencies}
    (same : bond.measured → firstLatencies = secondLatencies) :
    bond.Ties (first.learning firstLatencies)
      (second.learning secondLatencies) := by
  obtain ⟨own, rfl, sameTime, _⟩ := ties
  exact ⟨{ own with latencies := firstLatencies }, rfl, sameTime, same⟩

/--
A change of the link's health goes with anything that was learnt
from echoed times.
-/
theorem Common.health
    {change : Health → Health}
    (keeps : ∀ (health : Health) (latencies : Latencies),
      change (health.learning latencies) =
        (change health).learning
          ((change (health.learning latencies)).learnt latencies)) :
    Common (fun session => { session with health := change session.health })
      fun session own =>
        { own with
          latencies :=
            (change (session.health.learning own.latencies)).learnt
              own.latencies } := by
  refine fun shift session own => ⟨?_, rfl, rfl, fun same => ?_⟩
  · dsimp only [ahead]
    rw [keeps]
    rfl
  · dsimp only
    rw [same]
    rfl

end Bond

/--
Two results agree: both are refusals for the same reason, or both were found
and are related.
-/
inductive Agree {First Second : Type} (related : First → Second → Prop) :
    Except Refusal First → Except Refusal Second → Prop where
  | ok {first : First} {second : Second} (alike : related first second) :
      Agree related (.ok first) (.ok second)
  | error (refusal : Refusal) : Agree related (.error refusal) (.error refusal)

theorem agree_eq_iff {Result : Type} {first second : Except Refusal Result} :
    Agree Eq first second ↔ first = second := by
  constructor
  · rintro (same | refusal)
    · rw [same]
    · rfl
  · rintro rfl
    cases first with
    | ok result => exact .ok rfl
    | error refusal => exact .error refusal

namespace Action

variable {First Second FirstResult SecondResult Result : Type}

/--
On tied sessions two actions come to results that agree, and leave
tied sessions.
-/
def Paired
    (bond : Bond)
    (related : First → Second → Prop)
    (action : Action First)
    (other : Action Second) :
    Prop :=
  ∀ first second, bond.Ties first second →
    bond.Ties (action first).session (other second).session ∧
      Agree related (action first).result (other second).result

namespace Paired

variable
  {related : First → Second → Prop}
  {relatedResult : FirstResult → SecondResult → Prop}

theorem pure
    {first : First}
    {second : Second}
    (alike : related first second) :
    Paired bond related (Pure.pure first) (Pure.pure second) :=
  fun _ _ ties => ⟨ties, .ok alike⟩

theorem refuse (refusal : Refusal) :
    Paired bond related (Action.refuse refusal) (Action.refuse refusal) :=
  fun _ _ ties => ⟨ties, .error refusal⟩

theorem note (notice other : Notice) :
    Paired bond Eq (Action.note notice) (Action.note other) :=
  fun _ _ ties => ⟨ties, .ok rfl⟩

theorem noteAll (notices others : List Notice) :
    Paired bond Eq (Action.noteAll notices) (Action.noteAll others) :=
  fun _ _ ties => ⟨ties, .ok rfl⟩

/-- A change that varies what each session has of its own. -/
theorem modifyOwn
    {change : Session → Session}
    (vary : Session → Private → Private)
    (common : Bond.Common change vary) :
    Paired bond Eq (Action.modify change) (Action.modify change) :=
  fun _ _ ties => ⟨ties.change common, .ok rfl⟩

/-- A change of what the sessions have in common. -/
theorem modify
    {change : Session → Session}
    (keeps : ∀ (shift : Shift) (session : Session) (own : Private),
      change (session.ahead shift own) = (change session).ahead shift own) :
    Paired bond Eq (Action.modify change) (Action.modify change) :=
  modifyOwn _ (.of_keeps keeps)

theorem bind
    {action : Action First}
    {other : Action Second}
    {next : First → Action FirstResult}
    {otherNext : Second → Action SecondResult}
    (begins : Paired bond related action other)
    (continues : ∀ first second, related first second →
      Paired bond relatedResult (next first) (otherNext second)) :
    Paired bond relatedResult (action >>= next) (other >>= otherNext) := by
  intro here there ties
  obtain ⟨stillTied, agree⟩ := begins here there ties
  rw [session_bind, session_bind, result_bind, result_bind]
  generalize (action here).result = firstResult at agree
  generalize (other there).result = secondResult at agree
  cases agree with
  | error refusal => exact ⟨stillTied, .error refusal⟩
  | ok alike => exact continues _ _ alike _ _ stillTied

/-- After the same result the same follows. -/
theorem bindSame
    {action other : Action First}
    {next : First → Action FirstResult}
    {otherNext : First → Action SecondResult}
    (begins : Paired bond Eq action other)
    (continues : ∀ found,
      Paired bond relatedResult (next found) (otherNext found)) :
    Paired bond relatedResult (action >>= next) (other >>= otherNext) :=
  begins.bind fun first _ same => same ▸ continues first

/-- Each looks at its own session. -/
theorem current
    {next : Session → Action FirstResult}
    {otherNext : Session → Action SecondResult}
    (continues : ∀ first second, bond.Ties first second →
      Paired bond relatedResult (next first) (otherNext second)) :
    Paired bond relatedResult (Action.current >>= next)
      (Action.current >>= otherNext) :=
  fun first second ties => continues first second ties first second ties

/-- Each looks at its own session, but at nothing in which they differ. -/
theorem currentSame
    {next : Session → Action Result}
    (overlooks : ∀ (shift : Shift) (session : Session) (own : Private),
      next (session.ahead shift own) = next session)
    (paired : ∀ session, Paired bond Eq (next session) (next session)) :
    Paired bond Eq (Action.current >>= next) (Action.current >>= next) := by
  refine current fun first second ties => ?_
  obtain ⟨own, rfl, _⟩ := ties
  rw [overlooks]
  exact paired second

/-- Both take the same branch. -/
theorem branch
    {condition otherCondition : Prop}
    [Decidable condition]
    [Decidable otherCondition]
    (same : condition ↔ otherCondition)
    {action alternative : Action First}
    {other otherAlternative : Action Second}
    (yes : Paired bond related action other)
    (no : Paired bond related alternative otherAlternative) :
    Paired bond related (if condition then action else alternative)
      (if otherCondition then other else otherAlternative) := by
  by_cases holds : otherCondition
  · rw [if_pos holds, if_pos (same.mpr holds)]
    exact yes
  · rw [if_neg holds, if_neg (mt same.mp holds)]
    exact no

theorem decoded (decoder : Decoder Result) (reader : Reader) :
    Paired bond Eq (Action.decoded decoder reader)
      (Action.decoded decoder reader) := by
  unfold Action.decoded
  split
  · exact pure rfl
  · exact refuse _

/-- What stands in front is read alike, whatever follows it. -/
theorem reads
    {Found : Type}
    {decoder : Decoder Found}
    {written : Octets}
    {found : Found}
    (reading : decoder.Reads written found)
    {position : Nat}
    {rest otherRest : Octets}
    {next : Found × Reader → Action First}
    {otherNext : Found × Reader → Action Second}
    (continues : Paired bond related
      (next (found, ⟨position + written.length, rest⟩))
      (otherNext (found, ⟨position + written.length, otherRest⟩))) :
    Paired bond related
      (Action.decoded decoder ⟨position, written ++ rest⟩ >>= next)
      (Action.decoded decoder ⟨position, written ++ otherRest⟩ >>=
        otherNext) := by
  intro first second ties
  rw [decoded_bind_ok (reading position rest),
    decoded_bind_ok (reading position otherRest)]
  exact continues first second ties

/-- What is not there is missed alike. -/
theorem misses
    {Found : Type}
    {decoder : Decoder Found}
    {reader after : Reader}
    {failure : CursorError}
    (missing : decoder reader = (.error failure, after))
    {next : Found × Reader → Action First}
    {otherNext : Found × Reader → Action Second} :
    Paired bond related (Action.decoded decoder reader >>= next)
      (Action.decoded decoder reader >>= otherNext) := by
  intro first second ties
  rw [decoded_bind_error missing, decoded_bind_error missing]
  exact ⟨ties, .error _⟩

end Paired

end Action

end Session

end StepSync
