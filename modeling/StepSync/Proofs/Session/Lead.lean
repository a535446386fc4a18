import StepSync.Proofs.Measure.WindowAverage
import StepSync.Proofs.Session.Gauge
import StepSync.Proofs.Session.Lifecycle
import StepSync.Proofs.Session.Settings
import StepSync.Proofs.Steps.Lead

namespace StepSync

/-!
# How far a session predicts

The averages of a session are over what datagrams have measured since it was made
or last started over (`Session.shows_afterAll`).  All of that is small: a latency
is read from 16 bits, and a reserve from an octet.  So in every session the lead
is what the formula says of the last ten latencies and reserves, and nothing in it
overflows (`Session.prediction_lead`).
-/

/-- The latencies and the reserves that were measured, oldest first. -/
structure Measurements where
  latencies : List Nat
  reserves : List Int
  deriving Repr, DecidableEq

namespace Measurements

/-- The mean of the last ten samples, rounded, once there are ten. -/
def meanOf (samples : List Int) : Option Int :=
  if samples.length < 10 then none
  else some (Numeric.roundedMean (WindowAverage.lastOf 10 samples))

/-- The mean of the last ten latencies. -/
def meanLatency? (measurements : Measurements) : Option Int :=
  meanOf (measurements.latencies.map Int.ofNat)

/-- The mean of the last ten reserves. -/
def meanReserve? (measurements : Measurements) : Option Int :=
  meanOf measurements.reserves

/-- There is a mean of ten samples only, and it is the nearest integer. -/
theorem isNearestAway_of_meanOf
    {samples : List Int}
    {mean : Int}
    (found : meanOf samples = some mean) :
    Numeric.IsNearestAway (WindowAverage.lastOf 10 samples).sum 10 mean := by
  unfold meanOf at found
  split at found
  case isTrue => cases found
  case isFalse many =>
    obtain rfl := Option.some.inj found
    have ten : (WindowAverage.lastOf 10 samples).length = 10 := by
      rw [WindowAverage.length_lastOf]
      omega
    rw [Numeric.roundedMean, ten]
    exact Numeric.isNearestAway_nearestAway _ (by decide)

/-- A mean lies where all the samples lie. -/
theorem mem_meanOf
    {samples : List Int}
    {least greatest mean : Int}
    (within : ∀ sample ∈ samples, least ≤ sample ∧ sample ≤ greatest)
    (found : mean ∈ meanOf samples) :
    least ≤ mean ∧ mean ≤ greatest := by
  unfold meanOf at found
  split at found
  case isTrue => cases found
  case isFalse many =>
    obtain rfl := Option.some.inj found
    have notEmpty : 0 < (WindowAverage.lastOf 10 samples).length := by
      rw [WindowAverage.length_lastOf]
      omega
    exact
      ⟨Numeric.le_roundedMean notEmpty fun sample member =>
          (within sample (WindowAverage.mem_of_mem_lastOf member)).1,
        Numeric.roundedMean_le notEmpty fun sample member =>
          (within sample (WindowAverage.mem_of_mem_lastOf member)).2⟩

end Measurements

namespace Gauge

/-- The gauge shows what was measured, and nothing that was measured is large. -/
structure Shows (gauge : Gauge) (measurements : Measurements) : Prop where
  latency : gauge.latency = measurements.latencies.getLast?
  latencies :
    gauge.latencies.Covers 10 (measurements.latencies.map Int.ofNat)
  reserves : gauge.reserves.Covers 10 measurements.reserves
  latencyRange : ∀ latency ∈ measurements.latencies, latency ≤ 65535
  reserveRange : ∀ reserve ∈ measurements.reserves,
    -128 ≤ reserve ∧ reserve ≤ 127

namespace Shows

variable {gauge : Gauge} {measurements : Measurements}

theorem latencyFits (shows : gauge.Shows measurements) :
    ∀ sample ∈ measurements.latencies.map Int.ofNat,
      Binary64.FitsWord sample := by
  intro sample member
  obtain ⟨latency, measured, rfl⟩ := List.mem_map.mp member
  have small := shows.latencyRange latency measured
  rw [Int.ofNat_eq_natCast]
  exact ⟨by omega, by omega⟩

theorem reserveFits (shows : gauge.Shows measurements) :
    ∀ sample ∈ measurements.reserves, Binary64.FitsWord sample := by
  intro sample member
  have small := shows.reserveRange sample member
  exact ⟨by omega, by omega⟩

theorem record
    (shows : gauge.Shows measurements)
    {latency : Nat}
    (small : latency ≤ 65535) :
    (gauge.record latency).Shows
      { measurements with
        latencies := measurements.latencies ++ [latency] } := by
  have sample : Metrics.timeSample latency = Int.ofNat latency := by
    unfold Metrics.timeSample Metrics.greatestSample
    exact congrArg Int.ofNat (Nat.min_eq_left (by omega))
  refine ⟨?_, ?_, shows.reserves, ?_, shows.reserveRange⟩
  · exact List.getLast?_concat.symm
  · have longer := shows.latencies.add (Int.ofNat latency)
    rw [← sample] at longer
    rw [List.map_append, List.map_singleton, ← sample]
    exact longer
  · intro other member
    rcases List.mem_append.mp member with earlier | last
    · exact shows.latencyRange other earlier
    · rw [List.mem_singleton.mp last]
      exact small

/-- An echo adds the latency that it measures, if it measures one. -/
theorem hear
    (shows : gauge.Shows measurements)
    (now : Nat)
    (bits : UInt16) :
    (gauge.hear now bits).Shows
      { measurements with
        latencies :=
          measurements.latencies ++
            (Session.elapsedSince? now bits).toList } := by
  unfold Gauge.hear
  cases found : Session.elapsedSince? now bits with
  | none =>
      rw [Option.toList_none, List.append_nil]
      exact shows
  | some latency =>
      exact shows.record (Nat.le_of_lt_succ (Session.elapsedSince?_lt found))

theorem reserve
    (shows : gauge.Shows measurements)
    (report : StepReport) :
    (gauge.reserve report).Shows
      { measurements with
        reserves :=
          measurements.reserves ++ [report.bufferDelta.toInt] } := by
  refine ⟨shows.latency, shows.latencies,
    shows.reserves.add report.bufferDelta.toInt, shows.latencyRange, ?_⟩
  intro other member
  rcases List.mem_append.mp member with earlier | last
  · exact shows.reserveRange other earlier
  · rw [List.mem_singleton.mp last]
    have above := report.bufferDelta.le_toInt
    have below := report.bufferDelta.toInt_lt
    omega

/-- A report adds its reserve, and the latency that its echo measures. -/
theorem accept
    (shows : gauge.Shows measurements)
    (now : Nat)
    (report : StepReport) :
    (gauge.accept now report).Shows
      { latencies :=
          measurements.latencies ++
            (Session.elapsedSince? now report.echoedTime).toList
        reserves :=
          measurements.reserves ++ [report.bufferDelta.toInt] } :=
  (shows.reserve report).hear now report.echoedTime

/-- The same of an echo in front of a command, if there is one. -/
theorem hearPong
    (shows : gauge.Shows measurements)
    (now : Nat)
    (pong? : Option UInt16) :
    (pong?.elim gauge (gauge.hear now)).Shows
      { measurements with
        latencies :=
          measurements.latencies ++
            (pong?.bind (Session.elapsedSince? now)).toList } := by
  cases pong? with
  | none =>
      rw [Option.elim_none, Option.bind_none, Option.toList_none,
        List.append_nil]
      exact shows
  | some stamp =>
      rw [Option.elim_some, Option.bind_some]
      exact shows.hear now stamp

/-- The echo is heard first, and then the report behind it is taken. -/
theorem take
    (shows : gauge.Shows measurements)
    (now : Nat)
    (pong? : Option UInt16)
    (report? : Option StepReport) :
    (gauge.take now pong? report?).Shows
      ⟨measurements.latencies ++
          ((pong?.bind (Session.elapsedSince? now)).toList ++
            ((report?.map StepReport.echoedTime).bind
              (Session.elapsedSince? now)).toList),
        measurements.reserves ++
          (report?.map fun report => report.bufferDelta.toInt).toList⟩ := by
  have heard := shows.hearPong now pong?
  -- Rewriting leaves the measured times alone, where evaluating would open them.
  cases report? with
  | none =>
      rw [Gauge.take, Option.elim_none, Option.map_none, Option.map_none,
        Option.bind_none, Option.toList_none, Option.toList_none,
        List.append_nil, List.append_nil]
      exact heard
  | some report =>
      rw [Gauge.take, Option.elim_some, Option.map_some, Option.map_some,
        Option.bind_some, Option.toList_some, ← List.append_assoc]
      exact heard.accept now report

end Shows

end Gauge

namespace Session

/--
The latencies that a datagram measures: by the echo in front of its command and by
the one in its report, unless they lie ahead.
-/
def latenciesIn (session : Session) (datagram : Octets) : List Nat :=
  ((session.pong? datagram).bind (elapsedSince? session.now)).toList ++
    (((session.delivery datagram).report?.map StepReport.echoedTime).bind
      (elapsedSince? session.now)).toList

/-- The reserve that a datagram reports. -/
def reservesIn (session : Session) (datagram : Octets) : List Int :=
  ((session.delivery datagram).report?.map fun report =>
    report.bufferDelta.toInt).toList

/-- What somebody notes who looks on at what datagrams measure. -/
def noteMeasured (measurements : Measurements) (session : Session) :
    Event → Measurements
  | .received datagram =>
      ⟨measurements.latencies ++ session.latenciesIn datagram,
        measurements.reserves ++ session.reservesIn datagram⟩
  | .asked .reset => ⟨[], []⟩
  | _ => measurements

/-- What was measured in a run since the session was made or last started over. -/
def measurementsOf (settings : Settings) (events : List Event) :
    Measurements :=
  watch noteMeasured ⟨[], []⟩ (create settings).1 events

/-- A gauge that shows nothing. -/
theorem shows_nothing :
    Gauge.Shows
      ⟨none, WindowAverage.ofWindow 10, WindowAverage.ofWindow 10⟩
      ⟨[], []⟩ where
  latency := rfl
  latencies := WindowAverage.covers_ofWindow 10
  reserves := WindowAverage.covers_ofWindow 10
  latencyRange := nofun
  reserveRange := nofun

/-- After a datagram the gauge shows what that has measured, too. -/
theorem shows_receive
    {session : Session}
    {measurements : Measurements}
    (shows : session.gauge.Shows measurements)
    (datagram : Octets) :
    (session.receive datagram).session.gauge.Shows
      (noteMeasured measurements session (.received datagram)) := by
  rw [gauge_receive]
  exact shows.take session.now (session.pong? datagram)
    (session.delivery datagram).report?

theorem shows_after
    {session : Session}
    {measurements : Measurements}
    (shows : session.gauge.Shows measurements)
    (event : Event) :
    (session.after event).gauge.Shows
      (noteMeasured measurements session event) := by
  cases event with
  | tickBegun now =>
      rw [after, gauge_beginTick]
      exact shows
  | received datagram => exact shows_receive shows datagram
  | tickEnded now refusal =>
      rw [after, gauge_endTick]
      exact shows
  | asked request =>
      by_cases startsOver : request = .reset
      · rw [startsOver]
        exact shows_nothing
      · have same := field_ask gauge session startsOver
        rw [after, same]
        cases request with
        | reset => exact absurd rfl startsOver
        | _ => exact shows

/--
How far a session predicts that has measured so much, with ticks of so many
milliseconds: nothing is known before ten latencies, and then the lead is that of
the rounded means, also in the words of a machine.
-/
structure LeadsBy
    (session : Session)
    (measurements : Measurements)
    (tick : Nat) :
    Prop where
  latency : session.metrics.latency.mean = measurements.meanLatency?
  reserve : session.metrics.bufferDelta.mean = measurements.meanReserve?
  none_iff :
    session.predictionLead = none ↔ measurements.latencies.length < 10
  formula : ∀ latency, measurements.meanLatency? = some latency →
    ∃ ticks, IsCeiling latency.toNat tick ticks ∧
      session.predictionLead =
        some (ticks + 1 +
          measurements.meanReserve?.elim 0 fun reserve =>
            if reserve < 2 then (min (2 - reserve) 5).toNat else 0)
  latencyRounded : ∀ latency, measurements.meanLatency? = some latency →
    Numeric.IsNearestAway
      (WindowAverage.lastOf 10 (measurements.latencies.map Int.ofNat)).sum
      10 latency
  reserveRounded : ∀ reserve, measurements.meanReserve? = some reserve →
    Numeric.IsNearestAway
      (WindowAverage.lastOf 10 measurements.reserves).sum 10 reserve
  inWords : ∀ latency, measurements.meanLatency? = some latency →
    0 ≤ latency ∧
      leadInWords? latency measurements.meanReserve? tick =
        session.predictionLead.map Int.ofNat
  bounded : ∀ lead, session.predictionLead = some lead → lead ≤ 65541
  wanted :
    session.wantedPrediction.map UInt32.toNat =
      session.predictionLead.map fun lead =>
        (session.inbound.ready.nextId.toNat + lead) % 4294967296

/-- The gauge of every session shows what was measured. -/
theorem shows_afterAll (settings : Settings) (events : List Event) :
    ((create settings).1.afterAll events).gauge.Shows
      (measurementsOf settings events) := by
  refine keeps_watch
    (fun measurements session => session.gauge.Shows measurements)
    (fun _ _ event shows => shows_after shows event) ?_ events
  rw [session_create]
  exact shows_nothing

/-- From what a gauge shows follows how far the session predicts. -/
theorem leadsBy_of_shows
    {session : Session}
    {measurements : Measurements}
    {tick : Nat}
    (shows : session.gauge.Shows measurements)
    (sameTick : session.settings.tickDuration.toNat = tick)
    (positive : 0 < tick) :
    session.LeadsBy measurements tick := by
  have latency : session.metrics.latency.mean = measurements.meanLatency? :=
    shows.latencies.mean_eq (by decide) shows.latencyFits
  have reserve :
      session.metrics.bufferDelta.mean = measurements.meanReserve? :=
    shows.reserves.mean_eq (by decide) shows.reserveFits
  have lead :
      session.predictionLead =
        StepSync.predictionLead measurements.meanLatency?
          measurements.meanReserve? tick := by
    rw [predictionLead, latency, reserve, sameTick]
  have latencyRange (mean : Int)
      (found : measurements.meanLatency? = some mean) :
      0 ≤ mean ∧ mean ≤ 65535 := by
    refine Measurements.mem_meanOf (fun sample member => ?_) found
    obtain ⟨latency, measured, rfl⟩ := List.mem_map.mp member
    have small := shows.latencyRange latency measured
    exact ⟨Int.natCast_nonneg _, Int.ofNat_le.mpr small⟩
  have reserveRange (mean : Int)
      (found : mean ∈ measurements.meanReserve?) :
      -128 ≤ mean ∧ mean ≤ 127 :=
    Measurements.mem_meanOf shows.reserveRange found
  constructor
  case latency => exact latency
  case reserve => exact reserve
  case none_iff =>
    rw [lead, StepSync.predictionLead, Option.map_eq_none_iff,
      Measurements.meanLatency?, Measurements.meanOf, List.length_map]
    split
    case isTrue few => exact iff_of_true rfl few
    case isFalse many => exact iff_of_false (Option.some_ne_none _) many
  case formula =>
    intro mean found
    refine ⟨latencyTicks mean tick, isCeiling_latencyTicks mean positive, ?_⟩
    rw [lead, found]
    cases measurements.meanReserve? <;> rfl
  case latencyRounded =>
    exact fun mean found => Measurements.isNearestAway_of_meanOf found
  case reserveRounded =>
    exact fun mean found => Measurements.isNearestAway_of_meanOf found
  case inWords =>
    intro mean found
    obtain ⟨known, small⟩ := latencyRange mean found
    have word : tick < UInt64.size := by
      rw [← sameTick]
      exact session.settings.tickDuration.toNat_lt
    rw [lead, found]
    exact
      ⟨known, leadInWords?_eq known small reserveRange positive word⟩
  case bounded =>
    intro ticks found
    rw [lead] at found
    cases known : measurements.meanLatency? with
    | none =>
        rw [known] at found
        cases found
    | some mean =>
        rw [known] at found
        exact predictionLead_le (latencyRange mean known).2 positive found
  case wanted =>
    rw [wantedPrediction]
    cases session.predictionLead with
    | none => rfl
    | some ticks =>
        rw [Option.map_some, Option.map_some, Option.map_some,
          UInt32.toNat_add, UInt32.toNat_ofNat', Nat.add_mod_mod]

/--
Whatever a session has been through, its lead is what the formula says of the last
ten latencies and reserves that were measured since it was made or last started
over, and no step of the computation overflows.
-/
theorem prediction_lead (settings : Settings) (events : List Event) :
    LeadsBy ((create settings).1.afterAll events)
      (measurementsOf settings events)
      settings.clamp.1.tickDuration.toNat := by
  refine leadsBy_of_shows (shows_afterAll settings events) ?_
    settings.tickDuration_clamp_pos
  rw [settings_afterAll]

/--
Ten reports say that a datagram took 40 milliseconds, and that the server is
one step short.
-/
def reportedTen : List Call :=
  syncing ++
    (.tick 100 ⟨[], none⟩ ::
      (List.range 10).map fun index =>
        .receive
          (numberedMessage (UInt16.ofNat (3 + index))
            (StepReport.fields ⟨0, -1, 60, 0⟩ ++ StepRun.fields 5 [])))

-- Three ticks of 16 milliseconds, one more, and three for the reserve.
example :
    (reached Settings.standard reportedTen).predictionLead = some 7 := by
  decide +kernel

end Session

end StepSync
