import StepSync.Proofs.Session.Gauge
import StepSync.Proofs.Session.Outgoing

namespace StepSync.Session

/-!
# The latency that an echo measures

What a tick offers bears the low bits of the time that it was called with
(`stamp?_offered`).  Whenever a session takes an echo of them, less than a circle
after that, it records how long ago the tick was (`echo_measures_latency`).
-/

/--
The low bits of the time in a client's datagram: behind its number, which within
a connection follows the seal.
-/
def stamp? (datagram : Octets) : Option UInt16 :=
  let unsealed :=
    if datagram.head? = some noConnectionId then 1 else sealedFrom
  (Decoder.word16
    (Reader.ofOctets (datagram.drop (unsealed + 2)))).1.toOption

/-- Within a connection and outside, a datagram is stamped behind its number. -/
theorem stamp?_framed
    {connection : Option Connection}
    (named : Named connection)
    (number : UInt16)
    (now : Nat)
    (message : Octets) :
    stamp? (framed connection (covered number now message)) =
      some (lowerBits now) := by
  have taken := Decoder.Reads.word16 (lowerBits now) 0 message
  have behindNumber :
      (covered number now message).drop 2 =
        Octets.ofWord16 (lowerBits now) ++ message := by
    rw [covered, List.drop_append_of_le_length (by simp),
      List.drop_of_length_le (by simp), List.nil_append]
  cases connection with
  | none =>
      simp only [framed, stamp?, List.head?_cons, ↓reduceIte,
        List.drop_succ_cons, behindNumber, Reader.ofOctets, taken]
      rfl
  | some connection =>
      have assigned := named connection rfl
      have behindSeal :
          (Octets.ofWord32
              (Seal.make connection.secret (covered number now message)) ++
            covered number now message).drop 6 =
          Octets.ofWord16 (lowerBits now) ++ message := by
        rw [List.drop_append, List.drop_of_length_le (by simp),
          Octets.length_ofWord32]
        exact behindNumber
      simp only [framed, sealedDatagram, stamp?, List.head?_cons,
        Option.some.injEq, assigned, ↓reduceIte, sealedFrom,
        List.drop_succ_cons, behindSeal, Reader.ofOctets, taken]
      rfl

/-- Every datagram that a tick offers is stamped with the time of the tick. -/
theorem stamp?_offered
    (settings : Settings)
    (calls : List Call)
    (now : Nat)
    (wire : Wire)
    {datagram : Octets}
    (offered :
      ((reached settings calls).tick now wire).offered = some datagram) :
    stamp? datagram = some (lowerBits now) := by
  rw [reached, run_eq_afterAll] at offered
  obtain ⟨message, wellFormed⟩ :=
    (numbers_afterAll settings (eventsOf calls)).offered now wire offered
  rw [wellFormed.octets]
  exact stamp?_framed wellFormed.named _ now _

/--
A datagram with this number within this connection is one that the
session takes.
-/
structure Expects
    (session : Session)
    (connection : Connection)
    (number : UInt16) :
    Prop where
  connected : session.connection = some connection
  named : connection.id ≠ noConnectionId
  present : session.stage ≠ .disconnected
  ahead : 0 < session.receiveSequence.distance number

/--
The session records the latency when it takes an echo of the stamp: in front of a
command, before it looks at what is behind, and in a report, whatever else the
datagram echoes and whatever steps follow.
-/
structure RecordsEcho
    (session : Session)
    (connection : Connection)
    (number stamp : UInt16)
    (latency : Nat) :
    Prop where
  pong : ∀ message,
    let datagram := reply connection number (some stamp) message
    (session.receive datagram).session.gauge =
      (session.delivery datagram).report?.elim
        (session.gauge.record latency)
        ((session.gauge.record latency).accept session.now)
  pongLatency : ∀ message,
    let datagram := reply connection number (some stamp) message
    (session.delivery datagram).report? = none →
      (session.receive datagram).session.latency = some latency
  report : ∀ echo (report : StepReport) steps,
    report.echoedTime = stamp →
      let datagram :=
        reply connection number echo (report.fields.flatten ++ steps)
      (session.receive datagram).session.gauge =
        ((echo.elim session.gauge
          (session.gauge.hear session.now)).reserve report).record latency
  reportLatency : ∀ echo (report : StepReport) steps,
    report.echoedTime = stamp →
      let datagram :=
        reply connection number echo (report.fields.flatten ++ steps)
      (session.receive datagram).session.latency = some latency

section

variable
  {session : Session}
  {connection : Connection}
  {number stamp : UInt16}
  {latency : Nat}

/-- What the stamp measures is recorded whenever the stamp is echoed. -/
theorem Expects.recordsEcho
    (expects : session.Expects connection number)
    (measures : elapsedSince? session.now stamp = some latency) :
    session.RecordsEcho connection number stamp latency := by
  obtain ⟨connected, named, present, ahead⟩ := expects
  have hears (gauge : Gauge) :
      gauge.hear session.now stamp = gauge.record latency := by
    rw [Gauge.hear, measures, Option.elim_some]
  have pong (message : Octets) :
      (session.receive
          (reply connection number (some stamp) message)).session.gauge =
        (session.delivery
            (reply connection number (some stamp) message)).report?.elim
          (session.gauge.record latency)
          ((session.gauge.record latency).accept session.now) := by
    rw [gauge_receive, pong?_reply connected named present ahead,
      Reader.echo?_ofEcho, Gauge.take, Option.elim_some, hears]
  have report
      (echo : Option UInt16)
      (report : StepReport)
      (steps : Octets)
      (echoes : report.echoedTime = stamp) :
      (session.receive
          (reply connection number echo
            (report.fields.flatten ++ steps))).session.gauge =
        ((echo.elim session.gauge
          (session.gauge.hear session.now)).reserve report).record
            latency := by
    rw [gauge_receive_report connected named present ahead, Gauge.take,
      Option.elim_some, Gauge.accept, echoes, hears]
  constructor
  case pong => exact pong
  case report => exact report
  case pongLatency =>
    intro message datagram plain
    have recorded := pong message
    rw [show (session.delivery
      (reply connection number (some stamp) message)).report? = none from
        plain] at recorded
    exact congrArg Gauge.latency recorded
  case reportLatency =>
    intro echo found steps echoes
    exact congrArg Gauge.latency (report echo found steps echoes)

end

/--
Low bits are turned into a time exactly, for every clock and without leaving the
words of a machine.  So what a session offers in a tick bears a stamp from which
any session that takes an echo of it, in front of a command or in a report and
less than a circle after the tick, records how long ago that tick was.
-/
theorem echo_measures_latency :
    (∀ now bits, Reconstructs now bits) ∧
      ∀ settings calls sentAt wire sent,
        ((reached settings calls).tick sentAt wire).offered = some sent →
          ∃ stamp, stamp? sent = some stamp ∧
            ∀ (session : Session) (connection : Connection) (number : UInt16),
              sentAt ≤ session.now → session.now ≤ sentAt + 65535 →
                session.Expects connection number →
                  session.RecordsEcho connection number stamp
                    (session.now - sentAt) := by
  refine ⟨elapsedSince?_reconstructs, fun settings calls sentAt wire sent
    offered => ⟨lowerBits sentAt,
      stamp?_offered settings calls sentAt wire offered, ?_⟩⟩
  intro session connection number notAfter within expects
  exact expects.recordsEcho
    (elapsedSince?_lowerBits notAfter (Nat.lt_succ_of_le within))

/--
A synced session ticks once before the clock's low bits turn over,
and once after.
-/
def turningOver : List Call :=
  syncing ++ [.tick 131000 ⟨[], none⟩, .tick 131100 ⟨[], none⟩]

theorem echo_measures_latency_turningOver :
    ∃ sent stamp,
      ((reached Settings.standard syncing).tick 131000
          ⟨[], none⟩).offered = some sent ∧
        stamp? sent = some stamp ∧
          (reached Settings.standard turningOver).RecordsEcho
            ⟨7, 11, false⟩ 3 stamp 100 := by
  have offers :
      ((reached Settings.standard syncing).tick 131000
        ⟨[], none⟩).offered.isSome = true := by
    decide +kernel
  have clock : (reached Settings.standard turningOver).now = 131100 := by
    decide +kernel
  have expects :
      (reached Settings.standard turningOver).Expects ⟨7, 11, false⟩ 3 :=
    ⟨by decide +kernel, by decide, by decide +kernel, by decide +kernel⟩
  obtain ⟨sent, offered⟩ := Option.isSome_iff_exists.mp offers
  obtain ⟨stamp, stamped, records⟩ :=
    echo_measures_latency.2 Settings.standard syncing 131000 ⟨[], none⟩ sent
      offered
  have recorded :=
    records (reached Settings.standard turningOver) ⟨7, 11, false⟩ 3
      (by rw [clock]; decide) (by rw [clock]; decide) expects
  rw [clock] at recorded
  exact ⟨sent, stamp, offered, stamped, recorded⟩

end StepSync.Session
