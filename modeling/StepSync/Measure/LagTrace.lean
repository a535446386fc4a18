namespace StepSync

/-!
# Lag traces

A lag trace remembers what became of the latest datagrams, oldest first, for a
graph on the screen.
-/

/--
What became of one datagram: it came, after some latency and with some octets,
or it was lost.
-/
inductive LagSample where
  | received (latency : Option Nat) (octets : Nat)
  | dropped
  deriving Repr, DecidableEq

/-- The latest samples, oldest first, and the most that are kept. -/
structure LagTrace where
  samples : List LagSample
  capacity : Nat
  deriving Repr, DecidableEq

namespace LagTrace

/-- The most samples that a session keeps. -/
def standardCapacity : Nat :=
  64

/-- An empty trace; it keeps at least one sample. -/
def ofCapacity (capacity : Nat) : LagTrace :=
  ⟨[], max capacity 1⟩

/-- Add a sample; in a full trace the oldest one goes. -/
def push (trace : LagTrace) (sample : LagSample) : LagTrace :=
  let kept :=
    if trace.samples.length = trace.capacity then trace.samples.tail
    else trace.samples
  { trace with samples := kept ++ [sample] }

/-- A datagram came. -/
def received (trace : LagTrace) (latency : Option Nat) (octets : Nat) :
    LagTrace :=
  trace.push (.received latency octets)

/-- Datagrams were lost; more than the trace keeps are not counted. -/
def dropped (trace : LagTrace) (count : Nat) : LagTrace :=
  (List.replicate (min count trace.capacity) LagSample.dropped).foldl
    push trace

/-- Forget every sample. -/
def clear (trace : LagTrace) : LagTrace :=
  { trace with samples := [] }

end LagTrace

end StepSync
