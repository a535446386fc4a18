namespace StepSync

/--
Datagrams and octets that passed in either direction since the session started.
-/
structure Traffic where
  datagramsSent : Nat
  datagramsReceived : Nat
  datagramsLost : Nat
  datagramsRejected : Nat
  octetsSent : Nat
  octetsReceived : Nat
  deriving Repr, DecidableEq

namespace Traffic

/-- Nothing has passed. -/
def none : Traffic :=
  ⟨0, 0, 0, 0, 0, 0⟩

/-- A datagram was handed over. -/
def sent (traffic : Traffic) (octets : Nat) : Traffic :=
  { traffic with
    datagramsSent := traffic.datagramsSent + 1
    octetsSent := traffic.octetsSent + octets }

/-- A datagram has arrived. -/
def received (traffic : Traffic) (octets : Nat) : Traffic :=
  { traffic with
    datagramsReceived := traffic.datagramsReceived + 1
    octetsReceived := traffic.octetsReceived + octets }

/-- Datagrams were found missing. -/
def lost (traffic : Traffic) (datagrams : Nat) : Traffic :=
  { traffic with datagramsLost := traffic.datagramsLost + datagrams }

/-- A datagram that arrived was refused. -/
def rejected (traffic : Traffic) : Traffic :=
  { traffic with datagramsRejected := traffic.datagramsRejected + 1 }

end Traffic

end StepSync
