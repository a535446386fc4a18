namespace StepSync

/-!
# Limits of the wire

Sizes that client and server agree on.
-/

/-- The most octets of a datagram; of a longer one the rest is not received. -/
def mostDatagramOctets : Nat :=
  1200

/-- The fewest octets of a datagram: id, sequence number and command. -/
def fewestDatagramOctets : Nat :=
  4

/-- The most local participants of one client. -/
def mostLocalParticipants : Nat :=
  8

/-- The connection id of datagrams outside any connection. -/
def noConnectionId : UInt8 :=
  0

/-- The octet in front of a command that announces an echoed time. -/
def pongMarker : UInt8 :=
  0xDD

end StepSync
