import StepSync.Digest.Sha256

namespace StepSync.Seal

/-!
# Seals

A datagram of an established connection carries a seal: four octets that depend
on the connection's secret and on every octet after them. Who does not know the
secret can not make the seal that belongs to other octets.
-/

/--
The seal over octets under a secret: the first four octets of the
digest of both.
-/
def make (secret : UInt64) (covered : Octets) : UInt32 :=
  UInt32.ofNat
    (Octets.value ((Sha256.digest (Octets.ofWord64 secret ++ covered)).take 4))

/-- The claimed seal is the one that belongs to the octets under the secret. -/
def verifies (secret : UInt64) (claimed : UInt32) (covered : Octets) : Bool :=
  make secret covered == claimed

end StepSync.Seal
