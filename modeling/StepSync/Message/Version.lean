import StepSync.Octets.Reader

namespace StepSync

/-!
# Versions

Client and server tell each other the version of the wire protocol and of the
application, three 16-bit numbers each.
-/

/-- A version of three numbers. -/
structure Version where
  major : UInt16
  minor : UInt16
  patch : UInt16
  deriving Repr, DecidableEq

namespace Version

/-- The version of the wire protocol that this library speaks. -/
def ofProtocol : Version :=
  ⟨0, 1, 0⟩

/-- The version as text, with points. -/
def text (version : Version) : String :=
  s!"{version.major.toNat}.{version.minor.toNat}.{version.patch.toNat}"

/-- The written form: three words. -/
def fields (version : Version) : List Octets :=
  [Octets.ofWord16 version.major,
    Octets.ofWord16 version.minor,
    Octets.ofWord16 version.patch]

/-- Take a version. -/
def decode : Decoder Version := do
  let major ← Decoder.word16
  let minor ← Decoder.word16
  let patch ← Decoder.word16
  return ⟨major, minor, patch⟩

end Version

end StepSync
