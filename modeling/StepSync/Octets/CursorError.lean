import StepSync.Text.Hexadecimal

namespace StepSync

/-!
# Errors of the octet cursors

A read may run past the end of its octets, a write past its capacity, and an
octet that has to be a fixed marker may be another one.
-/

/-- Why a read or a write was refused. -/
inductive CursorError where
  | underflow (position wanted size : Nat)
  | overflow (position wanted capacity : Nat)
  | marker (expected found : UInt8)
  deriving Repr, DecidableEq

namespace CursorError

/-- The error in words. -/
def message : CursorError → String
  | underflow position wanted size =>
      s!"read of {wanted} octets at {position} overruns stream of {size}"
  | overflow position wanted capacity =>
      s!"write of {wanted} octets at {position} overruns capacity {capacity}"
  | marker expected found =>
      "expected marker " ++ Text.markedOctet expected ++ ", found " ++
        Text.markedOctet found

end CursorError

end StepSync
