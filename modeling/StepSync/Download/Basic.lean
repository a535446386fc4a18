import StepSync.Download.Assembly
import StepSync.Steps.Basic

namespace StepSync

/-!
# Downloads

A download is the assembly of one announced snapshot. Only parts on its channel
belong to it.
-/

/-- The state of the game before a step. -/
structure Snapshot where
  stepId : StepId
  octets : Octets
  deriving Repr, DecidableEq

/-- A snapshot on its way. -/
structure Download where
  channel : UInt16
  stepId : StepId
  assembly : Assembly
  deriving Repr, DecidableEq

namespace Download

/-- The start of a download that was announced. -/
def announced (channel : UInt16) (stepId : StepId) (octetCount : Nat) :
    Download where
  channel := channel
  stepId := stepId
  assembly := Assembly.empty octetCount

/-- The snapshot, once every part has arrived. -/
def snapshot? (download : Download) : Option Snapshot :=
  download.assembly.octets?.map fun octets => ⟨download.stepId, octets⟩

end Download

end StepSync
