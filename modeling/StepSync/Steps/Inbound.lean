import StepSync.Steps.Window

namespace StepSync

/-!
# Authoritative steps on their way in

Authoritative steps pass from the receive window, where they wait for the ones
before them, to the queue from which the application reads them in order.
-/

/-- The steps that wait for others, and those that are ready to be read. -/
structure Inbound where
  window : ReceiveWindow
  ready : StepQueue
  deriving Repr, DecidableEq

namespace Inbound

/-- The most steps that are ready at once; further ones wait in the window. -/
def readyCapacity : Nat :=
  128

/-- No authoritative steps, the first to come at the given id. -/
def startingAt (first : StepId) : Inbound where
  window := ReceiveWindow.expecting first
  ready := StepQueue.startingAt first readyCapacity

/-- Drop every authoritative step and go on from another id. -/
def restart (inbound : Inbound) (first : StepId) : Inbound where
  window := ReceiveWindow.expecting first
  ready := inbound.ready.restart first

/-- Make the completed steps ready. -/
def release (inbound : Inbound) : Except StepError (Nat × Inbound) :=
  match inbound.window.releaseInto inbound.ready with
  | .ok released => .ok (released.moved, ⟨released.window, released.queue⟩)
  | .error failure => .error failure

/--
What reading gives: the step, the error of refilling behind it,
and what is left.
-/
structure Reading where
  step : Step
  refused : Option StepError
  inbound : Inbound
  deriving Repr, DecidableEq

/-- Take the first step that is ready, and let a waiting one take its place. -/
def read (inbound : Inbound) : Option Reading :=
  match inbound.ready.read with
  | none => none
  | some (step, ready) =>
      let left : Inbound := { inbound with ready := ready }
      if left.window.storedCount = 0 then some ⟨step, none, left⟩
      else
        match left.release with
        | .ok (_, refilled) => some ⟨step, none, refilled⟩
        | .error failure => some ⟨step, some failure, left⟩

/-- The steps held, waiting or ready. -/
def held (inbound : Inbound) : Nat :=
  inbound.window.storedCount + inbound.ready.length

end Inbound

end StepSync
