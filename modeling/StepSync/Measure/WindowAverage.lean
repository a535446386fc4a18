import StepSync.Numeric.Binary64

namespace StepSync

/-!
# Averages over a sliding window

An average is taken over the last samples, a fixed number of them; until so many
were added there is none. The least and the greatest sample are those of all
that were ever added, also of the ones that have left the window.
-/

/--
The samples in the window, oldest first, their sum, whether the window was ever
full, and the extremes of all samples.
-/
structure WindowAverage where
  window : Nat
  samples : List Int
  sum : Int
  filled : Bool
  least : Option Int
  greatest : Option Int
  deriving Repr, DecidableEq

namespace WindowAverage

/-- No samples yet; a window holds at least one. -/
def ofWindow (window : Nat) : WindowAverage where
  window := max window 1
  samples := []
  sum := 0
  filled := false
  least := none
  greatest := none

/-- In a full window, the oldest sample goes. -/
def makeRoom (average : WindowAverage) : WindowAverage :=
  if average.samples.length = average.window then
    { average with
      samples := average.samples.tail
      sum := average.sum - average.samples.headD 0 }
  else average

/-- Add a sample; in a full window it takes the place of the oldest. -/
def add (average : WindowAverage) (sample : Int) : WindowAverage :=
  let room := average.makeRoom
  { room with
    samples := room.samples ++ [sample]
    sum := room.sum + sample
    filled :=
      room.filled || (room.samples ++ [sample]).length == room.window
    least :=
      some (room.least.elim sample fun least => min least sample)
    greatest :=
      some (room.greatest.elim sample fun greatest => max greatest sample) }

/--
The mean once the window was full, a half going away from zero.  It is computed
with the precision of a processor, and becomes a word at the end.
-/
def mean (average : WindowAverage) : Option Int :=
  if average.filled = false then none
  else
    let quotient :=
      Binary64.div (Binary64.round average.sum)
        (Binary64.round average.samples.length)
    some (Binary64.toWord (Binary64.toNearest quotient))

/-- The newest sample. -/
def last (average : WindowAverage) : Option Int :=
  average.samples.getLast?

/-- Forget every sample. -/
def clear (average : WindowAverage) : WindowAverage :=
  ofWindow average.window

/-- The mean and the extremes in words. -/
def text (average : WindowAverage) : String :=
  match average.mean, average.least, average.greatest with
  | some mean, some least, some greatest =>
      s!"avg {mean} (min {least}, max {greatest})"
  | _, _, _ => "n/a"

end WindowAverage

end StepSync
