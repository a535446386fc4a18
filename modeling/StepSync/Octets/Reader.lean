import StepSync.Octets.Basic
import StepSync.Octets.CursorError

namespace StepSync

/-!
# Reading octets

A `Reader` stands somewhere in a string of octets. A `Decoder` takes a value
from where the reader stands and moves it on; when the value is not there it
fails and says where. A read that does not fit moves nothing, so after a failed
composed decoder the reader stands where the failing part began.
-/

/-- A place in a string of octets: how many were passed, and those to come. -/
structure Reader where
  position : Nat
  rest : Octets
  deriving Repr, DecidableEq

namespace Reader

/-- The start of a string of octets. -/
def ofOctets (octets : Octets) : Reader :=
  ⟨0, octets⟩

/-- The length of the whole string, passed part included. -/
def size (reader : Reader) : Nat :=
  reader.position + reader.rest.length

/-- The number of octets to come. -/
def remaining (reader : Reader) : Nat :=
  reader.rest.length

/-- Nothing is left to read. -/
def isConsumed (reader : Reader) : Bool :=
  reader.rest.isEmpty

/-- The error of a read that wants more than is left. -/
def underflow (reader : Reader) (wanted : Nat) : CursorError :=
  .underflow reader.position wanted reader.size

/-- The next octet, which stays unread. -/
def peek (reader : Reader) : Except CursorError UInt8 :=
  match reader.rest with
  | [] => .error (reader.underflow 1)
  | octet :: _ => .ok octet

end Reader

/--
Takes a value from a reader, or fails; either way says where the
reader stands after.
-/
def Decoder (Value : Type) : Type :=
  Reader → Except CursorError Value × Reader

namespace Decoder

variable {Value Result : Type}

/-- Takes nothing. -/
protected def pure (found : Value) : Decoder Value :=
  fun reader => (.ok found, reader)

/-- Takes one value and goes on with it; a failure ends the reading there. -/
protected def bind
    (decoder : Decoder Value)
    (next : Value → Decoder Result) : Decoder Result :=
  fun reader =>
    match decoder reader with
    | (.ok found, after) => next found after
    | (.error failure, after) => (.error failure, after)

instance : Monad Decoder where
  pure := Decoder.pure
  bind := Decoder.bind

@[simp] theorem pure_apply (found : Value) (reader : Reader) :
    (pure found : Decoder Value) reader = (.ok found, reader) :=
  rfl

theorem bind_apply
    (decoder : Decoder Value)
    (next : Value → Decoder Result)
    (reader : Reader) :
    (decoder >>= next) reader =
      match decoder reader with
      | (.ok found, after) => next found after
      | (.error failure, after) => (.error failure, after) :=
  rfl

/-- A decoder after one that succeeds. -/
theorem bind_of_ok
    {decoder : Decoder Value}
    {next : Value → Decoder Result}
    {reader after : Reader}
    {found : Value}
    (succeeds : decoder reader = (.ok found, after)) :
    (decoder >>= next) reader = next found after := by
  rw [bind_apply, succeeds]

/-- A decoder after one that fails. -/
theorem bind_of_error
    {decoder : Decoder Value}
    {next : Value → Decoder Result}
    {reader after : Reader}
    {failure : CursorError}
    (fails : decoder reader = (.error failure, after)) :
    (decoder >>= next) reader = (.error failure, after) := by
  rw [bind_apply, fails]

/-- Take exactly `count` octets. -/
def octets (count : Nat) : Decoder Octets :=
  fun reader =>
    if count ≤ reader.rest.length then
      (.ok (reader.rest.take count),
        ⟨reader.position + count, reader.rest.drop count⟩)
    else
      (.error (reader.underflow count), reader)

/-- Take an unsigned number of `width` octets. -/
def number (width : Nat) : Decoder Nat := do
  return Octets.value (← octets width)

/-- Take one octet. -/
def octet : Decoder UInt8 := do
  return UInt8.ofNat (← number 1)

/-- Take one octet as a signed number. -/
def signedOctet : Decoder Int8 := do
  return (← octet).toInt8

/-- Take a 16-bit word. -/
def word16 : Decoder UInt16 := do
  return UInt16.ofNat (← number 2)

/-- Take a 32-bit word. -/
def word32 : Decoder UInt32 := do
  return UInt32.ofNat (← number 4)

/-- Take a 64-bit word. -/
def word64 : Decoder UInt64 := do
  return UInt64.ofNat (← number 8)

/-- Fail, taking nothing more. -/
def fail (failure : CursorError) : Decoder Value :=
  fun reader => (.error failure, reader)

/--
Take one octet, which has to be the expected one. The octet is taken also when
it is another.
-/
def marker (expected : UInt8) : Decoder Unit := do
  let found ← octet
  if found = expected then return ()
  else fail (.marker expected found)

/-- Take `count` values of one kind, in order. -/
def times (count : Nat) (decoder : Decoder Value) : Decoder (List Value) :=
  match count with
  | 0 => return []
  | count + 1 => do
      let first ← decoder
      let others ← times count decoder
      return first :: others

/-- Octets that are there are taken. -/
theorem octets_append (taken rest : Octets) (position : Nat) :
    octets taken.length ⟨position, taken ++ rest⟩ =
      (.ok taken, ⟨position + taken.length, rest⟩) := by
  simp [octets]

end Decoder

end StepSync
