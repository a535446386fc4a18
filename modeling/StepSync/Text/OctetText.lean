import StepSync.Octets.Basic

namespace StepSync.Text.OctetText

/-!
# Octet strings as text

An octet string is written as two lower-case hexadecimal digits for each octet.
`decode?` accepts exactly what `encode` writes.
-/

/-- The digits of sixteen, in order. -/
def digits : List Char :=
  ['0', '1', '2', '3', '4', '5', '6', '7', '8', '9', 'a', 'b', 'c', 'd', 'e',
    'f']

/-- The digit of a number below sixteen. -/
def digit (number : Nat) : Char :=
  digits.getD number '0'

/-- The number of a digit. -/
def digitValue? (character : Char) : Option Nat :=
  digits.findIdx? fun digit => digit == character

/-- Two digits for each octet, high digit first. -/
def encode : Octets → List Char
  | [] => []
  | octet :: rest =>
      digit (octet.toNat / 16) :: digit (octet.toNat % 16) :: encode rest

/--
The octets of a text in digits, behind octets that were read
already, newest first.
-/
def decodeOnto (newestFirst : Octets) : List Char → Option Octets
  | [] => some newestFirst.reverse
  | high :: low :: rest => do
      let upper ← digitValue? high
      let lower ← digitValue? low
      decodeOnto (UInt8.ofNat (16 * upper + lower) :: newestFirst) rest
  | [_] => none

/-- The octets of a text in pairs of digits. -/
def decode? (text : List Char) : Option Octets :=
  decodeOnto [] text

/-- A digit is found again. -/
theorem digitValue?_digit :
    ∀ number < 16, digitValue? (digit number) = some number := by
  decide

/-- Written octets are read back behind those that were there. -/
theorem decodeOnto_encode (newestFirst octets : Octets) :
    decodeOnto newestFirst (encode octets) =
      some (newestFirst.reverse ++ octets) := by
  induction octets generalizing newestFirst with
  | nil => simp [encode, decodeOnto]
  | cons octet rest inductionHypothesis =>
      have bound := octet.toNat_lt
      have high := digitValue?_digit (octet.toNat / 16) (by omega)
      have low := digitValue?_digit (octet.toNat % 16) (by omega)
      have whole :
          UInt8.ofNat (16 * (octet.toNat / 16) + octet.toNat % 16) =
            octet := by
        rw [Nat.div_add_mod]
        simp
      simp only [encode, decodeOnto, high, low, Option.bind_eq_bind,
        Option.bind_some]
      rw [whole, inductionHypothesis]
      simp

/-- What was written is read back. -/
theorem decode?_encode (octets : Octets) :
    decode? (encode octets) = some octets := by
  simpa [decode?] using decodeOnto_encode [] octets

end StepSync.Text.OctetText
