namespace StepSync.Text

/-!
# Upper-case hexadecimal text

Ids, nonces, channels and command octets are shown in upper-case hexadecimal,
padded with zeros to a fixed number of digits.
-/

/-- One upper-case hexadecimal digit; only the low four bits count. -/
def hexDigit (number : Nat) : Char :=
  let digit := number % 16
  if digit < 10 then Char.ofNat ('0'.toNat + digit)
  else Char.ofNat ('A'.toNat + (digit - 10))

/-- The low `width` hexadecimal digits of a number, most significant first. -/
def hexDigits : (width number : Nat) → List Char
  | 0, _ => []
  | width + 1, number =>
      hexDigits width (number / 16) ++ [hexDigit number]

/-- Hexadecimal text of a number that fits the given digits. -/
def hexadecimal (width number : Nat) : String :=
  String.ofList (hexDigits width number)

/-- An octet as two digits after `0x`. -/
def markedOctet (octet : UInt8) : String :=
  "0x" ++ hexadecimal 2 octet.toNat

example : hexadecimal 4 0xBEEF = "BEEF" := by decide
example : markedOctet 0x1F = "0x1F" := by decide

end StepSync.Text
