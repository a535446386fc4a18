namespace StepSync

/-!
# Octet strings

Datagrams, payloads and snapshots are lists of octets. Numbers travel in a
fixed number of octets, least significant first; `littleEndian` writes them and
`value` reads them, and each undoes the other within the width.
-/

/-- A string of octets, first octet first. -/
abbrev Octets := List UInt8

namespace Octets

/-- The low `width` octets of a number, least significant first. -/
def littleEndian : (width number : Nat) → Octets
  | 0, _ => []
  | width + 1, number =>
      UInt8.ofNat number :: littleEndian width (number / 256)

/-- The number whose octets, least significant first, are the given ones. -/
def value : Octets → Nat
  | [] => 0
  | octet :: rest => octet.toNat + 256 * value rest

/-- The two octets of a 16-bit word. -/
def ofWord16 (word : UInt16) : Octets :=
  littleEndian 2 word.toNat

/-- The four octets of a 32-bit word. -/
def ofWord32 (word : UInt32) : Octets :=
  littleEndian 4 word.toNat

/-- The eight octets of a 64-bit word. -/
def ofWord64 (word : UInt64) : Octets :=
  littleEndian 8 word.toNat

/-- A number takes as many octets as it is given. -/
@[simp] theorem length_littleEndian (width number : Nat) :
    (littleEndian width number).length = width := by
  induction width generalizing number with
  | zero => rfl
  | succ width inductionHypothesis =>
      simp [littleEndian, inductionHypothesis]

/-- How many numbers octets of a width can denote. -/
def bound : Nat → Nat
  | 0 => 1
  | width + 1 => 256 * bound width

/-- Octets denote a number below the bound of their count. -/
theorem value_lt (octets : Octets) : octets.value < bound octets.length := by
  induction octets with
  | nil => decide
  | cons octet rest inductionHypothesis =>
      have small := octet.toNat_lt
      simp only [value, List.length_cons, bound]
      omega

/-- Reading back a written number keeps what fits the width. -/
theorem value_littleEndian (width number : Nat) :
    value (littleEndian width number) = number % bound width := by
  induction width generalizing number with
  | zero => simp [littleEndian, value, bound, Nat.mod_one]
  | succ width inductionHypothesis =>
      have first : (UInt8.ofNat number).toNat = number % 256 := by
        simp
      simp only [littleEndian, value, inductionHypothesis, first]
      rw [bound, Nat.mod_mul]

/-- Octets are the written form of the number they denote. -/
theorem littleEndian_value (octets : Octets) :
    littleEndian octets.length octets.value = octets := by
  induction octets with
  | nil => rfl
  | cons octet rest inductionHypothesis =>
      have bound := octet.toNat_lt
      have quotient : (octet.toNat + 256 * value rest) / 256 = value rest := by
        omega
      have first : UInt8.ofNat (octet.toNat + 256 * value rest) = octet := by
        apply UInt8.toNat_inj.mp
        simp only [UInt8.toNat_ofNat']
        omega
      simp only [List.length_cons, littleEndian, value, quotient, first,
        inductionHypothesis]

@[simp] theorem length_ofWord16 (word : UInt16) : (ofWord16 word).length = 2 :=
  length_littleEndian 2 _

@[simp] theorem length_ofWord32 (word : UInt32) : (ofWord32 word).length = 4 :=
  length_littleEndian 4 _

@[simp] theorem length_ofWord64 (word : UInt64) : (ofWord64 word).length = 8 :=
  length_littleEndian 8 _

/-- The octets of a word have its value. -/
theorem value_ofWord16 (word : UInt16) : value (ofWord16 word) = word.toNat :=
  (value_littleEndian 2 _).trans (Nat.mod_eq_of_lt word.toNat_lt)

theorem value_ofWord32 (word : UInt32) : value (ofWord32 word) = word.toNat :=
  (value_littleEndian 4 _).trans (Nat.mod_eq_of_lt word.toNat_lt)

theorem value_ofWord64 (word : UInt64) : value (ofWord64 word) = word.toNat :=
  (value_littleEndian 8 _).trans (Nat.mod_eq_of_lt word.toNat_lt)

end Octets

end StepSync
