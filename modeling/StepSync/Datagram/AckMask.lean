namespace StepSync

/-!
# Acknowledgement masks

Behind the id that is awaited next, 64 bits say which of the ids after it have
arrived already: bit `i` stands for the `i`-th of them.
-/

/-- The number whose bit `i` is set exactly when entry `i` is true. -/
def bitsValue : List Bool → Nat
  | [] => 0
  | bit :: bits => bit.toNat + 2 * bitsValue bits

/-- The mask of the first 64 entries. -/
def ackMask (arrived : List Bool) : UInt64 :=
  UInt64.ofNat (bitsValue (arrived.take 64))

/-- Bit `i` of the number is entry `i`, and clear beyond the last. -/
theorem testBit_bitsValue (bits : List Bool) (index : Nat) :
    (bitsValue bits).testBit index = bits.getD index false := by
  induction bits generalizing index with
  | nil => simp [bitsValue]
  | cons bit bits inductionHypothesis =>
      cases index with
      | zero =>
          cases bit <;> simp [bitsValue, Nat.testBit_zero]
      | succ index =>
          have halved :
              (bit.toNat + 2 * bitsValue bits) / 2 = bitsValue bits := by
            have bounded : bit.toNat ≤ 1 := Bool.toNat_le bit
            omega
          rw [bitsValue, Nat.testBit_succ, halved, inductionHypothesis]
          simp

end StepSync
