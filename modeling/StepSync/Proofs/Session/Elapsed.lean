import StepSync.Session.Latency

namespace StepSync.Session

/-!
# Times from their low bits

A datagram carries only the low bits of a time.  The time that is meant is the
latest one, not after now, that has them; there is none only if the clock has not
come so far.  A machine that masks and joins the bits of its words finds the same
time, and none of its differences falls below zero (`elapsedSince?_reconstructs`).
-/

/-- The latest time, not after now, that has the given low bits. -/
structure Latest (now : Nat) (bits : UInt16) (sentAt : Nat) : Prop where
  notAfter : sentAt ≤ now
  hasBits : sentAt % timeCircle = bits.toNat
  last : ∀ other ≤ now, other % timeCircle = bits.toNat → other ≤ sentAt

section

variable {now sentAt : Nat} {bits : UInt16}

/-- Less than a circle ago, no later time has the same low bits. -/
theorem latest_of_within
    (notAfter : sentAt ≤ now)
    (within : now < sentAt + timeCircle)
    (hasBits : sentAt % timeCircle = bits.toNat) :
    Latest now bits sentAt := by
  refine ⟨notAfter, hasBits, fun other otherNotAfter otherHasBits => ?_⟩
  unfold timeCircle at *
  omega

/--
The latest time lies less than a circle back: one circle after it
comes another one.
-/
theorem Latest.within (latest : Latest now bits sentAt) :
    now < sentAt + timeCircle := by
  apply Nat.lt_of_not_le
  intro further
  have sameBits : (sentAt + timeCircle) % timeCircle = bits.toNat := by
    rw [Nat.add_mod_right, latest.hasBits]
  have noLater := latest.last (sentAt + timeCircle) further sameBits
  unfold timeCircle at noLater
  omega

theorem Latest.unique
    {other : Nat}
    (latest : Latest now bits sentAt)
    (otherLatest : Latest now bits other) :
    other = sentAt :=
  Nat.le_antisymm
    (latest.last other otherLatest.notAfter otherLatest.hasBits)
    (otherLatest.last sentAt latest.notAfter latest.hasBits)

/--
Either no time has the low bits yet, or what has elapsed is counted from the
latest that has.
-/
theorem elapsedSince?_cases (now : Nat) (bits : UInt16) :
    elapsedSince? now bits = none ∧
        (∀ sentAt ≤ now, sentAt % timeCircle ≠ bits.toNat) ∨
      ∃ sentAt, Latest now bits sentAt ∧
        elapsedSince? now bits = some (now - sentAt) := by
  have small : bits.toNat < timeCircle := bits.toNat_lt
  unfold elapsedSince?
  dsimp only
  -- The candidate has the low bits and lies in the same circle as now.
  generalize atCandidate :
    now / timeCircle * timeCircle + bits.toNat = candidate
  by_cases past : candidate ≤ now
  · refine .inr ⟨candidate, latest_of_within past ?_ ?_, if_pos past⟩ <;>
      unfold timeCircle at * <;> omega
  · rw [if_neg past]
    by_cases earlier : timeCircle ≤ candidate
    · refine .inr
        ⟨candidate - timeCircle, latest_of_within ?_ ?_ ?_, if_pos earlier⟩ <;>
        unfold timeCircle at * <;> omega
    · refine .inl ⟨if_neg earlier, fun sentAt notAfter hasBits => ?_⟩
      unfold timeCircle at *
      omega

/-- What has elapsed is counted from the latest time. -/
theorem elapsedSince?_of_latest (latest : Latest now bits sentAt) :
    elapsedSince? now bits = some (now - sentAt) := by
  rcases elapsedSince?_cases now bits with
    ⟨_, noTime⟩ | ⟨other, otherLatest, found⟩
  · exact absurd latest.hasBits (noTime sentAt latest.notAfter)
  · rw [found, latest.unique otherLatest]

/-- The low bits of a time that is less than a circle old say how old it is. -/
theorem elapsedSince?_lowerBits
    (notAfter : sentAt ≤ now)
    (within : now < sentAt + timeCircle) :
    elapsedSince? now (lowerBits sentAt) = some (now - sentAt) :=
  elapsedSince?_of_latest
    (latest_of_within notAfter within UInt16.toNat_ofNat'.symm)

theorem elapsedSince?_lt
    {elapsed : Nat}
    (found : elapsedSince? now bits = some elapsed) :
    elapsed < timeCircle := by
  rcases elapsedSince?_cases now bits with
    ⟨missing, _⟩ | ⟨sentAt, latest, same⟩
  · cases missing.symm.trans found
  · obtain rfl := Option.some.inj (same.symm.trans found)
    have within := latest.within
    have notAfter := latest.notAfter
    omega

end

/-! ## In machine words -/

/-- The difference of two words; there is none below zero. -/
def difference? (first second : UInt64) : Option UInt64 :=
  if second ≤ first then some (first - second) else none

/-- The low bits of a word. -/
def lowMask : UInt64 :=
  0xFFFF

/-- The low bits of now are replaced by the given ones. -/
def joinLow (now : UInt64) (bits : UInt16) : UInt64 :=
  (now &&& ~~~lowMask) ||| bits.toUInt64

/--
How long ago a time with the given low bits was, computed in words.  Only one
difference is tested for being below zero, and means that there was no such time; if
the other one were, nothing would be computed.
-/
def elapsedInWords? (now : UInt64) (bits : UInt16) :
    Option (Option UInt64) :=
  let candidate := joinLow now bits
  if now < candidate then
    match difference? candidate (UInt64.ofNat timeCircle) with
    | none => some none
    | some earlier => (difference? now earlier).map some
  else (difference? now candidate).map some

theorem difference?_of_le
    {first second : UInt64}
    (above : second.toNat ≤ first.toNat) :
    difference? first second =
      some (UInt64.ofNat (first.toNat - second.toNat)) := by
  have isLe : second ≤ first := UInt64.le_iff_toNat_le.mpr above
  have exact : (first - second).toNat = first.toNat - second.toNat :=
    UInt64.toNat_sub_of_le first second isLe
  rw [difference?, if_pos isLe, ← exact, UInt64.ofNat_toNat]

theorem difference?_of_lt
    {first second : UInt64}
    (below : first.toNat < second.toNat) :
    difference? first second = none :=
  if_neg fun isLe =>
    Nat.not_le.mpr below (UInt64.le_iff_toNat_le.mp isLe)

/-- Where a mask clears one word and keeps another they have no bit in common. -/
theorem cleared_and_masked (first second mask : BitVec 64) :
    (first &&& ~~~mask) &&& (second &&& mask) = 0 := by
  ext index
  simp only [BitVec.getElem_and, BitVec.getElem_not]
  cases first[index] <;> cases second[index] <;> cases mask[index] <;> simp

/-- What a mask clears and what it keeps make up the word. -/
theorem cleared_or_masked (word mask : BitVec 64) :
    (word &&& ~~~mask) ||| (word &&& mask) = word := by
  ext index
  simp only [BitVec.getElem_or, BitVec.getElem_and, BitVec.getElem_not]
  cases word[index] <;> cases mask[index] <;> rfl

theorem toNat_masked (word : UInt64) :
    (word &&& lowMask).toNat = word.toNat % timeCircle := by
  rw [UInt64.toNat_and]
  exact Nat.and_two_pow_sub_one_eq_mod word.toNat 16

/-- Joining masked bits to a cleared word adds them. -/
theorem toNat_cleared_or_masked (first second : UInt64) :
    ((first &&& ~~~lowMask) ||| (second &&& lowMask)).toNat =
      (first &&& ~~~lowMask).toNat + (second &&& lowMask).toNat := by
  have disjoint :=
    cleared_and_masked first.toBitVec second.toBitVec lowMask.toBitVec
  have sum := BitVec.toNat_add_of_and_eq_zero disjoint
  rw [BitVec.add_eq_or_of_and_eq_zero _ _ disjoint] at sum
  exact sum

/-- Clearing the low bits leaves whole circles. -/
theorem toNat_cleared (word : UInt64) :
    (word &&& ~~~lowMask).toNat =
      word.toNat / timeCircle * timeCircle := by
  have whole : (word &&& ~~~lowMask) ||| (word &&& lowMask) = word :=
    UInt64.toBitVec_inj.mp
      (cleared_or_masked word.toBitVec lowMask.toBitVec)
  have parts := toNat_cleared_or_masked word word
  rw [whole, toNat_masked] at parts
  have divided := Nat.div_add_mod' word.toNat timeCircle
  omega

/-- Joining puts the given bits behind whole circles. -/
theorem toNat_joinLow (now : UInt64) (bits : UInt16) :
    (joinLow now bits).toNat =
      now.toNat / timeCircle * timeCircle + bits.toNat := by
  have small : bits.toNat < timeCircle := bits.toNat_lt
  have low : bits.toUInt64 &&& lowMask = bits.toUInt64 := by
    apply UInt64.toNat_inj.mp
    rw [toNat_masked, UInt16.toNat_toUInt64, Nat.mod_eq_of_lt small]
  rw [joinLow, ← low, toNat_cleared_or_masked, toNat_cleared, low,
    UInt16.toNat_toUInt64]

/-- In words the same is computed, and all differences that are not tested exist. -/
theorem elapsedInWords?_eq (now : UInt64) (bits : UInt16) :
    elapsedInWords? now bits =
      some ((elapsedSince? now.toNat bits).map UInt64.ofNat) := by
  have candidate := toNat_joinLow now bits
  have circle : (UInt64.ofNat timeCircle).toNat = timeCircle := rfl
  unfold elapsedInWords? elapsedSince?
  dsimp only
  rw [← candidate]
  by_cases ahead : now < joinLow now bits
  · have above := UInt64.lt_iff_toNat_lt.mp ahead
    rw [if_pos ahead, if_neg (Nat.not_le.mpr above)]
    by_cases wraps : timeCircle ≤ (joinLow now bits).toNat
    · have earlier :
          difference? (joinLow now bits) (UInt64.ofNat timeCircle) =
            some (UInt64.ofNat
              ((joinLow now bits).toNat - timeCircle)) :=
        difference?_of_le wraps
      have small : (joinLow now bits).toNat - timeCircle < UInt64.size :=
        Nat.lt_of_le_of_lt (Nat.sub_le _ _) (joinLow now bits).toNat_lt
      have sameEarlier := UInt64.toNat_ofNat_of_lt' small
      have notAfter :
          (joinLow now bits).toNat - timeCircle ≤ now.toNat := by
        have smallBits : bits.toNat < timeCircle := bits.toNat_lt
        unfold timeCircle at *
        omega
      rw [earlier, if_pos wraps]
      dsimp only
      rw [difference?_of_le (by rw [sameEarlier]; exact notAfter),
        sameEarlier]
      rfl
    · have below := Nat.lt_of_not_le wraps
      rw [difference?_of_lt (by rw [circle]; exact below), if_neg wraps]
      rfl
  · have notAfter := Nat.not_lt.mp (mt UInt64.lt_iff_toNat_lt.mpr ahead)
    rw [if_neg ahead, if_pos notAfter, difference?_of_le notAfter]
    rfl

/--
Whatever the clock says, low bits stand for the latest time that has them, and the
age that is computed is the exact one: in the words of a machine as in numbers.
-/
structure Reconstructs (now : UInt64) (bits : UInt16) : Prop where
  none_iff :
    elapsedSince? now.toNat bits = none ↔
      ¬∃ sentAt ≤ now.toNat, sentAt % timeCircle = bits.toNat
  some_iff : ∀ elapsed,
    elapsedSince? now.toNat bits = some elapsed ↔
      ∃ sentAt, Latest now.toNat bits sentAt ∧
        elapsed = now.toNat - sentAt
  bounded : ∀ elapsed,
    elapsedSince? now.toNat bits = some elapsed → elapsed ≤ 65535
  inWords :
    elapsedInWords? now bits =
      some ((elapsedSince? now.toNat bits).map UInt64.ofNat)

theorem elapsedSince?_reconstructs (now : UInt64) (bits : UInt16) :
    Reconstructs now bits := by
  constructor
  case bounded =>
    exact fun elapsed found => Nat.le_of_lt_succ (elapsedSince?_lt found)
  case inWords => exact elapsedInWords?_eq now bits
  case none_iff =>
    rcases elapsedSince?_cases now.toNat bits with
      ⟨missing, noTime⟩ | ⟨sentAt, latest, found⟩
    · exact iff_of_true missing fun ⟨sentAt, notAfter, hasBits⟩ =>
        noTime sentAt notAfter hasBits
    · refine iff_of_false (by rw [found]; nofun) (not_not_intro ?_)
      exact ⟨sentAt, latest.notAfter, latest.hasBits⟩
  case some_iff =>
    intro elapsed
    constructor
    · intro found
      rcases elapsedSince?_cases now.toNat bits with
        ⟨missing, _⟩ | ⟨sentAt, latest, same⟩
      · cases missing.symm.trans found
      · exact ⟨sentAt, latest, Option.some.inj (found.symm.trans same)⟩
    · rintro ⟨sentAt, latest, rfl⟩
      exact elapsedSince?_of_latest latest

end StepSync.Session
