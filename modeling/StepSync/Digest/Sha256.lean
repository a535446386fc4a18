import StepSync.Octets.Basic

namespace StepSync.Sha256

/-!
# SHA-256

The digest of a string of octets. The string is padded with a one bit, zeros and
its length in bits to whole blocks of sixteen words; each block is expanded to
sixty-four words, and each of these stirs the eight words of the state once.
-/

/-- The eight working words. -/
structure State where
  a : UInt32
  b : UInt32
  c : UInt32
  d : UInt32
  e : UInt32
  f : UInt32
  g : UInt32
  h : UInt32
  deriving Repr, DecidableEq

/-- The state before the first block. -/
def start : State where
  a := 0x6a09e667
  b := 0xbb67ae85
  c := 0x3c6ef372
  d := 0xa54ff53a
  e := 0x510e527f
  f := 0x9b05688c
  g := 0x1f83d9ab
  h := 0x5be0cd19

/-- One constant for each of the sixty-four rounds. -/
def roundConstants : List UInt32 :=
  [0x428a2f98, 0x71374491, 0xb5c0fbcf, 0xe9b5dba5,
    0x3956c25b, 0x59f111f1, 0x923f82a4, 0xab1c5ed5,
    0xd807aa98, 0x12835b01, 0x243185be, 0x550c7dc3,
    0x72be5d74, 0x80deb1fe, 0x9bdc06a7, 0xc19bf174,
    0xe49b69c1, 0xefbe4786, 0x0fc19dc6, 0x240ca1cc,
    0x2de92c6f, 0x4a7484aa, 0x5cb0a9dc, 0x76f988da,
    0x983e5152, 0xa831c66d, 0xb00327c8, 0xbf597fc7,
    0xc6e00bf3, 0xd5a79147, 0x06ca6351, 0x14292967,
    0x27b70a85, 0x2e1b2138, 0x4d2c6dfc, 0x53380d13,
    0x650a7354, 0x766a0abb, 0x81c2c92e, 0x92722c85,
    0xa2bfe8a1, 0xa81a664b, 0xc24b8b70, 0xc76c51a3,
    0xd192e819, 0xd6990624, 0xf40e3585, 0x106aa070,
    0x19a4c116, 0x1e376c08, 0x2748774c, 0x34b0bcb5,
    0x391c0cb3, 0x4ed8aa4a, 0x5b9cca4f, 0x682e6ff3,
    0x748f82ee, 0x78a5636f, 0x84c87814, 0x8cc70208,
    0x90befffa, 0xa4506ceb, 0xbef9a3f7, 0xc67178f2]

/-- Turn a word to the right. -/
@[inline] def rotate (word amount : UInt32) : UInt32 :=
  (word >>> amount) ||| (word <<< (32 - amount))

/-- The next word of a block's expansion, from the words so far, newest first. -/
def nextWord (newestFirst : List UInt32) : UInt32 :=
  let early := newestFirst.getD 14 0
  let late := newestFirst.getD 1 0
  newestFirst.getD 15 0 +
    (rotate early 7 ^^^ rotate early 18 ^^^ (early >>> 3)) +
    newestFirst.getD 6 0 +
    (rotate late 17 ^^^ rotate late 19 ^^^ (late >>> 10))

/-- Lengthen a block's expansion, newest word first, by a number of words. -/
def expand : Nat → List UInt32 → List UInt32
  | 0, newestFirst => newestFirst
  | count + 1, newestFirst =>
      expand count (nextWord newestFirst :: newestFirst)

/-- One round: stir the state with a constant and a word. -/
def stir (state : State) (constant word : UInt32) : State :=
  let first :=
    state.h +
      (rotate state.e 6 ^^^ rotate state.e 11 ^^^ rotate state.e 25) +
      ((state.e &&& state.f) ^^^ (state.e.complement &&& state.g)) +
      constant + word
  let second :=
    (rotate state.a 2 ^^^ rotate state.a 13 ^^^ rotate state.a 22) +
      ((state.a &&& state.b) ^^^ (state.a &&& state.c) ^^^
        (state.b &&& state.c))
  { a := first + second
    b := state.a
    c := state.b
    d := state.c
    e := state.d + first
    f := state.e
    g := state.f
    h := state.g }

/-- Stir with constants and words, pair by pair. -/
def stirAll : State → List UInt32 → List UInt32 → State
  | state, constant :: constants, word :: words =>
      stirAll (stir state constant word) constants words
  | state, _, _ => state

/-- Take one block of sixteen words into the state. -/
def absorbBlock (state : State) (block : List UInt32) : State :=
  let stirred :=
    stirAll state roundConstants (expand 48 block.reverse).reverse
  { a := state.a + stirred.a
    b := state.b + stirred.b
    c := state.c + stirred.c
    d := state.d + stirred.d
    e := state.e + stirred.e
    f := state.f + stirred.f
    g := state.g + stirred.g
    h := state.h + stirred.h }

/--
Take whole blocks of words into the state; fewer than sixteen words at the
end are left out.
-/
def absorb (state : State) : List UInt32 → State
  | w0 :: w1 :: w2 :: w3 :: w4 :: w5 :: w6 :: w7 :: w8 :: w9 :: w10 :: w11 ::
      w12 :: w13 :: w14 :: w15 :: rest =>
      absorb
        (absorbBlock state
          [w0, w1, w2, w3, w4, w5, w6, w7, w8, w9, w10, w11, w12, w13, w14,
            w15])
        rest
  | _ => state

/-- The word of four octets, most significant first. -/
def wordOf (first second third fourth : UInt8) : UInt32 :=
  (first.toUInt32 <<< 24) ||| (second.toUInt32 <<< 16) |||
    (third.toUInt32 <<< 8) ||| fourth.toUInt32

/-- Octets as words of four, most significant octet first. -/
def words : Octets → List UInt32
  | first :: second :: third :: fourth :: rest =>
      wordOf first second third fourth :: words rest
  | _ => []

/-- What follows a message of a given length to complete its last block. -/
def padding (length : Nat) : Octets :=
  0x80 :: List.replicate ((119 - length % 64) % 64) 0 ++
    (Octets.littleEndian 8 (8 * length)).reverse

/-- The octets of a word, most significant first. -/
def wordOctets (word : UInt32) : Octets :=
  (Octets.ofWord32 word).reverse

/-- The thirty-two octets of the digest. -/
def digest (message : Octets) : Octets :=
  let final := absorb start (words (message ++ padding message.length))
  wordOctets final.a ++ wordOctets final.b ++ wordOctets final.c ++
    wordOctets final.d ++ wordOctets final.e ++ wordOctets final.f ++
    wordOctets final.g ++ wordOctets final.h

end StepSync.Sha256
