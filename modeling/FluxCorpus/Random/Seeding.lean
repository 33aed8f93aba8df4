import FluxCorpus.Random.Whitening

/-!
# From a seed to 607 words

A seed starts the congruential stream `x ↦ 48271 * x` modulo `2 ^ 31 - 1`.  After twenty values
that are thrown away, each word of the ring buffer takes the next three, shifted over one another,
and is whitened by its word of the table.
-/

namespace FluxCorpus.Random

/-! ## The congruential stream -/

namespace Congruential

/-- The prime `2 ^ 31 - 1`. -/
def modulus : Int := 2147483647

/-- A generator of the multiplicative group of the prime. -/
def multiplier : Int := 48271

/-- The whole part of `modulus / multiplier`. -/
def quotient : Int := 44488

/-- What is left of `modulus / multiplier`. -/
def remainder : Int := 3399

/-- The value that stands for a seed divisible by the modulus, which the stream could never leave.
-/
def zeroReplacement : Int := 89482311

/-- What is left of a seed after division by the modulus.  The remainder has the sign of the seed, so
that of a negative seed is moved up. -/
def residue (seed : Int) : Int :=
  if seed.tmod modulus < 0 then seed.tmod modulus + modulus else seed.tmod modulus

/-- The first value of the stream for a seed: its residue, made positive. -/
def start (seed : Int) : Int := if residue seed = 0 then zeroReplacement else residue seed

/-- The part of the next value that comes from the low part of `x`. -/
def low (x : Int) : Int := multiplier * (x % quotient)

/-- The part of the next value that comes from the high part of `x`, to be taken away. -/
def high (x : Int) : Int := remainder * (x / quotient)

/-- The next value of the stream.  Splitting `x` at `quotient` keeps every intermediate result
within 31 bits and a sign. -/
def next (x : Int) : Int :=
  if low x - high x < 0 then low x - high x + modulus else low x - high x

/-- The value `n` steps after `x`. -/
def advance : Nat → Int → Int
  | 0, x => x
  | n + 1, x => advance n (next x)

end Congruential

open Congruential

/-! ## Filling the ring buffer -/

/-- A value of the stream as a word. -/
def toWord (x : Int) : UInt64 := UInt64.ofInt x

/-- Three values of the stream and a word of the table, as one word of the buffer. -/
def blend (x y z : Int) (white : UInt64) : UInt64 :=
  toWord x <<< 40 ^^^ toWord y <<< 20 ^^^ toWord z ^^^ white

/-- The number of values that are thrown away before the first word. -/
def warmUp : Nat := 20

/-- Writes the word of slot `i` from the next three values of the stream. -/
def fillSlot (i : Nat) (h : i < 607) (state : Int × Vector UInt64 607) :
    Int × Vector UInt64 607 :=
  let x := next state.1
  let y := next x
  let z := next y
  (z, state.2.set i (blend x y z whitening[i]))

/-- Overwrites every word of a buffer with the words of a seed. -/
def fillFrom (seed : Int) (buffer : Vector UInt64 607) : Vector UInt64 607 :=
  (Nat.fold 607 fillSlot (advance warmUp (start seed), buffer)).2

end FluxCorpus.Random
