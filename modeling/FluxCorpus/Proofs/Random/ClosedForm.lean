import FluxCorpus.Proofs.Random.Seeding
import FluxCorpus.Random.Lagged

/-!
# Seeding in closed form

The values that seeding takes from the congruential stream are a geometric sequence modulo the
prime.  A product of two residues has up to 46 bits, but the stream never computes one: it splits a
value at the whole part of `modulus / multiplier`, and then no product, difference or sum on the way
to the next value needs more than 31 bits and a sign.

* `Congruential.valueAt` — the values of the stream for a seed; `next_valueAt`, `advance_start`.
* `Congruential.StepFits` — what is computed in a step fits into 32 bits; `stepFits` — so it does
  for every value that the stream can have.
* `loopAt` — the loop that fills the slots, before it comes to a given one.
* `seeding_closed_form` — **the values, the loop and the words of all slots**, for every seed.
-/

namespace FluxCorpus.Random

namespace Congruential

/-! ## The values of the stream -/

/-- The `j`-th value of the stream for a seed. -/
def valueAt (seed : Int) (j : Nat) : Int := 48271 ^ j * normalSeed seed % 2147483647

theorem advance_start (seed : Int) (j : Nat) : advance j (start seed) = valueAt seed j := by
  rw [advance_eq j (inRange_start seed), start_eq_normalSeed]
  rfl

theorem inRange_valueAt (seed : Int) (j : Nat) : InRange (valueAt seed j) := by
  rw [← advance_start]
  exact inRange_advance j (inRange_start seed)

theorem next_valueAt (seed : Int) (j : Nat) : next (valueAt seed j) = valueAt seed (j + 1) := by
  rw [← advance_start, ← advance_start, advance_add]
  rfl

/-! ## The numbers on the way -/

/-- A number that fits into 32 bits with a sign. -/
def Fits (v : Int) : Prop := -2147483648 ≤ v ∧ v < 2147483648

/-- All that is computed on the way from a value to the next one fits: two products, their
difference, and the sum of this and the modulus where it is needed. -/
structure StepFits (x : Int) : Prop where
  lowPart : Fits (low x)
  highPart : Fits (high x)
  difference : Fits (low x - high x)
  sum : low x - high x < 0 → Fits (low x - high x + modulus)

/-- The low part is at most `48271 * 44487`, which is less than the modulus, and the high part is
far below it. -/
theorem stepFits {x : Int} (hx : InRange x) : StepFits x := by
  have hlow : 0 ≤ low x ∧ low x ≤ 2147431977 := by
    simp only [low, multiplier, quotient]
    omega
  have hhigh : 0 ≤ high x ∧ high x ≤ 164073129 := by
    simp only [InRange, modulus, high, remainder, quotient] at *
    omega
  refine ⟨?_, ?_, ?_, fun h => ?_⟩
  · rw [Fits]
    omega
  · rw [Fits]
    omega
  · rw [Fits]
    omega
  · rw [Fits, modulus]
    omega

end Congruential

open Congruential

/-! ## The loop -/

/-- The loop that fills the slots of a buffer before it comes to slot `n`: the value of the stream
that it has reached, and the buffer. -/
def loopAt (seed : Int) (buffer : Vector UInt64 607) {n : Nat} (hn : n ≤ 607) :
    Int × Vector UInt64 607 :=
  Nat.fold n (fun i h => fillSlot i (Nat.lt_of_lt_of_le h hn))
    (advance warmUp (start seed), buffer)

/-- Twenty values are thrown away, and each slot takes three. -/
theorem loopAt_fst (seed : Int) (buffer : Vector UInt64 607) {n : Nat} (hn : n ≤ 607) :
    (loopAt seed buffer hn).1 = valueAt seed (20 + 3 * n) := by
  rw [← advance_start, advance_add]
  exact (fold_fillSlot hn _ buffer).1

/-- **Seeding in closed form.**  For every seed the values of the stream are the residues of the
geometric sequence, none of them is 0, and what is computed in a step fits into 32 bits.  When a
source is started over, its loop comes to each slot with the value of this place in the sequence,
and the word of a slot is made up of the three values behind it. -/
theorem seeding_closed_form (seed : Int) (g : Lagged) :
    (∀ j, advance j (start seed) = valueAt seed j ∧ next (valueAt seed j) = valueAt seed (j + 1)
        ∧ 1 ≤ valueAt seed j ∧ valueAt seed j ≤ 2147483646 ∧ StepFits (valueAt seed j))
      ∧ (∀ n (hn : n ≤ 607), (loopAt seed g.words hn).1 = valueAt seed (20 + 3 * n))
      ∧ (loopAt seed g.words (Nat.le_refl 607)).2 = (g.reseed seed).words
      ∧ ∀ i : Fin 607, (g.reseed seed).words.get i
        = UInt64.ofInt (valueAt seed (21 + 3 * i)) <<< 40
          ^^^ UInt64.ofInt (valueAt seed (22 + 3 * i)) <<< 20
          ^^^ UInt64.ofInt (valueAt seed (23 + 3 * i)) ^^^ whitening.get i := by
  refine ⟨fun j => ?_, fun n hn => loopAt_fst seed g.words hn, rfl, fun i => ?_⟩
  · have hrange := inRange_valueAt seed j
    have hbounds : 0 < valueAt seed j ∧ valueAt seed j < 2147483647 := hrange
    exact ⟨advance_start seed j, next_valueAt seed j, hbounds.1, by omega, stepFits hrange⟩
  · have hword : (g.reseed seed).words.get i = seedWord seed i :=
      getElem_fillFrom seed g.words i.isLt
    rw [hword, seedWord, advance_start, advance_start, advance_start]
    rfl

end FluxCorpus.Random
