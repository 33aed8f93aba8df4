import FluxCorpus.Random.Seeding
import Mathlib.Data.Int.ModEq
import Mathlib.Data.Vector.Basic

/-!
# What seeding writes

The congruential stream is multiplication modulo a prime, although `next` computes it in two parts
so as to stay within 31 bits and a sign.  Seeding writes every slot of the ring buffer, from three
values of the stream each, so what was in the buffer before has no part in it.

* `residue_eq_emod`, `start_eq_normalSeed` — the first value is the residue of the seed, or its
  stand-in.
* `next_eq`, `advance_eq` — the stream in closed form; it never leaves `1 .. modulus - 1`.
* `getElem_fillFrom` — the word of each slot.
* `start_eq_of_words` — **the words of two slots give away the first value of the stream.**
-/

namespace FluxCorpus.Random

namespace Congruential

/-! ## The first value -/

/-- The normal form of a seed: what is left of it modulo `2 ^ 31 - 1`, with `89482311` for 0. -/
def normalSeed (seed : Int) : Int :=
  if seed % 2147483647 = 0 then 89482311 else seed % 2147483647

theorem residue_eq_emod (seed : Int) : residue seed = seed % 2147483647 := by
  have hrem := Int.tmod_eq_emod (a := seed) (b := 2147483647)
  simp only [residue, modulus]
  split at hrem <;> omega

theorem start_eq_normalSeed (seed : Int) : start seed = normalSeed seed := by
  rw [start, normalSeed, residue_eq_emod, zeroReplacement]

/-- A value that the stream can have. -/
def InRange (x : Int) : Prop := 0 < x ∧ x < modulus

theorem inRange_start (seed : Int) : InRange (start seed) := by
  rw [start_eq_normalSeed, normalSeed, InRange, modulus]
  split <;> omega

/-! ## The stream in closed form -/

/-- The two parts of `next` make up a product modulo the prime. -/
theorem next_eq {x : Int} (hx : InRange x) : next x = multiplier * x % modulus := by
  simp only [InRange, next, low, high, multiplier, quotient, remainder, modulus] at *
  omega

/-- The multiplier is not divisible by the prime, so no product with it is 0. -/
theorem inRange_next {x : Int} (hx : InRange x) : InRange (next x) := by
  have hnext := next_eq hx
  simp only [InRange, multiplier, modulus] at *
  omega

theorem next_injective {x y : Int} (hx : InRange x) (hy : InRange y) (h : next x = next y) :
    x = y := by
  rw [next_eq hx, next_eq hy] at h
  simp only [InRange, multiplier, modulus] at *
  omega

theorem inRange_advance (n : Nat) {x : Int} (hx : InRange x) : InRange (advance n x) := by
  induction n generalizing x with
  | zero => exact hx
  | succ n ih => exact ih (inRange_next hx)

/-- **The stream is a geometric one**: `n` steps multiply by the `n`-th power of the multiplier. -/
theorem advance_eq (n : Nat) {x : Int} (hx : InRange x) :
    advance n x = multiplier ^ n * x % modulus := by
  induction n generalizing x with
  | zero =>
    rw [pow_zero, one_mul]
    exact (Int.emod_eq_of_lt hx.1.le hx.2).symm
  | succ n ih =>
    calc advance n (next x) = multiplier ^ n * (multiplier * x % modulus) % modulus := by
          rw [ih (inRange_next hx), next_eq hx]
      _ = multiplier ^ (n + 1) * x % modulus := by
          rw [Int.mul_emod, Int.emod_emod, ← Int.mul_emod, pow_succ, mul_assoc]

theorem advance_injective (n : Nat) {x y : Int} (hx : InRange x) (hy : InRange y)
    (h : advance n x = advance n y) : x = y := by
  induction n generalizing x y with
  | zero => exact h
  | succ n ih => exact next_injective hx hy (ih (inRange_next hx) (inRange_next hy) h)

theorem advance_add (m n : Nat) (x : Int) : advance (m + n) x = advance n (advance m x) := by
  induction m generalizing x with
  | zero => rw [Nat.zero_add, advance]
  | succ m ih => rw [Nat.succ_add, advance, ih, advance]

end Congruential

open Congruential

/-! ## The words of the ring buffer -/

/-- The word of slot `i`: three values of the stream from `21 + 3 * i` on, whitened. -/
def seedWord (seed : Int) (i : Fin 607) : UInt64 :=
  blend (advance (21 + 3 * i) (start seed)) (advance (22 + 3 * i) (start seed))
    (advance (23 + 3 * i) (start seed)) whitening[i]

/-- After `n` slots the stream is `3 * n` values on, the slots below `n` are written, and all others
are as they were. -/
theorem fold_fillSlot {n : Nat} (hn : n ≤ 607) (x : Int) (buffer : Vector UInt64 607) :
    let state := Nat.fold n (fun i h => fillSlot i (Nat.lt_of_lt_of_le h hn)) (x, buffer)
    state.1 = advance (3 * n) x ∧ ∀ i (h : i < 607), state.2[i] = if i < n then
      blend (advance (3 * i + 1) x) (advance (3 * i + 2) x) (advance (3 * i + 3) x) whitening[i]
      else buffer[i] := by
  induction n with
  | zero => exact ⟨rfl, fun i h => by simp⟩
  | succ n ih =>
    obtain ⟨hstream, hwords⟩ := ih (by omega)
    simp only [Nat.fold_succ, fillSlot]
    refine ⟨?_, fun i h => ?_⟩
    · rw [hstream, Nat.mul_succ, advance_add]
      rfl
    · rcases Nat.lt_trichotomy i n with hlt | rfl | hgt
      · rw [Vector.getElem_set_ne _ _ (by omega), hwords i h, if_pos hlt, if_pos (by omega)]
      · rw [Vector.getElem_set_self, if_pos (by omega), hstream, advance_add, advance_add,
          advance_add]
        rfl
      · rw [Vector.getElem_set_ne _ _ (by omega), hwords i h, if_neg (by omega),
          if_neg (by omega)]

/-- **Seeding writes every slot**, whatever was in the buffer. -/
theorem getElem_fillFrom (seed : Int) (buffer : Vector UInt64 607) {i : Nat} (hi : i < 607) :
    (fillFrom seed buffer)[i] = seedWord seed ⟨i, hi⟩ := by
  have hfold := (fold_fillSlot (Nat.le_refl 607) (advance warmUp (start seed)) buffer).2 i hi
  rw [if_pos hi] at hfold
  have hshift (k : Nat) : advance (3 * i + k) (advance warmUp (start seed))
      = advance (warmUp + k + 3 * i) (start seed) := by
    rw [← advance_add, Nat.add_right_comm, Nat.add_assoc]
  rw [hshift, hshift, hshift] at hfold
  exact hfold

theorem fillFrom_eq (seed : Int) (buffer buffer' : Vector UInt64 607) :
    fillFrom seed buffer = fillFrom seed buffer' := by
  apply Vector.ext
  intro i hi
  rw [getElem_fillFrom, getElem_fillFrom]

/-! ## From the words back to the stream -/

theorem toNat_toWord {x : Int} (hx : InRange x) : ((toWord x).toNat : Int) = x := by
  rw [toWord, UInt64.ofInt, UInt64.toNat_ofNat']
  simp only [InRange, modulus] at hx
  omega

/-- What is shifted by 20 bits or more does not show in the low 20 bits. -/
theorem mod_of_shifted (a b c : UInt64) :
    (a <<< 40 ^^^ b <<< 20 ^^^ c).toNat % 2 ^ 20 = c.toNat % 2 ^ 20 := by
  have hfar : (a <<< 40).toNat % 2 ^ 20 = 0 := by
    simp [UInt64.toNat_shiftLeft, Nat.shiftLeft_eq]
    omega
  have hnear : (b <<< 20).toNat % 2 ^ 20 = 0 := by
    simp [UInt64.toNat_shiftLeft, Nat.shiftLeft_eq]
  rw [UInt64.toNat_xor, UInt64.toNat_xor, Nat.xor_mod_two_pow, Nat.xor_mod_two_pow, hfar, hnear,
    Nat.zero_xor, Nat.zero_xor]

/-- A word gives away the low 20 bits of the last of its three values. -/
theorem emod_of_blend {x y z x' y' z' : Int} {white : UInt64} (hz : InRange z) (hz' : InRange z')
    (h : blend x y z white = blend x' y' z' white) : z % 1048576 = z' % 1048576 := by
  have hmixed : toWord x <<< 40 ^^^ toWord y <<< 20 ^^^ toWord z
      = toWord x' <<< 40 ^^^ toWord y' <<< 20 ^^^ toWord z' := by
    simpa [blend] using h
  have hlow : (toWord z).toNat % 2 ^ 20 = (toWord z').toNat % 2 ^ 20 := by
    rw [← mod_of_shifted, hmixed, mod_of_shifted]
  have hnat := toNat_toWord hz
  have hnat' := toNat_toWord hz'
  omega

/-- The factor of three steps, `1291394886`, is the quotient of `46807` and `10794` modulo the
prime.  So if it takes one small number to another, the two are in the ratio of these, and a number
below `2 ^ 11` that is divisible by `10794` is 0. -/
theorem eq_zero_of_small {u v : Int} (hu : -2048 < u ∧ u < 2048) (hv : -2048 < v ∧ v < 2048)
    (h : 1291394886 * u ≡ v [ZMOD 2147483647]) : u = 0 := by
  have hfactor : 10794 * 1291394886 * u ≡ 46807 * u [ZMOD 2147483647] :=
    Int.ModEq.mul_right u (by decide)
  have hmultiple : 10794 * v ≡ 46807 * u [ZMOD 2147483647] :=
    calc 10794 * v ≡ 10794 * (1291394886 * u) [ZMOD 2147483647] := (h.mul_left 10794).symm
      _ = 10794 * 1291394886 * u := (Int.mul_assoc ..).symm
      _ ≡ 46807 * u [ZMOD 2147483647] := hfactor
  obtain ⟨k, hk⟩ := hmultiple.dvd
  have hratio : 46807 * u = 10794 * v := by omega
  clear hk
  omega

/-- Two values of the stream with the same low 20 bits, before and after three steps, are equal. -/
theorem eq_of_low_bits {x y : Int} (hx : InRange x) (hy : InRange y)
    (hnow : x ≡ y [ZMOD 1048576]) (hthen : advance 3 x ≡ advance 3 y [ZMOD 1048576]) : x = y := by
  have hthree {z : Int} (hz : InRange z) :
      1291394886 * z ≡ advance 3 z [ZMOD 2147483647] :=
    calc 1291394886 * z ≡ multiplier ^ 3 * z [ZMOD 2147483647] :=
          Int.ModEq.mul_right z (by decide)
      _ ≡ advance 3 z [ZMOD 2147483647] := by
          rw [advance_eq 3 hz]
          exact (Int.mod_modEq _ _).symm
  -- the differences are multiples of `2 ^ 20`, and the stream multiplies the one into the other
  obtain ⟨u, hu⟩ := hnow.symm.dvd
  obtain ⟨v, hv⟩ := hthen.symm.dvd
  have hsteps : 1291394886 * (x - y) ≡ advance 3 x - advance 3 y [ZMOD 2147483647] := by
    rw [mul_sub]
    exact (hthree hx).sub (hthree hy)
  have hfactor : 1048576 * (1291394886 * u) ≡ 1048576 * v [ZMOD 2147483647] := by
    rw [← hv, ← mul_assoc, mul_comm 1048576, mul_assoc, ← hu]
    exact hsteps
  have hdivided : 1291394886 * u ≡ v [ZMOD 2147483647] := by
    rw [Int.modEq_iff_dvd, ← mul_sub] at hfactor
    exact Int.modEq_iff_dvd.2 (Int.dvd_of_dvd_mul_right_of_gcd_one hfactor (by decide +kernel))
  have hsmall {a b c : Int} (ha : InRange a) (hb : InRange b) (h : a - b = 1048576 * c) :
      -2048 < c ∧ c < 2048 := by
    simp only [InRange, modulus] at ha hb
    omega
  have hzero := eq_zero_of_small (hsmall hx hy hu)
    (hsmall (inRange_advance 3 hx) (inRange_advance 3 hy) hv) hdivided
  rw [hzero, mul_zero] at hu
  exact sub_eq_zero.1 hu

/-- **Two words give away the start.**  Streams that write the same words into the first two slots
have started from the same value. -/
theorem start_eq_of_words {s t : Int} (hfirst : seedWord s 0 = seedWord t 0)
    (hsecond : seedWord s 1 = seedWord t 1) : start s = start t := by
  have hs := inRange_start s
  have ht := inRange_start t
  have hnow := emod_of_blend (inRange_advance _ hs) (inRange_advance _ ht) hfirst
  have hthen := emod_of_blend (inRange_advance _ hs) (inRange_advance _ ht) hsecond
  have hstep (z : Int) : advance (23 + 3 * 1) z = advance 3 (advance 23 z) := advance_add 23 3 z
  change advance (23 + 3 * 1) (start s) % _ = advance (23 + 3 * 1) (start t) % _ at hthen
  rw [hstep, hstep] at hthen
  exact advance_injective 23 hs ht
    (eq_of_low_bits (inRange_advance 23 hs) (inRange_advance 23 ht) hnow hthen)

end FluxCorpus.Random
