import FluxCorpus.Random.Draw

/-!
# Bounded draws

A bounded draw reads a non-negative value of 63 or of 31 bits off each word, and rejects the values
above the largest multiple of the bound, so that every residue is equally likely.  A bound that is a
power of two divides the range, hence nothing is rejected and the residue is a mask.
-/

namespace FluxCorpus

/-- The two sizes of value that are read off a word. -/
inductive Width
  | short
  | long
deriving DecidableEq, Repr

namespace Width

/-- The number of different values: those of 31 or of 63 bits. -/
def range : Width → Nat
  | short => 2147483648
  | long => 9223372036854775808

/-- The value in a word: the topmost of its low 63 bits. -/
def read (w : Width) (x : UInt64) : Nat :=
  x.toNat % range long / (range long / w.range)

/-- The values below this limit are accepted for the bound `n`: as many as `n` divides evenly. -/
def limit (w : Width) (n : Nat) : Nat := w.range - w.range % n

end Width

namespace Draw

variable {σ : Type} [WordSource σ]

/-- Takes one word and reads a value off it. -/
def value (w : Width) : Draw σ Nat := do return w.read (← word)

/-- Takes one word and keeps the upper 32 of its low 63 bits. -/
def half : Draw σ UInt32 := do return UInt32.ofNat (Width.long.read (← word) / Width.short.range)

/-- Takes values until one is below `limit`. -/
def redraw (w : Width) (limit : Nat) : Draw σ Nat :=
  Process.loop (fun _ => do
    let v ← value w
    return if v < limit then .inr v else .inl ()) ()

/-- A value below `n`, every one equally likely. -/
def below (w : Width) (n : Nat) : Draw σ Nat := do
  if n &&& (n - 1) = 0 then
    return (← value w) &&& (n - 1)
  else
    return (← redraw w (w.limit n)) % n

/-- A value of 63 bits below `n`.  A bound that is not positive is refused before any word is
taken. -/
def longBelow (n : Int) : Draw σ Nat :=
  if n ≤ 0 then throw (.breach (.longBound n)) else below .long n.toNat

/-- A value of 31 bits below `n`.  A bound that is not positive is refused before any word is
taken. -/
def shortBelow (n : Int) : Draw σ Nat :=
  if n ≤ 0 then throw (.breach (.shortBound n)) else below .short n.toNat

/-- An index below `n`, for a bound of at most 64 bits.

A bound of up to 31 bits takes a short value and one of up to 63 bits a long value.  A bound of 64
bits counts as negative, and then its low 32 bits, read with their sign, are the bound of a short
value. -/
def index (n : Nat) : Draw σ Nat :=
  if n = 0 then throw (.breach .indexBound)
  else if n < Width.short.range then shortBelow n
  else if n < Width.long.range then longBelow n
  else shortBelow (Int.bmod n 4294967296)

end Draw

end FluxCorpus
