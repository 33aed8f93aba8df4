import Std.Data.HashSet
import FluxCorpus.Random.Bounded

/-!
# Drawing several different indices

A sample of `n` different indices is the first `n` different results of repeated index draws, in the
order in which they first came up.  Room for `n` indices is taken in advance, so a sample that no
memory could hold is refused before the first draw.
-/

namespace FluxCorpus.Draw

variable {σ : Type} [WordSource σ]

/-- The indices that are picked so far, in draw order, and the set of them. -/
structure Sample where
  seen : Std.HashSet Nat
  picked : Array Nat

namespace Sample

/-- The sample before anything is picked. -/
def empty : Sample := ⟨∅, #[]⟩

/-- Picks an index, unless it is picked already. -/
def add (c : Sample) (k : Nat) : Sample :=
  if c.seen.contains k then c else ⟨c.seen.insert k, c.picked.push k⟩

end Sample

/-- Goes on drawing indices below `total` until `n` different ones are picked. -/
def collect (n total : Nat) : Sample → Draw σ Sample :=
  Process.loop fun c => do
    if n ≤ c.picked.size then return .inr c
    return .inl (c.add (← index total))

/-- The greatest number of indices for which a set has room.  A set has a power of two of places,
each of nine bytes, and at most seven eighths of them are taken; 2^59 places can still be addressed
in 63 bits, and twice as many cannot. -/
def greatestSample : Nat := 504403158265495552

/-- A sample of `n` different indices below `total`, in draw order. -/
def subset (n total : Nat) : Draw σ (List Nat) := do
  if greatestSample < n then throw (.breach .setSize)
  return (← collect n total .empty).picked.toList

end FluxCorpus.Draw
