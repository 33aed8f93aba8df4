import FluxCorpus.Random.Bytes
import FluxCorpus.Random.Seeding

/-!
# The additive lagged source

A ring buffer of 607 words with two cursors.  Each step moves both cursors down by one, adds the
word under `tap` to the word under `feed`, and hands out the sum; so every word is the sum of the
words 607 and 273 steps before it.
-/

namespace FluxCorpus

/-- The state of the source. -/
structure Lagged where
  tap : Fin 607
  feed : Fin 607
  words : Vector UInt64 607
deriving DecidableEq

namespace Lagged

/-- Starts over from a seed, whatever went before. -/
def reseed (g : Lagged) (seed : Int) : Lagged :=
  { tap := 0, feed := 334, words := Random.fillFrom seed g.words }

/-- A source started from a seed. -/
def ofSeed (seed : Int) : Lagged :=
  reseed { tap := 0, feed := 334, words := Vector.replicate 607 0 } seed

/-- A source started from a word, which is read as a signed number. -/
def ofWord (w : UInt64) : Lagged := ofSeed (Int.bmod w.toNat 18446744073709551616)

/-- A source started from eight little-endian bytes, which are read as a signed number. -/
def ofBytes (bs : List UInt8) : Lagged := ofWord (ofLittleEndian bs)

/-- Hands out one word. -/
def step : Lagged → UInt64 × Lagged
  | ⟨tap, feed, words⟩ =>
    let tap := tap - 1
    let feed := feed - 1
    let sum := words[feed] + words[tap]
    (sum, ⟨tap, feed, words.set feed sum⟩)

/-- The source never runs out. -/
instance : WordSource Lagged where
  next? g := some g.step

end Lagged

end FluxCorpus
