import FluxCorpus.Random.Draw

/-!
# Drawing bytes

A run of bytes is the little-endian bytes of successive words, cut to the wanted length.
-/

namespace FluxCorpus

/-- The eight bytes of a word, least significant first. -/
def littleEndian (w : UInt64) : List UInt8 :=
  (List.range 8).map fun i => (w >>> (8 * i).toUInt64).toUInt8

/-- The word whose little-endian bytes begin the list; missing bytes count as zero. -/
def ofLittleEndian (bs : List UInt8) : UInt64 :=
  (bs.take 8).foldr (fun b w => w <<< 8 ||| b.toUInt64) 0

/-- Takes as many words as are needed for `len` bytes, and returns these bytes. -/
def Draw.bytes {σ : Type} [WordSource σ] (len : Nat) : Draw σ (List UInt8) :=
  if len = 0 then return []
  else do
    let w ← Draw.word
    let rest ← Draw.bytes (len - 8)
    return (littleEndian w).take len ++ rest
termination_by len
decreasing_by omega

/-- The same for a caller who is prepared for a failure of the source.  The words of a source are
there at once, so none is reported. -/
def Draw.tryBytes {σ ε : Type} [WordSource σ] (len : Nat) : Draw σ (Except ε (List UInt8)) := do
  return .ok (← Draw.bytes len)

end FluxCorpus
