/-!
# Text as bytes

Characters in UTF-8.  `encode` writes them and `byteLength` counts the bytes; `units` reads bytes,
and says at which places they do not form a character.  From it come a strict reader, `decode?`,
and one that puts a replacement character for whatever is broken, `decodeLossy`.
-/

namespace FluxCorpus.Text

/-- The number of bytes of a text in UTF-8. -/
def byteLength (cs : List Char) : Nat := cs.foldl (fun n c => n + c.utf8Size) 0

namespace Utf8

/-- The bytes of a text. -/
def encode (cs : List Char) : List UInt8 := cs.flatMap String.utf8EncodeChar

/-- A character of which some bytes were read: how many are missing, the bits so far, and the bounds
of the next byte. -/
structure Partial where
  missing : Nat
  bits : Nat
  least : Nat
  greatest : Nat
deriving DecidableEq, Repr

/-- What a byte is at the beginning of a character: the whole of it, its first part, or nothing. -/
inductive Lead
  | whole (c : Char)
  | first (p : Partial)
  | broken
deriving DecidableEq, Repr

/-- Reads the first byte of a character.  The bounds leave out long forms of short characters,
halves of pairs of surrogates, and what lies beyond the last character. -/
def lead (b : Nat) : Lead :=
  if b < 0x80 then .whole (Char.ofNat b)
  else if b < 0xC2 then .broken
  else if b < 0xE0 then .first ⟨1, b - 0xC0, 0x80, 0xBF⟩
  else if b = 0xE0 then .first ⟨2, 0, 0xA0, 0xBF⟩
  else if b = 0xED then .first ⟨2, 13, 0x80, 0x9F⟩
  else if b < 0xF0 then .first ⟨2, b - 0xE0, 0x80, 0xBF⟩
  else if b = 0xF0 then .first ⟨3, 0, 0x90, 0xBF⟩
  else if b < 0xF4 then .first ⟨3, b - 0xF0, 0x80, 0xBF⟩
  else if b = 0xF4 then .first ⟨3, 4, 0x80, 0x8F⟩
  else .broken

/-- The state after the first byte of a character, with what it completes. -/
def start (b : Nat) : Option Partial × List (Option Char) :=
  match lead b with
  | .whole c => (none, [some c])
  | .first p => (some p, [])
  | .broken => (none, [none])

/-- The state after one more byte, with what it completes.  A byte that does not continue the
character before it breaks that one off and begins another. -/
def step (state : Option Partial) (b : Nat) : Option Partial × List (Option Char) :=
  match state with
  | none => start b
  | some p =>
    if p.least ≤ b ∧ b ≤ p.greatest then
      let bits := p.bits * 64 + (b - 0x80)
      if p.missing ≤ 1 then (none, [some (Char.ofNat bits)])
      else (some ⟨p.missing - 1, bits, 0x80, 0xBF⟩, [])
    else
      let (next, out) := start b
      (next, none :: out)

/-- The characters of a list of bytes, with nothing in the place of each broken part. -/
def unitsFrom (state : Option Partial) : List UInt8 → List (Option Char)
  | [] => if state.isSome then [none] else []
  | b :: bs =>
    let (next, out) := step state b.toNat
    out ++ unitsFrom next bs

/-- The characters of a list of bytes, with nothing in the place of each broken part. -/
def units (bs : List UInt8) : List (Option Char) := unitsFrom none bs

/-- The text of bytes that are all in order. -/
def decode? (bs : List UInt8) : Option (List Char) := (units bs).mapM id

/-- The text of any bytes, with a replacement character for each broken part. -/
def decodeLossy (bs : List UInt8) : List Char := (units bs).map fun c => c.getD '\uFFFD'

end Utf8

end FluxCorpus.Text
