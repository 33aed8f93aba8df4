import FluxCorpus.Text.Decimal
import FluxCorpus.Text.Hexadecimal
import FluxCorpus.Text.Pieces

/-!
# Addresses

Internet addresses of both versions, read and written.

* An address of version 4 is a number below 2^32.  It is written as four numbers; it may be given
  with fewer, of which the last one fills what is left, and each of them may be decimal, octal or
  hexadecimal.
* An address of version 6 is eight numbers below 2^16.  A pair of colons stands for a run of zeros.
-/

namespace FluxCorpus.Address

open Text

/-! ## Version 4 -/

/-- The number that digits of a base denote. -/
def ofDigits (base : Nat) (cs : List Char) : Option Nat :=
  cs.foldlM (fun n c => do
    let d ← Hexadecimal.value? c
    if d < base then some (n * base + d) else none) 0

/-- Reads one number of an address: hexadecimal behind `0x`, octal behind `0`, or else decimal. -/
def number? : List Char → Option Nat
  | '0' :: 'x' :: cs => ofDigits 16 cs
  | '0' :: 'X' :: cs => ofDigits 16 cs
  | '0' :: c :: cs => ofDigits 8 (c :: cs)
  | [] => none
  | cs => ofDigits 10 cs

/-- The parts of a dotted name; one dot at the end does not count. -/
def parts (cs : List Char) : List (List Char) :=
  match (pieces (· = '.') cs).reverse with
  | [] :: p :: ps => (p :: ps).reverse
  | ps => ps.reverse

/-- The last part of a dotted name is a number, so that the name is meant as an address. -/
def endsInNumber (cs : List Char) : Bool :=
  match (parts cs).getLast? with
  | some p => (!p.isEmpty && p.all Char.isDigit) || (number? p).isSome
  | none => false

/-- Puts the numbers of an address together. -/
def combine? (ns : List Nat) : Option Nat :=
  match ns.reverse with
  | [] => none
  | last :: rest =>
    let room := Nat.pow 256 (4 - rest.length)
    if 4 ≤ rest.length ∨ rest.any (255 < ·) ∨ room ≤ last then none
    else some (rest.foldr (fun n a => a * 256 + n) 0 * room + last)

/-- Reads an address of version 4. -/
def v4? (cs : List Char) : Option Nat := do combine? (← (parts cs).mapM number?)

/-- Writes an address of version 4. -/
def v4Chars (a : Nat) : List Char :=
  join ['.'] ([a / 16777216 % 256, a / 65536 % 256, a / 256 % 256, a % 256].map Decimal.digits)

/-! ## Version 6 -/

/-- Reads one number of an address: one to four hexadecimal digits. -/
def piece? (cs : List Char) : Option Nat :=
  if cs.isEmpty ∨ 4 < cs.length then none else ofDigits 16 cs

/-- Reads one number of a dotted ending, which has no leading zeros. -/
def octet? (cs : List Char) : Option Nat :=
  if 1 < cs.length ∧ cs.head? = some '0' then none
  else (Decimal.nat? cs).filter (· < 256)

/-- Reads a dotted ending, which stands for two numbers. -/
def ending? (cs : List Char) : Option (List Nat) := do
  match ← (pieces (· = '.') cs).mapM octet? with
  | [a, b, c, d] => return [a * 256 + b, c * 256 + d]
  | _ => none

/-- Reads numbers with colons between them; the last one may be a dotted ending. -/
def numbers? (dotted : Bool) : List (List Char) → Option (List Nat)
  | [] => some []
  | [p] => if dotted ∧ p.contains '.' then ending? p else (piece? p).map fun n => [n]
  | p :: ps => do return (← piece? p) :: (← numbers? dotted ps)

/-- Reads what stands on one side of a pair of colons. -/
def side? (dotted : Bool) (cs : List Char) : Option (List Nat) :=
  if cs.isEmpty then some [] else numbers? dotted (pieces (· = ':') cs)

/-- The text before the first pair of colons, and the text behind it if there is one. -/
def cutPair : List Char → List Char × Option (List Char)
  | ':' :: ':' :: cs => ([], some cs)
  | c :: cs =>
    let (before, behind) := cutPair cs
    (c :: before, behind)
  | [] => ([], none)

/-- Reads an address of version 6. -/
def v6? (cs : List Char) : Option (List Nat) := do
  match cutPair cs with
  | (whole, none) =>
    let ns ← numbers? true (pieces (· = ':') whole)
    if ns.length = 8 then some ns else none
  | (before, some behind) =>
    let left ← side? false before
    let right ← side? true behind
    let missing := 8 - (left.length + right.length)
    if missing = 0 then none else some (left ++ List.replicate missing 0 ++ right)

/-- The place and the length of the longest run of zeros, the first one of several. -/
def longestZeros (ns : List Nat) : Nat × Nat :=
  (List.range ns.length).foldl
    (fun best i =>
      let n := ((ns.drop i).takeWhile (· = 0)).length
      if best.2 < n then (i, n) else best)
    (0, 0)

/-- Writes an address of version 6. -/
def v6Chars (ns : List Nat) : List Char :=
  let (i, n) := longestZeros ns
  let write (ms : List Nat) := join [':'] (ms.map Hexadecimal.digits)
  if n < 2 then write ns else write (ns.take i) ++ [':', ':'] ++ write (ns.drop (i + n))

end FluxCorpus.Address
