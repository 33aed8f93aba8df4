import FluxCorpus.Json.Token
import FluxCorpus.Text.Decimal

/-!
# Numbers in JSON

A numeral is an integer if it has neither a fraction nor an exponent.  A numeral that is too large
for double precision is malformed where its value counts; `exceedsDouble` decides this in whole
numbers.
-/

namespace FluxCorpus.Json

open Text.Decimal (value)

/-- A number as far as it matters: an integer with its value, or any other number. -/
inductive Number
  | integer (i : Int)
  | other
deriving DecidableEq, Repr

/-! ## Beyond double precision -/

/-- The nearest number with 53 significant bits; a tie goes to the even one. -/
def roundTo53 (n : Nat) : Nat :=
  if n < 9007199254740992 then n
  else
    let unit := 1 <<< (n.log2 - 52)
    let q := n / unit
    let r := n % unit
    if unit < 2 * r ∨ (2 * r = unit ∧ q % 2 = 1) then (q + 1) * unit else q * unit

/-- The product of a significand and a power of ten, each rounded, is beyond the greatest number of
double precision. -/
def exceedsDouble (significand : Nat) (exponent : Int) : Bool :=
  if significand = 0 ∨ exponent < 0 then false
  else if 308 < exponent then true
  else (1 <<< 1024) - (1 <<< 970) ≤ roundTo53 significand * roundTo53 (Nat.pow 10 exponent.toNat)

/-- Appends digits to a significand for as long as it has at most 64 bits; the rest are counted. -/
def significand (start : Nat) : List Char → Nat × Nat
  | [] => (start, 0)
  | c :: cs =>
    if start * 10 + (c.toNat - 48) < 18446744073709551616 then
      significand (start * 10 + (c.toNat - 48)) cs
    else (start, cs.length + 1)

/-! ## Numerals -/

/-- The parts of a numeral without its sign. -/
structure Numeral where
  whole : List Char
  fraction : Option (List Char)
  exponent : Option (Bool × List Char)
deriving DecidableEq, Repr

/-- Reads one or more digits. -/
def digits (cs : List Char) : Except Problem (List Char × List Char) :=
  match cs with
  | [] => throw .truncated
  | c :: _ =>
    if c.isDigit then return (cs.takeWhile Char.isDigit, cs.dropWhile Char.isDigit)
    else throw .malformed

/-- Reads the digits before the point: without a leading zero, unless it is alone. -/
def wholeDigits (cs : List Char) : Except Problem (List Char × List Char) := do
  let (ds, rest) ← digits cs
  match ds with
  | '0' :: _ :: _ => throw .malformed
  | _ => return (ds, rest)

/-- Reads a point with the digits behind it, if there is one. -/
def fractionDigits : List Char → Except Problem (Option (List Char) × List Char)
  | '.' :: cs => do
    let (ds, rest) ← digits cs
    return (some ds, rest)
  | cs => return (none, cs)

/-- Reads an exponent with its sign, if there is one. -/
def exponentDigits : List Char → Except Problem (Option (Bool × List Char) × List Char)
  | [] => return (none, [])
  | c :: cs =>
    if c = 'e' ∨ c = 'E' then do
      let (negative, cs) := match cs with
        | '+' :: cs => (false, cs)
        | '-' :: cs => (true, cs)
        | cs => (false, cs)
      let (ds, rest) ← digits cs
      return (some (negative, ds), rest)
    else return (none, c :: cs)

/-- Reads a numeral behind its sign. -/
def numeral (cs : List Char) : Except Problem (Numeral × List Char) := do
  let (whole, cs) ← wholeDigits cs
  let (fraction, cs) ← fractionDigits cs
  let (exponent, cs) ← exponentDigits cs
  return (⟨whole, fraction, exponent⟩, cs)

namespace Numeral

/-- The significand and the power of ten by which a numeral is represented. -/
def scaled (n : Numeral) : Nat × Int :=
  let (s, left) := significand 0 n.whole
  let (s, taken) := match n.fraction with
    | none => (s, 0)
    | some ds =>
      let (s, left) := significand s ds
      (s, ds.length - left)
  let shift : Int := match n.exponent with
    | none => 0
    | some (negative, ds) => if negative then -(value ds : Int) else value ds
  (s, (left : Int) - taken + shift)

/-- A numeral with neither a fraction nor an exponent, and of at most 64 bits. -/
def isInteger (n : Numeral) : Bool :=
  n.fraction.isNone && n.exponent.isNone && (significand 0 n.whole).2 = 0

/-- The number of a numeral.  A negative zero is not an integer. -/
def number (negative : Bool) (n : Numeral) : Except Problem Number :=
  if n.isInteger then
    if negative then
      if value n.whole = 0 then return .other else return .integer (-(value n.whole : Int))
    else return .integer (value n.whole)
  else if exceedsDouble n.scaled.1 n.scaled.2 then throw .malformed
  else return .other

end Numeral

/-- Reads a number behind its sign. -/
def number (negative : Bool) (cs : List Char) : Except Problem (Number × List Char) := do
  let (n, rest) ← numeral cs
  return (← n.number negative, rest)

/-- The text behind a numeral, of which only the grammar counts.  A numeral that the end of the text
cuts short is malformed like any other. -/
def skipNumber (cs : List Char) : Except Problem (List Char) :=
  match numeral cs with
  | .ok (_, rest) => return rest
  | .error _ => throw .malformed

end FluxCorpus.Json
