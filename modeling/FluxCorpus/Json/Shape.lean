import FluxCorpus.Json.Skip
import FluxCorpus.Json.Writer
import FluxCorpus.Representable

/-!
# Reading JSON by its shape

A `Shape` says what is expected of a text: a string, an integer of 64 bits, a list, or a record
with named fields.  `Shape.decode` reads a text of that shape in one pass from left to right, and
reports the first problem it meets.

* A record is an object, of which unknown members are passed over, or an array of its fields in
  order.
* A field may have a default for the case that it is missing; no field may be given twice.
* `Datum.write` writes a value of a shape, a record always as an object.
-/

namespace FluxCorpus.Json

/-- A value of a shape.  The fields of a record are in the order of the shape. -/
inductive Datum
  | text (s : String)
  | integer (i : Int)
  | list (items : List Datum)
  | record (fields : List Datum)
deriving Repr

/-- What is expected of a text. -/
inductive Shape
  | text
  | integer
  | list (item : Shape)
  | record (fields : List (String × Option Datum × Shape))

/-- A field of a record: its name, its default if it has one, and its shape. -/
abbrev Field := String × Option Datum × Shape

/-! ## Reading -/

/-- Refuses a value of another shape.  Its text is read if it is a word, a string or a number, so
that a problem in there comes first. -/
def refuse {α : Type} : List Char → Except Problem α
  | [] => throw .truncated
  | c :: rest => do
    if c = 'n' then
      let _ ← word ['u', 'l', 'l'] rest
    else if c = 't' then
      let _ ← word ['r', 'u', 'e'] rest
    else if c = 'f' then
      let _ ← word ['a', 'l', 's', 'e'] rest
    else if c = '"' then
      let _ ← string? rest
    else if c = '-' then
      let _ ← number true rest
    else if c.isDigit then
      let _ ← number false (c :: rest)
    else if c ≠ '[' ∧ c ≠ '\x7b' then
      throw .malformed
    throw .mismatch

/-- The integer that a number is, if it has at most 64 bits with its sign. -/
def integerDatum : Number → Except Problem Datum
  | .integer i => if Representable i then return .integer i else throw .mismatch
  | .other => throw .mismatch

/-- Reads an integer. -/
def readInteger (cs : List Char) : Except Problem (Datum × List Char) :=
  match cs with
  | [] => throw .truncated
  | c :: rest => do
    if c = '-' then
      let (n, rest) ← number true rest
      return (← integerDatum n, rest)
    else if c.isDigit then
      let (n, rest) ← number false cs
      return (← integerDatum n, rest)
    else refuse cs

/-- The value of a field among those that were found, or else its default. -/
def fieldValue (found : List (String × Datum)) (f : Field) : Except Problem Datum :=
  match found.find? fun m => m.1 = f.1 with
  | some m => return m.2
  | none =>
    match f.2.1 with
    | some d => return d
    | none => throw .mismatch

/-- The values of the fields that are left when an array ends: each must have a default. -/
def defaults (fields : List Field) : Except Problem (List Datum) :=
  fields.mapM (fieldValue [])

mutual

/-- Reads a value of a shape.  The first argument bounds the number of nested steps. -/
def read : Nat → Shape → List Char → Except Problem (Datum × List Char)
  | 0, _, _ => throw .truncated
  | steps + 1, shape, cs =>
    match skipBlanks cs with
    | [] => throw .truncated
    | c :: rest =>
      match shape with
      | .text =>
        if c = '"' then do
          let (s, rest) ← string? rest
          return (.text s, rest)
        else refuse (c :: rest)
      | .integer => readInteger (c :: rest)
      | .list item =>
        if c = '[' then do
          let (items, rest) ← readItems steps item true [] rest
          return (.list items, rest)
        else refuse (c :: rest)
      | .record fields =>
        if c = '\x7b' then do
          let (values, rest) ← readMembers steps fields true [] rest
          return (.record values, rest)
        else if c = '[' then do
          let (values, rest) ← readTuple steps fields true rest
          return (.record values, rest)
        else refuse (c :: rest)

/-- Reads the items of a list up to its closing bracket.  `done` holds those read so far, the last
one first. -/
def readItems : Nat → Shape → Bool → List Datum → List Char →
    Except Problem (List Datum × List Char)
  | 0, _, _, _, _ => throw .truncated
  | steps + 1, item, first, done, cs => do
    match ← nextItem first cs with
    | none => return (done.reverse, ← closeArray cs)
    | some cs =>
      let (d, cs) ← read steps item cs
      readItems steps item false (d :: done) cs

/-- Reads the fields of a record that is written as an array. -/
def readTuple : Nat → List Field → Bool → List Char → Except Problem (List Datum × List Char)
  | 0, _, _, _ => throw .truncated
  | _ + 1, [], _, cs => return ([], ← closeArray cs)
  | steps + 1, f :: fs, first, cs => do
    match ← nextItem first cs with
    | none => return (← defaults (f :: fs), ← closeArray cs)
    | some cs =>
      let (d, cs) ← read steps f.2.2 cs
      let (ds, cs) ← readTuple steps fs false cs
      return (d :: ds, cs)

/-- Reads the members of a record up to its closing brace. -/
def readMembers : Nat → List Field → Bool → List (String × Datum) → List Char →
    Except Problem (List Datum × List Char)
  | 0, _, _, _, _ => throw .truncated
  | steps + 1, fields, first, found, cs => do
    match ← nextKey first cs with
    | none => return (← fields.mapM (fieldValue found), ← closeObject cs)
    | some cs =>
      let (key, cs) ← string? cs
      match fields.find? fun f => f.1 = key with
      | none => readMembers steps fields false found (← skip (← colon cs))
      | some f =>
        if found.any fun m => m.1 = key then throw .mismatch
        let (d, cs) ← read steps f.2.2 (← colon cs)
        readMembers steps fields false ((key, d) :: found) cs

end

/-- Reads a whole text of a shape. -/
def Shape.decode (shape : Shape) (text : String) : Except Problem Datum := do
  let (d, rest) ← read (enough text.toList) shape text.toList
  if skipBlanks rest = [] then return d else throw .malformed

/-! ## Writing -/

mutual

/-- Writes a value of a shape.  A value of another shape is written as `null`. -/
def write : Shape → Datum → List Char
  | .text, .text s => string s
  | .integer, .integer i => (Text.Decimal.intText i).toList
  | .list item, .list ds => '[' :: separated (writeItems item ds) ++ [']']
  | .record fields, .record ds => '\x7b' :: separated (writeFields fields ds) ++ ['\x7d']
  | _, _ => ['n', 'u', 'l', 'l']

/-- Writes the items of a list. -/
def writeItems (item : Shape) : List Datum → List (List Char)
  | [] => []
  | d :: ds => write item d :: writeItems item ds

/-- Writes the fields of a record with their names. -/
def writeFields : List Field → List Datum → List (List Char)
  | f :: fs, d :: ds => member (f.1, write f.2.2 d) :: writeFields fs ds
  | _, _ => []

end

/-- The text of a value of a shape. -/
def Shape.encode (shape : Shape) (d : Datum) : String := String.ofList (write shape d)

end FluxCorpus.Json
