import FluxCorpus.Text.Hexadecimal
import FluxCorpus.Text.Utf8

/-!
# The words of JSON

Blanks, literal words and strings, read off the front of a `List Char`.  A reader returns what it
read and the text behind it, or the `Problem` it met first.

A string is read by a machine that takes one character at a time.  Where only the grammar counts,
it does not ask whether the halves of a pair of surrogates belong together.
-/

namespace FluxCorpus.Json

/-- Why a text cannot be read: it breaks the grammar, it is not of the expected shape, or it ends
too early. -/
inductive Problem
  | malformed
  | mismatch
  | truncated
deriving DecidableEq, Repr

/-- The blanks that may stand between words. -/
def isBlank (c : Char) : Bool := c = ' ' || c = '\n' || c = '\t' || c = '\r'

/-- The text behind any blanks. -/
def skipBlanks (cs : List Char) : List Char := cs.dropWhile isBlank

/-- Reads exactly the given characters. -/
def word : List Char → List Char → Except Problem (List Char)
  | [], cs => return cs
  | _ :: _, [] => throw .truncated
  | w :: ws, c :: cs => if c = w then word ws cs else throw .malformed

/-! ## Strings -/

/-- The character that a letter behind a backslash stands for. -/
def escaped? : Char → Option Char
  | '"' => some '"'
  | '\\' => some '\\'
  | '/' => some '/'
  | 'b' => some '\x08'
  | 'f' => some '\x0c'
  | 'n' => some '\n'
  | 'r' => some '\r'
  | 't' => some '\t'
  | _ => none

/-- The first half of a pair of surrogates. -/
def isHigh (u : Nat) : Bool := 0xD800 ≤ u && u ≤ 0xDBFF

/-- The second half of a pair of surrogates. -/
def isLow (u : Nat) : Bool := 0xDC00 ≤ u && u ≤ 0xDFFF

/-- The character of a pair of surrogates. -/
def paired (high low : Nat) : Char :=
  Char.ofNat (0x10000 + (high - 0xD800) * 1024 + (low - 0xDC00))

/-- Where a string is being read.  A first half of a pair that waits for the second is kept. -/
inductive StringState
  | plain
  | backslash (high : Option Nat)
  | hex (left value : Nat) (high : Option Nat)
  | half (high : Nat)
deriving DecidableEq, Repr

/-- The state after a complete code unit, with the character it completes if there is one. -/
def unit (strict : Bool) (u : Nat) (high : Option Nat) :
    Except Problem (StringState × Option Char) :=
  if strict = false then return (.plain, none)
  else match high with
    | none =>
      if isLow u then throw .malformed
      else if isHigh u then return (.half u, none)
      else return (.plain, some (Char.ofNat u))
    | some h => if isLow u then return (.plain, some (paired h u)) else throw .malformed

/-- Takes one character inside a string; not the quote that ends it. -/
def stringStep (strict : Bool) (state : StringState) (c : Char) (rest : List Char) :
    Except Problem (StringState × Option Char) :=
  match state with
  | .plain =>
    if c = '\\' then return (.backslash none, none)
    else if c < ' ' then throw .malformed
    else return (.plain, some c)
  | .backslash high =>
    if c = 'u' then
      if Text.byteLength (rest.take 4) < 4 then throw .truncated else return (.hex 4 0 high, none)
    else match high, escaped? c with
      | none, some d => return (.plain, some d)
      | _, _ => throw .malformed
  | .hex left value high =>
    match Text.Hexadecimal.value? c with
    | none => throw .malformed
    | some d =>
      if left ≤ 1 then unit strict (16 * value + d) high
      else return (.hex (left - 1) (16 * value + d) high, none)
  | .half high => if c = '\\' then return (.backslash (some high), none) else throw .malformed

/-- Reads the rest of a string.  `done` holds the characters read so far, the last one first. -/
def stringFrom (strict : Bool) :
    StringState → List Char → List Char → Except Problem (List Char × List Char)
  | _, _, [] => throw .truncated
  | state, done, c :: cs =>
    if state = .plain ∧ c = '"' then return (done.reverse, cs)
    else match stringStep strict state c cs with
      | .error e => .error e
      | .ok (state, out) => stringFrom strict state (out.toList ++ done) cs

/-- Reads a string behind its opening quote. -/
def string? (cs : List Char) : Except Problem (String × List Char) := do
  let (s, rest) ← stringFrom true .plain [] cs
  return (String.ofList s, rest)

/-- The text behind a string, of which only the grammar counts. -/
def skipString (cs : List Char) : Except Problem (List Char) := do
  return (← stringFrom false .plain [] cs).2

/-! ## Between the values -/

/-- The text from the next item of an array on, or nothing at its closing bracket. -/
def nextItem (first : Bool) (cs : List Char) : Except Problem (Option (List Char)) :=
  match skipBlanks cs with
  | [] => throw .truncated
  | ']' :: _ => return none
  | c :: rest =>
    if first then return some (c :: rest)
    else if c = ',' then
      match skipBlanks rest with
      | [] => throw .truncated
      | ']' :: _ => throw .malformed
      | rest => return some rest
    else throw .malformed

/-- The text behind the closing bracket of an array. -/
def closeArray (cs : List Char) : Except Problem (List Char) :=
  match skipBlanks cs with
  | [] => throw .truncated
  | ']' :: rest => return rest
  | _ => throw .malformed

/-- The text behind the opening quote of the next key of an object, or nothing at its closing
brace. -/
def nextKey (first : Bool) (cs : List Char) : Except Problem (Option (List Char)) :=
  match skipBlanks cs with
  | [] => throw .truncated
  | '\x7d' :: _ => return none
  | c :: rest =>
    if first then if c = '"' then return some rest else throw .malformed
    else if c = ',' then
      match skipBlanks rest with
      | [] => throw .truncated
      | '"' :: rest => return some rest
      | _ => throw .malformed
    else throw .malformed

/-- The text behind the colon of a member. -/
def colon (cs : List Char) : Except Problem (List Char) :=
  match skipBlanks cs with
  | [] => throw .truncated
  | ':' :: rest => return rest
  | _ => throw .malformed

/-- The text behind the closing brace of an object. -/
def closeObject (cs : List Char) : Except Problem (List Char) :=
  match skipBlanks cs with
  | [] => throw .truncated
  | '\x7d' :: rest => return rest
  | _ => throw .malformed

end FluxCorpus.Json
