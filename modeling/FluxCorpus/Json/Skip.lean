import FluxCorpus.Json.Number

/-!
# Passing over a value

A value that nobody asked for is passed over at any depth.  Only its grammar counts.
-/

namespace FluxCorpus.Json

mutual

/-- The text behind a value.  The first argument bounds the number of nested steps. -/
def skipValue : Nat → List Char → Except Problem (List Char)
  | 0, _ => throw .truncated
  | steps + 1, cs =>
    match skipBlanks cs with
    | [] => throw .truncated
    | c :: rest =>
      if c = 'n' then word ['u', 'l', 'l'] rest
      else if c = 't' then word ['r', 'u', 'e'] rest
      else if c = 'f' then word ['a', 'l', 's', 'e'] rest
      else if c = '"' then skipString rest
      else if c = '-' then skipNumber rest
      else if c.isDigit then skipNumber (c :: rest)
      else if c = '[' then skipItems steps true rest
      else if c = '\x7b' then skipMembers steps true rest
      else throw .malformed

/-- The text behind the items of an array and its closing bracket. -/
def skipItems : Nat → Bool → List Char → Except Problem (List Char)
  | 0, _, _ => throw .truncated
  | steps + 1, first, cs => do
    match ← nextItem first cs with
    | none => closeArray cs
    | some cs => skipItems steps false (← skipValue steps cs)

/-- The text behind the members of an object and its closing brace. -/
def skipMembers : Nat → Bool → List Char → Except Problem (List Char)
  | 0, _, _ => throw .truncated
  | steps + 1, first, cs => do
    match ← nextKey first cs with
    | none => closeObject cs
    | some cs => skipMembers steps false (← skipValue steps (← colon (← skipString cs)))

end

/-- A bound on the number of nested steps for a text: two for every character. -/
def enough (cs : List Char) : Nat := 2 * cs.length + 2

/-- The text behind the value at the front of a text. -/
def skip (cs : List Char) : Except Problem (List Char) := skipValue (enough cs) cs

end FluxCorpus.Json
