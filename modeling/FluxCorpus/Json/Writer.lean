import FluxCorpus.Text.Hexadecimal

/-!
# Writing JSON

Compact JSON over `List Char`: no blanks, and in a string only the quote, the backslash and the
control characters below the space are escaped.
-/

namespace FluxCorpus.Json

/-- The written form of one character of a string. -/
def escape (c : Char) : List Char :=
  if c = '"' ∨ c = '\\' then ['\\', c]
  else if c = '\x08' then ['\\', 'b']
  else if c = '\x0c' then ['\\', 'f']
  else if c = '\n' then ['\\', 'n']
  else if c = '\r' then ['\\', 'r']
  else if c = '\t' then ['\\', 't']
  else if c < ' ' then
    ['\\', 'u', '0', '0', Text.Hexadecimal.digit (c.toNat / 16),
      Text.Hexadecimal.digit (c.toNat % 16)]
  else [c]

/-- A string value. -/
def string (s : String) : List Char := '"' :: s.toList.flatMap escape ++ ['"']

/-- Written values with commas between them. -/
def separated : List (List Char) → List Char
  | [] => []
  | [v] => v
  | v :: vs => v ++ ',' :: separated vs

/-- An array of written values. -/
def array (vs : List (List Char)) : List Char := '[' :: separated vs ++ [']']

/-- A member of an object: its name and its written value. -/
def member (m : String × List Char) : List Char := string m.1 ++ ':' :: m.2

/-- An object of members in the given order. -/
def object (ms : List (String × List Char)) : List Char :=
  '\x7b' :: separated (ms.map member) ++ ['\x7d']

end FluxCorpus.Json
