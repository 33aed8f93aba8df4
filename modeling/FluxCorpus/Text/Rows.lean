import FluxCorpus.Text.Hexadecimal
import FluxCorpus.Text.Pieces

/-!
# Tables written as text

A large table is written in rows of words with single blanks between them.  Most words are
hexadecimal numbers.
-/

namespace FluxCorpus.Text

/-- The words of a row. -/
def rowWords (row : String) : List (List Char) := pieces (· = ' ') row.toList

/-- The number that hexadecimal digits denote. -/
def hexNumber (cs : List Char) : Nat :=
  cs.foldl (fun n c => n * 16 + (Hexadecimal.value? c).getD 0) 0

/-- The first number of a row, and the pairs of numbers behind it. -/
def rowPairs (row : String) : Nat × List (Nat × Nat) :=
  let rec pairs : List Nat → List (Nat × Nat)
    | a :: b :: rest => (a, b) :: pairs rest
    | _ => []
  match (rowWords row).map hexNumber with
  | [] => (0, [])
  | n :: ns => (n, pairs ns)

end FluxCorpus.Text
