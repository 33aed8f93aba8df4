import Std.Data.HashMap
import FluxCorpus.Text.Decimal
import FluxCorpus.Text.Folding.Table
import FluxCorpus.Text.Mark
import FluxCorpus.Text.Ranges
import FluxCorpus.Text.Rows
import FluxCorpus.Text.Unprintable

/-!
# Folding

Characters that mean the same in a name are folded to one: capital letters to small ones, letters in
a special form to plain ones, and some to nothing.  `fold?` says what a character is folded to.
-/

namespace FluxCorpus.Text

/-- The code points that a cell of the table of foldings is about, with what their characters are
folded to, and the code point behind them. -/
def readFolding (n : Nat) (cell : List Char) : List (Nat × List Char) × Nat :=
  let targets (word : List Char) : List Char :=
    if word = ['~'] then [] else (pieces (· = '.') word).map fun w => Char.ofNat (hexNumber w)
  let inTurn (step : Nat) (count : List Char) (word : List Char) :=
    let size := Decimal.value count
    ((List.range size).map fun i =>
      (n + step * i, [Char.ofNat (hexNumber word + step * i)]), n + step * size)
  match cell.span Char.isDigit with
  | (_, ['-']) => ([], n + 1)
  | (count, '*' :: word) => inTurn 1 count word
  | (count, '/' :: word) => inTurn 2 count word
  | (count, '=' :: word) =>
    let size := Decimal.value count
    ((List.range size).map fun i => (n + i, targets word), n + size)
  | _ => ([(n, targets cell)], n + 1)

/-- The foldings of some cells of a row, of which the first one is about a code point. -/
def readFoldings (n : Nat) : List (List Char) → List (Nat × List Char)
  | [] => []
  | cell :: cells =>
    let (here, n) := readFolding n cell
    here ++ readFoldings n cells

/-- The code points whose characters do not stand for themselves, with what they are folded to. -/
def foldings : Std.HashMap Nat (List Char) :=
  Std.HashMap.ofList (foldingRows.flatMap fun row =>
    match rowWords row with
    | [] => []
    | start :: cells => readFoldings (hexNumber start) cells)

/-- The closed ranges of characters that print and yet stand in no name: signs that describe others,
marks of what was lost, and letters whose plain form has a dot in it. -/
def refusedRanges : Array (Nat × Nat) := #[
  (0x2024, 0x2026), (0x2488, 0x249b), (0x2ff0, 0x2fff), (0x31ef, 0x31ef), (0x33c2, 0x33c2),
  (0x33c7, 0x33c7), (0x33d8, 0x33d8), (0xfe12, 0xfe12), (0xfe19, 0xfe19), (0xfe30, 0xfe30),
  (0xfe52, 0xfe52), (0xfffc, 0xfffd), (0x1f100, 0x1f100)]

/-- What a character is folded to, or nothing if it stands in no name.  The signs between letters do
not print and yet stand for themselves. -/
def fold? (c : Char) : Option (List Char) :=
  match foldings[c.toNat]? with
  | some cs => some cs
  | none =>
    if c = nonJoiner || c = joiner then some [c]
    else if inRanges unprintableRanges c.toNat || inRanges refusedRanges c.toNat then none
    else some [c]

end FluxCorpus.Text
