import Std.Data.HashMap
import FluxCorpus.Text.Composition.Table
import FluxCorpus.Text.Rows

/-!
# Composition

A letter with marks can be written in several ways.  `compose` gives the one with the fewest
characters: all are taken apart, marks are put in order by their classes, and what makes one
character together is put together again.  Syllables of Hangul are taken apart and put together by
computation.
-/

namespace FluxCorpus.Text

/-! ## Tables -/

/-- The pairs of code points that make one character together, with its code point. -/
def composites : List ((Nat × Nat) × Nat) :=
  compositionRows.flatMap fun row =>
    let (first, pairs) := rowPairs row
    pairs.map fun (second, whole) => ((first, second), whole)

/-- The code point that two make together. -/
def compositeTable : Std.HashMap (Nat × Nat) Nat := Std.HashMap.ofList composites

/-- The two code points that one is made of. -/
def partTable : Std.HashMap Nat (Nat × Nat) :=
  Std.HashMap.ofList (composites.map fun (parts, whole) => (whole, parts))

/-- The classes of marks, by their code points. -/
def markClassTable : Std.HashMap Nat Nat :=
  Std.HashMap.ofList (markClassRows.flatMap fun row =>
    let (number, ranges) := rowPairs row
    ranges.flatMap fun (first, last) =>
      (List.range (last + 1 - first)).map fun i => (first + i, number))

/-- The class of a mark; zero for what stays in its place. -/
def markClass (c : Char) : Nat := (markClassTable[c.toNat]?).getD 0

/-- A vowel killer: a sign that takes the vowel from a letter. -/
def isVowelKiller (c : Char) : Bool := markClass c = 9

/-! ## Hangul -/

/-- The first syllable. -/
def syllableBase : Nat := 0xac00

/-- The letters that begin a syllable, those in its middle, and those that end it.  The number
before the first one of these stands for none. -/
def initialBase : Nat := 0x1100

@[inherit_doc initialBase]
def medialBase : Nat := 0x1161

@[inherit_doc initialBase]
def finalBase : Nat := 0x11a7

/-- The number is that of one of `count` code points from a base on. -/
def isWithin (base count n : Nat) : Bool := base ≤ n && n < base + count

/-- The two parts of a syllable: one without its last letter, and that letter. -/
def syllableParts? (c : Char) : Option (Char × Char) :=
  if isWithin syllableBase 11172 c.toNat then
    let i := c.toNat - syllableBase
    if i % 28 = 0 then
      some (Char.ofNat (initialBase + i / 588), Char.ofNat (medialBase + i % 588 / 28))
    else some (Char.ofNat (c.toNat - i % 28), Char.ofNat (finalBase + i % 28))
  else none

/-- The syllable that two characters make. -/
def syllable? (a b : Char) : Option Char :=
  if isWithin initialBase 19 a.toNat && isWithin medialBase 21 b.toNat then
    some (Char.ofNat (syllableBase + (a.toNat - initialBase) * 588 + (b.toNat - medialBase) * 28))
  else if isWithin syllableBase 11172 a.toNat && (a.toNat - syllableBase) % 28 = 0
      && isWithin (finalBase + 1) 27 b.toNat then
    some (Char.ofNat (a.toNat + (b.toNat - finalBase)))
  else none

/-! ## Taking apart -/

/-- The two parts of a character. -/
def parts? (c : Char) : Option (Char × Char) :=
  match partTable[c.toNat]? with
  | some (a, b) => some (Char.ofNat a, Char.ofNat b)
  | none => syllableParts? c

/-- The parts of a character, taken apart at most as often as the number says. -/
def apart : Nat → Char → List Char
  | 0, c => [c]
  | depth + 1, c =>
    match parts? c with
    | some (a, b) => apart depth a ++ apart depth b
    | none => [c]

/-- No character has more parts than this. -/
def greatestDepth : Nat := 4

/-- Puts a mark among those before it, which are given backwards: behind all of the same class or a
lower one, and never before what stays in its place. -/
def insertMark (c : Char) : List Char → List Char
  | [] => [c]
  | d :: ds =>
    if markClass c < markClass d ∧ markClass c ≠ 0 then d :: insertMark c ds else c :: d :: ds

/-- The parts of all characters with their marks in order. -/
def inOrder (cs : List Char) : List Char :=
  ((cs.flatMap (apart greatestDepth)).foldl (fun done c => insertMark c done) []).reverse

/-! ## Putting together -/

/-- The character that two make together. -/
def composite? (a b : Char) : Option Char :=
  match compositeTable[(a.toNat, b.toNat)]? with
  | some n => some (Char.ofNat n)
  | none => syllable? a b

/-- Puts characters together with `base`, which stays in its place.  `between` holds the marks
behind it that could not be put together with it, the last one first; a mark of their class or a
higher one stands in the way of the next. -/
def together (base : Char) (between : List Char) : List Char → List Char
  | [] => base :: between.reverse
  | c :: cs =>
    let free := match between with
      | [] => true
      | d :: _ => markClass d < markClass c
    match if free then composite? base c else none with
    | some whole => together whole between cs
    | none =>
      if markClass c = 0 then base :: between.reverse ++ together c [] cs
      else together base (c :: between) cs

/-- The text with what makes one character together put together.  Marks at its beginning have
nothing to go with. -/
def compose (cs : List Char) : List Char :=
  let cs := inOrder cs
  let marks := cs.takeWhile fun c => markClass c ≠ 0
  match cs.drop marks.length with
  | [] => marks
  | base :: rest => marks ++ together base [] rest

end FluxCorpus.Text
