import FluxCorpus.Text.Composition
import FluxCorpus.Text.Direction
import FluxCorpus.Text.Folding
import FluxCorpus.Text.Joining
import FluxCorpus.Text.Punycode

/-!
# Names in labels

The name of a host on the internet is a list of labels.  A label is a list of characters, and two
spellings of one label are brought to the same list: letters are folded and composed, and a label
that is spelled in basic characters, behind `xn--`, is read.  `Label.ofName?` reads the labels of a
name and refuses those that could be mistaken for others; `Label.written` spells a label in basic
characters.
-/

namespace FluxCorpus.Label

open Text

/-- A basic character. -/
def isBasic (c : Char) : Bool := c.toNat < 128

/-- A character that no label has. -/
def isForbidden (c : Char) : Bool := c ≤ ' ' || "#%/:<>?@[\\]^|\x7f".toList.contains c

/-- What a label begins with that is spelled in basic characters. -/
def opening : List Char := ['x', 'n', '-', '-']

/-- A spelling has at most this many characters. -/
def greatestSpelling : Nat := 2000

/-- A label that is not in basic characters has at most this many. -/
def greatestLength : Nat := 1000

/-- The character is folded to itself. -/
def isFolded (c : Char) : Bool := fold? c = some [c]

/-- The label that is spelled by what stands behind its opening.  It must be one that can only be had
in this way: neither folding nor composing it changes it. -/
def ofSpelling? (cs : List Char) : Option (List Char) := do
  if cs.isEmpty || cs.getLast? = some '-' || greatestSpelling < cs.length then none
  if !cs.all isBasic then none
  let label ← Punycode.decode cs
  if label.all isFolded && compose label = label && !label.contains '.' then some label else none

/-- A label whose characters may stand side by side. -/
def isSound (label : List Char) : Bool :=
  !label.any isForbidden && !label.head?.any isMark && signsFit isVowelKiller [] label
    && (label.all isBasic || label.length ≤ greatestLength)

/-- Reads a label that is folded and composed. -/
def ofFolded? (cs : List Char) : Option (List Char) := do
  let label ← if opening.isPrefixOf cs then ofSpelling? (cs.drop opening.length) else some cs
  if isSound label then some label else none

/-- The labels of a piece of a name without full stops.  Characters that are folded to a full stop
cut it once more. -/
def ofPiece? (cs : List Char) : Option (List (List Char)) :=
  if cs.all isBasic then (ofFolded? (cs.map Char.toLower)).map fun label => [label]
  else do
    let folded ← cs.mapM fold?
    (pieces (· = '.') (compose folded.flatten)).mapM ofFolded?

/-- The labels of a name. -/
def ofName? (cs : List Char) : Option (List (List Char)) := do
  let labels := (← (pieces (· = '.') cs).mapM ofPiece?).flatten
  if keepDirection labels then some labels else none

/-- A label in basic characters. -/
def written (label : List Char) : List Char :=
  if label.all isBasic then label else opening ++ Punycode.encode label

end FluxCorpus.Label
