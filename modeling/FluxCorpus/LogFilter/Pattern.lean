import FluxCorpus.Text.Alphanumeric
import FluxCorpus.Text.Hexadecimal
import FluxCorpus.Text.Pieces

/-!
# Patterns of field values

A filter can ask that the value of a field match a pattern.  `isPattern` says whether a text is a
pattern that can be matched.

* A pattern is a sequence of parts; bars separate alternatives, parentheses make a group, brackets a
  set of characters, and `?`, `*` and `+` repeat the part before them.
* Settings in a group, as in `(?i-u:x)`, hold until the group ends.
* Of the properties of characters only those of ASCII are known.  So letters can be matched in
  either case, and digits, blanks and words by their class, where bytes are meant (`-u`); the text
  is UTF-8, so there nothing may match a byte beyond ASCII.
* Groups, sets and repetitions are nested to a limited height.  Reading keeps the height of each
  part, and nothing else of it.
-/

namespace FluxCorpus.LogFilter

open Text

/-! ## Settings -/

/-- What holds at a place of a pattern. -/
structure Settings where
  /-- Letters match in either case. -/
  eitherCase : Bool := false
  /-- Characters are meant rather than bytes. -/
  characters : Bool := true
  /-- Blanks and comments do not count. -/
  spaced : Bool := false
deriving DecidableEq, Repr

/-- Switches one setting; the others make no difference to what a pattern is. -/
def Settings.switch (s : Settings) : Char × Bool → Settings
  | ('i', on) => { s with eitherCase := on }
  | ('u', on) => { s with characters := on }
  | ('x', on) => { s with spaced := on }
  | _ => s

/-- Reads the letters of settings as far as the sign that ends them.  A minus sign, of which there
is at most one and never at the end, stands before those that are switched off. -/
def switches (off : Bool) (done : List (Char × Bool)) :
    List Char → Option (List (Char × Bool) × List Char)
  | [] => none
  | c :: cs =>
    if c = ':' ∨ c = ')' then some (done.reverse, c :: cs)
    else if c = '-' then
      if off ∨ cs.head? = some ':' ∨ cs.head? = some ')' then none else switches true done cs
    else if "imsURux".toList.contains c ∧ ¬ done.any (fun d => d.1 = c) then
      switches off ((c, !off) :: done) cs
    else none

/-- The text behind blanks and comments. -/
def behindSpace (comment : Bool) : List Char → List Char
  | [] => []
  | c :: cs =>
    if comment then behindSpace (c ≠ '\n') cs
    else if isBlank c then behindSpace false cs
    else if c = '#' then behindSpace true cs
    else c :: cs

/-- The text behind what does not count. -/
def Settings.next (s : Settings) (cs : List Char) : List Char :=
  if s.spaced then behindSpace false cs else cs

/-- The character behind the first one of a text, found without reading on: of a comment its first
character is found. -/
def Settings.peek (s : Settings) (cs : List Char) : Option Char :=
  let behind := cs.drop 1
  if s.spaced then
    let behindMark := match behind.dropWhile isBlank with
      | '#' :: rest => rest.dropWhile isBlank
      | rest => rest
    behindMark.head?.or behind.head?
  else behind.head?

/-! ## Single characters -/

/-- What one character or one escape sequence of a pattern stands for. -/
inductive Atom
  /-- A character, perhaps given as a byte. -/
  | literal (c : Char) (byte : Bool)
  | anything
  | edge
  | wordEdge
  /-- The digits, the blanks or the characters of words, or all others. -/
  | kind (negated : Bool)
deriving DecidableEq, Repr

/-- The atom can be matched at the place. -/
def Atom.fits (s : Settings) : Atom → Bool
  | literal c byte => if s.characters then !s.eitherCase else !(byte && 128 ≤ c.toNat)
  | anything => s.characters
  | edge => true
  | wordEdge => !s.characters
  | kind negated => !s.characters && !negated

/-- Reads hexadecimal digits. -/
def hexValue (s : Settings) : Nat → Nat → List Char → Option (Nat × List Char)
  | 0, value, cs => some (value, cs)
  | digits + 1, value, cs =>
    match s.next cs with
    | [] => none
    | c :: cs => do hexValue s digits (value * 16 + (← Hexadecimal.value? c)) cs

/-- Reads a character given by hexadecimal digits. -/
def hexLiteral (s : Settings) (digits : Nat) (cs : List Char) : Option (Atom × List Char) := do
  let (n, rest) ← hexValue s digits 0 cs
  if n.isValidChar then some (.literal (Char.ofNat n) (digits = 2), rest) else none

/-- The control character for which a letter stands behind a backslash. -/
def control? : Char → Option Char
  | 'a' => some '\x07'
  | 'f' => some '\x0c'
  | 'n' => some '\n'
  | 'r' => some '\r'
  | 't' => some '\t'
  | 'v' => some '\x0b'
  | _ => none

/-- Reads an escape sequence behind its backslash.  Characters of ASCII other than letters and
digits stand for themselves. -/
def escapeSequence (s : Settings) : List Char → Option (Atom × List Char)
  | [] => none
  | c :: cs =>
    if c = 'x' then hexLiteral s 2 cs
    else if c = 'u' then hexLiteral s 4 cs
    else if c = 'U' then hexLiteral s 8 cs
    else if "dsw".toList.contains c then some (.kind false, cs)
    else if "DSW".toList.contains c then some (.kind true, cs)
    else if c = 'A' ∨ c = 'z' then some (.edge, cs)
    else if "bB<>".toList.contains c then some (.wordEdge, cs)
    else if c.isAlphanum then (control? c).map fun d => (.literal d false, cs)
    else if 128 ≤ c.toNat then none
    else some (.literal c false, cs)

/-! ## Sets -/

/-- The names of the classes of ASCII. -/
def classNames : List String :=
  ["alnum", "alpha", "ascii", "blank", "cntrl", "digit", "graph", "lower", "print", "punct",
    "space", "upper", "word", "xdigit"]

/-- Reads a class of ASCII behind its opening bracket: whether it is negated, and the text behind.
-/
def asciiClass? : List Char → Option (Bool × List Char)
  | ':' :: cs =>
    let (negated, cs) := match cs with
      | '^' :: cs => (true, cs)
      | cs => (false, cs)
    match cs.span (· ≠ ':') with
    | (name, ':' :: ']' :: rest) =>
      if classNames.contains (String.ofList name) then some (negated, rest) else none
    | _ => none
  | _ => none

/-- A set as far as it has been read: its height, and whether anything is in it. -/
structure SetShape where
  height : Nat
  filled : Bool
deriving DecidableEq, Repr

/-- Two parts can be put together with an operator, and a set can be closed, where nothing has to be
matched in either case. -/
def SetShape.fits (s : Settings) (x : SetShape) : Bool :=
  !(s.characters && s.eitherCase && x.filled)

/-- The height of what has several parts, given the heights of these. -/
def joinedHeight : List Nat → Nat
  | [] => 0
  | [h] => h
  | hs => 1 + hs.foldl max 0

/-- A set between its brackets: what stands before the last operator, and the members behind it. -/
structure SetCourse where
  left : Option SetShape := none
  members : List SetShape := []
deriving DecidableEq, Repr

/-- The shape of a single member. -/
def SetShape.single : SetShape := ⟨0, true⟩

/-- Adds a member. -/
def SetCourse.add (x : SetCourse) (y : SetShape) : SetCourse :=
  { x with members := y :: x.members }

/-- The shape of what has been read. -/
def SetCourse.shape (s : Settings) (x : SetCourse) : Option SetShape :=
  let right : SetShape := ⟨joinedHeight (x.members.map (·.height)), x.members.any (·.filled)⟩
  match x.left with
  | none => some right
  | some left =>
    if left.fits s ∧ right.fits s then
      some ⟨1 + max left.height right.height, left.filled || right.filled⟩
    else none

/-- Reads one character or escape sequence of a set. -/
def setAtom (s : Settings) : List Char → Option (Atom × List Char)
  | [] => none
  | '\\' :: cs => escapeSequence s cs
  | c :: cs => some (.literal c false, cs)

/-- The atom can be a member of a set. -/
def Atom.isMember (s : Settings) : Atom → Bool
  | literal c _ => s.characters || c.toNat < 128
  | kind negated => !s.characters && !negated
  | _ => false

/-- Reads a member of a set or a range of them. -/
def setRange (s : Settings) (cs : List Char) : Option (List Char) := do
  let (a, rest) ← setAtom s cs
  let rest := s.next rest
  if rest.isEmpty ∨ !a.isMember s then none
  else if rest.head? ≠ some '-' ∨ s.peek rest = some ']' ∨ s.peek rest = some '-' then some rest
  else
    let (b, rest) ← setAtom s (s.next (rest.drop 1))
    match a, b with
    | .literal c _, .literal d _ => if c ≤ d ∧ b.isMember s then some rest else none
    | _, _ => none

/-- Reads the hyphens that a set begins with: how many there are, and the text behind them. -/
def hyphens (s : Settings) : Nat → List Char → Nat × List Char
  | 0, cs => (0, cs)
  | fuel + 1, cs =>
    match cs with
    | '-' :: rest =>
      let (n, rest) := hyphens s fuel (s.next rest)
      (n + 1, rest)
    | cs => (0, cs)

mutual

/-- Reads a set behind its opening bracket.  A closing bracket that comes first is a member. -/
def readSet (s : Settings) : Nat → List Char → Option (SetShape × List Char)
  | 0, _ => none
  | fuel + 1, cs => do
    let cs := s.next cs
    let (negated, cs) := match cs with
      | '^' :: rest => (true, s.next rest)
      | cs => (false, cs)
    let (dashes, cs) := hyphens s cs.length cs
    let (members, cs) := match dashes, cs with
      | 0, ']' :: rest => ([.single], s.next rest)
      | _, cs => (List.replicate dashes .single, cs)
    let (x, rest) ← readMembers s fuel { members } cs
    if x.fits s ∧ (s.characters ∨ !negated) then some (⟨x.height + 1, x.filled || negated⟩, rest)
    else none

/-- Reads the members of a set and its closing bracket. -/
def readMembers (s : Settings) : Nat → SetCourse → List Char → Option (SetShape × List Char)
  | 0, _, _ => none
  | fuel + 1, x, cs => do
    match s.next cs with
    | [] => none
    | ']' :: rest => return (← x.shape s, rest)
    | '&' :: '&' :: rest => readMembers s fuel { left := some (← x.shape s) } rest
    | '-' :: '-' :: rest => readMembers s fuel { left := some (← x.shape s) } rest
    | '~' :: '~' :: rest => readMembers s fuel { left := some (← x.shape s) } rest
    | '[' :: rest =>
      match asciiClass? rest with
      | some (negated, rest) =>
        if s.characters ∧ s.eitherCase ∨ !s.characters ∧ negated then none
        else readMembers s fuel (x.add .single) rest
      | none =>
        let (y, rest) ← readSet s fuel rest
        readMembers s fuel (x.add y) rest
    | cs => readMembers s fuel (x.add .single) (← setRange s cs)

end

/-! ## Groups -/

/-- A character of the name of a group. -/
def isGroupNameChar (c : Char) : Bool := isAlphanumeric c || "_.[]".toList.contains c

/-- Reads the name of a group and the bracket that ends it. -/
def groupName (cs : List Char) : Option (List Char × List Char) :=
  match cs.span (· ≠ '>') with
  | (c :: name, _ :: rest) =>
    if (isAlphabetic c ∨ c = '_') ∧ name.all isGroupNameChar then some (c :: name, rest) else none
  | _ => none

/-- What a parenthesis opens. -/
inductive Opening
  | group (s : Settings) (name : Option (List Char))
  /-- Settings for what is left of the group around them. -/
  | settings (s : Settings)
deriving DecidableEq, Repr

/-- Reads what makes a group special, behind its parenthesis.  A pattern cannot look around. -/
def opening (s : Settings) (cs : List Char) : Option (Opening × List Char) :=
  match s.next cs with
  | '?' :: '=' :: _ => none
  | '?' :: '!' :: _ => none
  | '?' :: '<' :: '=' :: _ => none
  | '?' :: '<' :: '!' :: _ => none
  | '?' :: '<' :: rest => (groupName rest).map fun r => (.group s (some r.1), r.2)
  | '?' :: 'P' :: '<' :: rest => (groupName rest).map fun r => (.group s (some r.1), r.2)
  | '?' :: rest =>
    match switches false [] rest with
    | some (changes, ':' :: rest) => some (.group (changes.foldl Settings.switch s) none, rest)
    | some (c :: changes, _ :: rest) =>
      some (.settings ((c :: changes).foldl Settings.switch s), rest)
    | _ => none
  | cs => some (.group s none, cs)

/-- A group as far as it has been read. -/
structure GroupCourse where
  settings : Settings := {}
  /-- The names of all groups so far. -/
  names : List (List Char) := []
  /-- The heights of the alternatives that are complete. -/
  alternatives : List Nat := []
  /-- The heights of the parts of the last alternative, the last one first; settings have none. -/
  parts : List (Option Nat) := []
deriving DecidableEq, Repr

namespace GroupCourse

/-- Adds a part. -/
def part (x : GroupCourse) (height : Option Nat) : GroupCourse :=
  { x with parts := height :: x.parts }

/-- The height of the last alternative. -/
def lastHeight (x : GroupCourse) : Nat := joinedHeight (x.parts.map fun h => h.getD 0)

/-- The height of what the group holds. -/
def height (x : GroupCourse) : Nat := joinedHeight (x.lastHeight :: x.alternatives)

/-- Begins another alternative. -/
def bar (x : GroupCourse) : GroupCourse :=
  { x with alternatives := x.lastHeight :: x.alternatives, parts := [] }

/-- Repeats the last part. -/
def repeated? (x : GroupCourse) : Option GroupCourse :=
  match x.parts with
  | some h :: parts => some { x with parts := some (h + 1) :: parts }
  | _ => none

/-- Begins a group within. -/
def inner? (x : GroupCourse) (s : Settings) (name : Option (List Char)) : Option GroupCourse :=
  match name with
  | none => some { settings := s, names := x.names }
  | some name =>
    if x.names.contains name then none else some { settings := s, names := name :: x.names }

/-- Reads a group as far as the parenthesis that closes it or the end of the text.  The operator
that repeats a given number of times cannot be read: nothing could end it. -/
def read : Nat → GroupCourse → List Char → Option (GroupCourse × List Char)
  | 0, _, _ => none
  | fuel + 1, x, cs => do
    match x.settings.next cs with
    | [] => return (x, [])
    | c :: rest =>
      if c = ')' then return (x, c :: rest)
      else if c = '|' then read fuel x.bar rest
      else if c = '\x7b' then none
      else if c = '?' ∨ c = '*' ∨ c = '+' then
        let rest := if rest.head? = some '?' then rest.drop 1 else rest
        read fuel (← x.repeated?) rest
      else if c = '[' then
        let (y, rest) ← readSet x.settings (2 * rest.length + 2) rest
        read fuel (x.part (some y.height)) rest
      else if c = '(' then
        match ← opening x.settings rest with
        | (.settings s, rest) => read fuel { x.part none with settings := s } rest
        | (.group s name, rest) =>
          match ← read fuel (← x.inner? s name) rest with
          | (y, ')' :: rest) =>
            read fuel { x.part (some (y.height + 1)) with names := y.names } rest
          | _ => none
      else
        let (a, rest) ← if c = '\\' then escapeSequence x.settings rest
          else some (if c = '.' then .anything else if c = '^' ∨ c = '$' then .edge
            else .literal c false, rest)
        if a.fits x.settings then read fuel (x.part (some 0)) rest else none

end GroupCourse

/-- The greatest height of a pattern. -/
def greatestHeight : Nat := 250

/-- The text is a pattern that can be matched. -/
def isPattern (cs : List Char) : Bool :=
  match GroupCourse.read (cs.length + 1) {} cs with
  | some (x, []) => x.height ≤ greatestHeight
  | _ => false

/-! ## Values -/

/-- The text is one or more digits and no more. -/
def isDigits (cs : List Char) : Bool := !cs.isEmpty && cs.all Char.isDigit

/-- A number without its sign: digits with a point before, among or behind them, and perhaps an
exponent; or the word for infinity or for what is no number. -/
def isMagnitude (cs : List Char) : Bool :=
  let lower := cs.map Char.toLower
  let (mantissa, exponent) := cut 'e' lower
  let (whole, fraction) := cut '.' mantissa
  let exponentIsFine := match exponent with
    | none => true
    | some ('+' :: ds) => isDigits ds
    | some ('-' :: ds) => isDigits ds
    | some ds => isDigits ds
  ["inf", "infinity", "nan"].contains (String.ofList lower)
    || (isDigits (whole ++ fraction.getD []) && exponentIsFine)

/-- The text is a number. -/
def isNumber : List Char → Bool
  | '+' :: cs => isMagnitude cs
  | '-' :: cs => isMagnitude cs
  | cs => isMagnitude cs

/-- The text is a value to compare with: a number, a truth value or a pattern. -/
def isValue (cs : List Char) : Bool := isNumber cs || isPattern cs

end FluxCorpus.LogFilter
