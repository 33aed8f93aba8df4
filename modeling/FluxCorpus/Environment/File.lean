import FluxCorpus.Environment.Basic
import FluxCorpus.Text.Alphanumeric
import FluxCorpus.Text.Decimal
import FluxCorpus.Text.Pieces
import FluxCorpus.Text.Utf8

/-!
# Files of variables

A file sets one variable a line: `NAME=value`, perhaps behind the word `export`.  A value may be
quoted, and then goes on over line ends; `#` begins a comment; and a dollar sign puts in the value
of another variable.  `Environment.load` adds the variables of a file to those that are set.

* `statements` cuts a file into lines, not within quotes.
* `assignment` reads a line.
* `value` reads what stands behind the equals sign.
-/

namespace FluxCorpus.Environment

open Text

/-- A line that cannot be read, and the place in it. -/
structure BadLine where
  line : List Char
  place : Nat
deriving DecidableEq, Repr

/-- The message for a line that cannot be read. -/
def BadLine.message (b : BadLine) : String :=
  "Error parsing line: '" ++ String.ofList b.line ++ "', error at line index: "
    ++ Decimal.text b.place

/-- Why the variables of a file cannot be set. -/
inductive Problem
  | badLine (b : BadLine)
  /-- The value of the variable has a zero character, which no environment can hold. -/
  | zeroCharacter (name : String)
deriving DecidableEq, Repr

/-- The message for a file whose variables cannot be set. -/
def Problem.message : Problem → String
  | badLine b => b.message
  | zeroCharacter name => "failed to set environment variable " ++ name

/-! ## Lines -/

/-- Where in a statement a character stands. -/
inductive Within
  | word
  | gap
  | escaped
  | strong
  | strongEscaped
  | weak
  | weakEscaped
deriving DecidableEq, Repr

/-- The state behind a character outside of quotes. -/
def Within.begin : Char → Within
  | '\\' => .escaped
  | '"' => .weak
  | '\'' => .strong
  | _ => .word

/-- The state behind a character. -/
def Within.next : Within → Char → Within
  | word, c => if isBlank c ∧ c ≠ '\n' ∧ c ≠ '\r' then gap else begin c
  | gap, c => begin c
  | escaped, _ => word
  | strong, '\\' => strongEscaped
  | strong, '\'' => word
  | strong, _ => strong
  | strongEscaped, _ => strong
  | weak, '\\' => weakEscaped
  | weak, '"' => word
  | weak, _ => weak
  | weakEscaped, _ => weak

/-- The lines of a file with the ends that they have. -/
def lines : List Char → List (List Char)
  | [] => []
  | c :: cs =>
    if c = '\n' then [c] :: lines cs
    else match lines cs with
      | l :: ls => (c :: l) :: ls
      | [] => [[c]]

/-- The state behind a line, or else the part of it before a comment. -/
def scanLine (state : Within) : List Char → Except (List Char) Within
  | [] => return state
  | c :: cs =>
    if state = .gap ∧ c = '#' then throw []
    else match scanLine (state.next c) cs with
      | .ok s => return s
      | .error before => throw (c :: before)

/-- A text without the line end that it may have. -/
def withoutLineEnd (cs : List Char) : List Char :=
  match cs.reverse with
  | '\n' :: '\r' :: rest => rest.reverse
  | '\n' :: rest => rest.reverse
  | _ => cs

/-- The text is a comment. -/
def isComment (cs : List Char) : Bool := (cs.dropWhile isBlank).head? = some '#'

/-- The statements of a file.  `before` holds the lines of a statement that is not complete.  The
end of the file completes it only after a word. -/
def statementsFrom (state : Within) (before : List Char) :
    List (List Char) → List (Except BadLine (List Char))
  | [] => if state = .word then [] else [.error ⟨before, byteLength before⟩]
  | l :: ls =>
    let whole := before ++ l
    if isComment whole then statementsFrom .word [] ls
    else match scanLine state l with
      | .error part => .ok (before ++ part) :: statementsFrom .word [] ls
      | .ok .word => .ok (withoutLineEnd whole) :: statementsFrom .word [] ls
      | .ok state => statementsFrom state whole ls

/-- The statements of a file, of which a mark at the beginning is no part. -/
def statements (text : String) : List (Except BadLine (List Char)) :=
  statementsFrom .word [] (lines (match text.toList with
    | '\uFEFF' :: cs => cs
    | cs => cs))

/-! ## Values -/

/-- What a character of a value is part of. -/
inductive Mode
  | plain
  | strong
  | weak
  | ended
  | escaped (quoted : Bool)
  /-- The name of a variable behind a dollar sign, the last character first. -/
  | named (quoted : Bool) (name : List Char)
  /-- The same between braces. -/
  | braced (quoted : Bool) (name : List Char)
deriving DecidableEq, Repr

/-- The mode inside or outside of double quotes. -/
def Mode.back (quoted : Bool) : Mode := if quoted then .weak else .plain

/-- The value of a variable whose name is given backwards; empty if it is not set. -/
def substitute (e : Environment) (name : List Char) : List Char :=
  ((e.get? (String.ofList name.reverse)).getD "").toList

/-- The character that stands for itself behind a backslash, or that the letter stands for. -/
def unescaped? : Char → Option Char
  | 'n' => some '\n'
  | c => if "\\'\"$ ".toList.contains c then some c else none

/-- Takes one character of a value: the next mode and what it adds, or nothing where the character
cannot stand.  The character behind a name is taken as it is, even if it is a quote. -/
def valueStep (e : Environment) (mode : Mode) (c : Char) : Option (Mode × List Char) :=
  match mode with
  | .ended => if c = ' ' ∨ c = '\t' then some (.ended, []) else none
  | .escaped quoted => (unescaped? c).map fun d => (.back quoted, [d])
  | .strong => if c = '\'' then some (.plain, []) else some (.strong, [c])
  | .named quoted name =>
    if isAlphanumeric c then some (.named quoted (c :: name), [])
    else if c = '\x7b' ∧ name = [] then some (.braced quoted [], [])
    else if c = '$' then some (.named quoted [], substitute e name)
    else some (.back quoted, substitute e name ++ [c])
  | .braced quoted name =>
    if isAlphanumeric c then some (.braced quoted (c :: name), [])
    else if c = '\x7d' then some (.back quoted, substitute e name)
    else some (.braced quoted (c :: name), [])
  | .weak =>
    if c = '$' then some (.named true [], [])
    else if c = '"' then some (.plain, [])
    else if c = '\\' then some (.escaped true, [])
    else some (.weak, [c])
  | .plain =>
    if c = '$' then some (.named false [], [])
    else if c = '\'' then some (.strong, [])
    else if c = '"' then some (.weak, [])
    else if c = '\\' then some (.escaped false, [])
    else if c = ' ' ∨ c = '\t' then some (.ended, [])
    else some (.plain, [c])

/-- What the end of a value adds, or nothing where a value cannot end. -/
def valueEnd (e : Environment) : Mode → Option (List Char)
  | .named false name => some (substitute e name)
  | .plain => some []
  | .ended => some []
  | .escaped false => some []
  | _ => none

/-- Reads a value from a place on. -/
def valueFrom (e : Environment) (whole : List Char) (mode : Mode) (place : Nat) :
    List Char → Except BadLine (List Char)
  | [] =>
    match valueEnd e mode with
    | some out => return out
    | none => throw ⟨whole, byteLength whole - 1⟩
  | c :: cs =>
    if mode = .ended ∧ c = '#' then return []
    else match valueStep e mode c with
      | none => throw ⟨whole, place⟩
      | some (mode, out) => do return out ++ (← valueFrom e whole mode (place + 1) cs)

/-- Reads a value. -/
def value (e : Environment) (cs : List Char) : Except BadLine (List Char) :=
  valueFrom e cs .plain 0 cs

/-! ## Assignments -/

/-- A character of a name; a digit or a dot cannot be the first one. -/
def isNameChar (c : Char) : Bool := c.isAlphanum || c = '_' || c = '.'

/-- Reads a name: the name and the text behind it. -/
def name? (cs : List Char) : Option (List Char × List Char) :=
  match cs.span isNameChar with
  | (c :: name, rest) => if c.isAlpha ∨ c = '_' then some (c :: name, rest) else none
  | _ => none

/-- Reads a name and the equals sign behind it.  The failure is the text that was left. -/
def left (cs : List Char) : Except (List Char) (List Char × List Char) :=
  match name? cs with
  | none => throw cs
  | some (name, rest) =>
    match rest.dropWhile isBlank with
    | '=' :: rest => return (name, rest)
    | rest => throw rest

/-- Reads the left side of an assignment, in front of which `export` may stand. -/
def leftSide (cs : List Char) : Except (List Char) (List Char × List Char) :=
  match left cs, name? cs with
  | .error _, some (['e', 'x', 'p', 'o', 'r', 't'], rest) => left (rest.dropWhile isBlank)
  | r, _ => r

/-- Reads a line: a name and its value, or nothing if the line sets no variable. -/
def assignment (e : Environment) (line : List Char) : Except BadLine (Option (String × String)) :=
  let trimmed := (line.reverse.dropWhile isBlank).reverse
  match trimmed.dropWhile isBlank with
  | [] => return none
  | '#' :: _ => return none
  | cs =>
    match leftSide cs with
    | .error rest => throw ⟨line, byteLength trimmed - byteLength rest⟩
    | .ok (name, rest) =>
      match rest.dropWhile isBlank with
      | [] => return some (String.ofList name, "")
      | '#' :: _ => return some (String.ofList name, "")
      | cs => do return some (String.ofList name, String.ofList (← value e cs))

/-- Adds the variable that a statement sets.  The value does not matter if the variable is set. -/
def loadStatement (e : Environment) (s : Except BadLine (List Char)) :
    Except Problem Environment :=
  match s >>= e.assignment with
  | .error b => throw (.badLine b)
  | .ok none => return e
  | .ok (some (name, value)) =>
    if (e.get? name).isNone ∧ value.contains '\x00' then throw (.zeroCharacter name)
    else return e.add name value

/-- Adds the variables that a file sets. -/
def load (e : Environment) (text : String) : Except Problem Environment :=
  (statements text).foldlM loadStatement e

end FluxCorpus.Environment
