import FluxCorpus.LogFilter.Pattern
import FluxCorpus.Text.Decimal
import FluxCorpus.Text.Utf8

/-!
# Filters of log messages

A filter is a list of directives with commas between them.  A directive names a level, or a target
and the level of its messages, or a span, perhaps with fields in braces, and the level within it.
`LogFilter.check` says whether a text is a filter.

The places of a directive are counted from its first character that is not blank, and its parts are
cut out of the directive with its blanks.  So blanks in front of it shift what its parts are, and
where they take more than one byte a part can begin or end within a character.
-/

namespace FluxCorpus.LogFilter

open Text

/-- Why a text is not a filter. -/
inductive Problem
  | directive
  | level
  | value
  /-- A part begins or ends within a character. -/
  | splitCharacter
deriving DecidableEq, Repr

/-- The message for a text that is not a filter. -/
def Problem.message : Problem → String
  | directive => "invalid filter directive"
  | level =>
    "error parsing level filter: expected one of \"off\", \"error\", \"warn\", \"info\", "
      ++ "\"debug\", \"trace\", or a number 0-5"
  | value => "invalid field filter"
  | splitCharacter => "a part of a filter directive is not on a character boundary"

/-- The names of levels, of which the number of a level counts. -/
def levelNames : List String := ["off", "error", "warn", "info", "debug", "trace"]

/-- The text is a level: its name in letters of either case, or its number. -/
def isLevel (cs : List Char) : Bool :=
  levelNames.contains (String.ofList (cs.map Char.toLower))
    || ((Decimal.unsigned? cs).filter (· < levelNames.length)).isSome

/-- The text behind a number of bytes. -/
def behind : Nat → List Char → Except Problem (List Char)
  | 0, cs => return cs
  | _, [] => throw .splitCharacter
  | n, c :: cs => if n < c.utf8Size then throw .splitCharacter else behind (n - c.utf8Size) cs

/-- The text between two places, in bytes. -/
def between (start stop : Nat) (cs : List Char) : Except Problem (List Char) := do
  let tail ← behind start cs
  let rest ← behind stop cs
  return tail.take (tail.length - rest.length)

/-- What is being read at a place of a directive, and where it began. -/
inductive Course
  | nothing
  | target
  | span (start : Nat)
  | field (start : Nat)
  | fields
  /-- Behind a span. -/
  | tail
  | level (start : Nat)
deriving DecidableEq, Repr

/-- A character with which a target begins. -/
def isTargetStart (c : Char) : Bool := isAlphanumeric c || c = '-' || c = ':' || c = '_'

/-- Checks a field: a name and perhaps a value, behind an equals sign and before the next one. -/
def checkField (cs : List Char) : Except Problem Unit :=
  if cs.isEmpty then throw .directive
  else match pieces (· = '=') cs with
    | _ :: value :: _ => if isValue value then return () else throw .value
    | _ => return ()

/-- Takes one character of a directive at a place. -/
def Course.step (whole : List Char) (place : Nat) : Course → Char → Except Problem Course
  | nothing, '[' => return span (place + 1)
  | nothing, c => if isTargetStart c then return target else throw .directive
  | target, '=' => do
    let _ ← between 0 place whole
    return level (place + 1)
  | target, '[' => do
    let _ ← between 0 place whole
    return span (place + 1)
  | target, _ => return target
  | span start, ']' => do
    let _ ← between start place whole
    return tail
  | span start, '\x7b' => do
    let _ ← between start place whole
    return field (place + 1)
  | span start, _ => return span start
  | field start, '\x7d' => do
    checkField (← between start place whole)
    return fields
  | field start, _ => return field start
  | fields, ']' => return tail
  | tail, '=' => return level (place + 1)
  | level start, _ => return level start
  | _, _ => throw .directive

/-- Checks what is being read when a directive ends. -/
def Course.finish (whole : List Char) : Course → Except Problem Unit
  | target => return ()
  | tail => return ()
  | level start => do
    let name ← behind start whole
    if name.isEmpty ∨ isLevel name then return () else throw .level
  | _ => throw .directive

/-- Checks a directive from a place on. -/
def checkFrom (whole : List Char) (place : Nat) (course : Course) :
    List Char → Except Problem Unit
  | [] => course.finish whole
  | c :: cs => do checkFrom whole (place + c.utf8Size) (← course.step whole place c) cs

/-- Checks a directive. -/
def checkDirective (cs : List Char) : Except Problem Unit :=
  checkFrom cs 0 .nothing (trim isBlank cs)

/-- Checks a filter.  Empty directives do not count. -/
def check (filter : String) : Except Problem Unit :=
  ((pieces (· = ',') filter.toList).filter fun d => !d.isEmpty).forM checkDirective

end FluxCorpus.LogFilter
