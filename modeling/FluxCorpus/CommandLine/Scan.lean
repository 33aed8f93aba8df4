import FluxCorpus.CommandLine.Grammar

/-!
# Reading a command line

Arguments are read from left to right, and the first problem ends the reading.  The text of an
option is held back until the next argument is known: an argument that no command knows is reported
before a text that does not pass its check.

* `Command.scan` reads the arguments of a command and of the subcommands in them.
* `Command.complete` adds the environment and the fallbacks, and asks for what is missing.
-/

namespace FluxCorpus.CommandLine

/-- The option whose text is not settled yet. -/
inductive Pending
  | nothing
  | awaiting (o : Setting)
  | holding (o : Setting) (text : String)

/-- What has been read of the arguments of one command. -/
structure Scan where
  given : List Given := []
  pending : Pending := .nothing
  operands : Nat := 0
  /-- A lone `--` was read, after which every argument is an operand. -/
  literal : Bool := false

namespace Scan

/-- The scan before the first argument. -/
def start : Scan := {}

/-- Takes a text for an option: only once, and only if it passes the check. -/
def accept (s : Scan) (o : Setting) (text : String) : Except Refusal Scan :=
  if s.given.any fun g => g.name = o.name then throw .argumentConflict
  else match o.check text with
    | some r => throw r
    | none => return { s with given := s.given ++ [⟨o.name, .argument, [text]⟩] }

/-- Counts one more use of an option. -/
def tally (s : Scan) (o : Setting) : Scan :=
  if s.given.any fun g => g.name = o.name then
    { s with given := s.given.map fun g =>
        if g.name = o.name then { g with texts := "" :: g.texts } else g }
  else { s with given := s.given ++ [⟨o.name, .argument, [""]⟩] }

/-- Settles the option that is pending. -/
def resolve (s : Scan) : Except Refusal Scan :=
  match s.pending with
  | .nothing => return s
  | .awaiting _ => throw .invalidValue
  | .holding o text => { s with pending := .nothing }.accept o text

/-- Uses an option that takes no text. -/
def useFlag (s : Scan) (o : Setting) : Except Refusal Scan := do
  let s ← s.resolve
  match o.kind with
  | .help => throw .displayHelp
  | .version => throw .displayVersion
  | _ => return s.tally o

/-- Uses an option that takes a text, which may be attached to it. -/
def useValue (s : Scan) (o : Setting) (attached : Option String) : Except Refusal Scan := do
  let s ← s.resolve
  match attached with
  | some text => s.accept o text
  | none => return { s with pending := .awaiting o }

end Scan

/-! ## The forms of an argument -/

/-- Splits the text after `--` at the first equals sign. -/
def splitLong (cs : List Char) : List Char × Option String :=
  match cs.dropWhile (· ≠ '=') with
  | [] => (cs, none)
  | _ :: text => (cs.takeWhile (· ≠ '='), some (String.ofList text))

/-- The text after a letter, from which one equals sign is taken off; nothing if it is empty. -/
def attachedText : List Char → Option String
  | [] => none
  | '=' :: cs => some (String.ofList cs)
  | cs => some (String.ofList cs)

/-- The rest of a number: digits, one point before any exponent, and one exponent mark that is
followed by something. -/
def isNumberTail (dot exponent : Bool) : List Char → Bool
  | [] => true
  | c :: cs =>
    if c.isDigit then isNumberTail dot exponent cs
    else if c = '.' then !dot && !exponent && isNumberTail true exponent cs
    else if c = 'e' ∨ c = 'E' then !exponent && !cs.isEmpty && isNumberTail dot true cs
    else false

/-- The text after a minus sign makes it a number. -/
def isNumber : List Char → Bool
  | [] => true
  | c :: cs => c.isDigit && isNumberTail false false cs

/-- An argument that a pending option takes although it starts with a minus sign. -/
def Scan.takesNegative (s : Scan) (cs : List Char) : Bool :=
  match s.pending with
  | .awaiting o => o.allowsNegative && isNumber cs
  | _ => false

namespace Command

/-- Reads an argument `--name` or `--name=text`. -/
def long (c : Command) (s : Scan) (cs : List Char) : Except Refusal Scan :=
  let (name, attached) := splitLong cs
  match c.named? (String.ofList name) with
  | none => throw .unknownArgument
  | some o =>
    if o.kind = .value then s.useValue o attached
    else if attached.isSome then throw .tooManyValues
    else s.useFlag o

/-- Reads the letters of an argument `-abc`; the first one that takes a text takes the rest. -/
def letters (c : Command) (s : Scan) : List Char → Except Refusal Scan
  | [] => return s
  | l :: ls =>
    match c.lettered? l with
    | none => throw .unknownArgument
    | some o => do
      if o.kind = .value then s.useValue o (attachedText ls)
      else (← s.useFlag o) |> fun s => letters c s ls

/-- Reads an argument that is the text of a pending option or an operand. -/
def plain (c : Command) (s : Scan) (a : String) : Except Refusal Scan :=
  match s.pending, s.literal with
  | .awaiting o, false => return { s with pending := .holding o a }
  | _, _ =>
    match c.operands[s.operands]? with
    | none => throw .unknownArgument
    | some o => do
      let s ← s.resolve
      return { s with pending := .holding o a, operands := s.operands + 1 }

/-- Reads an argument that names no subcommand. -/
def argument (c : Command) (s : Scan) (a : String) : Except Refusal Scan :=
  if s.literal then c.plain s a
  else match a.toList with
    | ['-', '-'] => return { s with literal := true }
    | '-' :: '-' :: cs => c.long s cs
    | '-' :: l :: cs => if s.takesNegative (l :: cs) then c.plain s a else c.letters s (l :: cs)
    | _ => c.plain s a

/-- Adds what the environment gives for the settings that the arguments do not give. -/
def addEnvironment (env : String → Option String) :
    List Setting → List Given → Except Refusal (List Given)
  | [], given => return given
  | o :: os, given =>
    if given.any fun g => g.name = o.name then addEnvironment env os given
    else match o.envName.bind env with
      | none => addEnvironment env os given
      | some text =>
        match o.check text with
        | some r => throw r
        | none => addEnvironment env os (given ++ [⟨o.name, .environment, [text]⟩])

/-- The fallbacks of the settings that are not given. -/
def fallbacks (settings : List Setting) (given : List Given) : List Given :=
  settings.filterMap fun o =>
    if given.any fun g => g.name = o.name then none
    else o.fallback.map fun text => ⟨o.name, .fallback, [text]⟩

/-- Completes what was given to a command from the environment and the fallbacks. -/
def complete (c : Command) (env : String → Option String) (hasSubcommand : Bool) (s : Scan) :
    Except Refusal (List Given) := do
  let s ← s.resolve
  let settings := c.options ++ c.operands
  let given ← addEnvironment env settings s.given
  let given := given ++ fallbacks settings given
  if c.subcommandRequired && !hasSubcommand then throw .missingSubcommand
  if settings.any fun o => o.required && !given.any fun g => g.name = o.name then
    throw .missingRequired
  return given

/-- An argument at this place can name a subcommand. -/
def expectsSubcommand (s : Scan) : Bool :=
  match s.pending with
  | .awaiting _ => false
  | _ => !s.literal

/-- What comes of asking for the help about a subcommand, which must exist. -/
def helpAbout (c : Command) : List String → Refusal
  | [] => .displayHelp
  | a :: rest =>
    match c.subcommand? a with
    | some sub => sub.helpAbout rest
    | none => .unknownArgument

/-- Reads the arguments of a command, and those of a subcommand with the subcommand. -/
def scan (env : String → Option String) (c : Command) (s : Scan) :
    List String → Except Refusal Reading
  | [] => do return ⟨[], [← c.complete env false s]⟩
  | a :: rest =>
    if expectsSubcommand s && a = "help" && !c.subcommands.isEmpty then throw (c.helpAbout rest)
    else match if expectsSubcommand s then c.subcommand? a else none with
      | some sub => do
        let inner ← sub.scan env .start rest
        let level ← c.complete env true s
        return ⟨a :: inner.path, level :: inner.levels⟩
      | none => do
        let s ← c.argument s a
        c.scan env s rest

/-- Reads a list of arguments in an environment. -/
def read (c : Command) (env : String → Option String) (args : List String) :
    Except Refusal Reading := c.scan env .start args

end Command

end FluxCorpus.CommandLine
