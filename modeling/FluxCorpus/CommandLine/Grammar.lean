/-!
# What a command line may hold

A `Command` has options, operands and subcommands.  An option is given as `--name value` or
`--name=value`, possibly by a letter, or by a variable of the environment; a text that is given is
checked at once, and refused for one of the reasons in `Refusal`.
-/

namespace FluxCorpus.CommandLine

/-- Why a list of arguments is not followed by the run of a command. -/
inductive Refusal
  | missingRequired
  | invalidValue
  | argumentConflict
  | unknownArgument
  | valueValidation
  | tooManyValues
  | missingSubcommand
  | displayHelp
  | displayVersion
deriving DecidableEq, Repr

/-- The message for the user. -/
def Refusal.message : Refusal → String
  | missingRequired => "a required argument was not provided"
  | invalidValue => "a value is missing or is not one of the possible values"
  | argumentConflict => "an argument cannot be used more than once"
  | unknownArgument => "unexpected argument"
  | valueValidation => "a value cannot be read"
  | tooManyValues => "unexpected value for an argument that takes none"
  | missingSubcommand => "a subcommand is required but was not provided"
  | displayHelp => "help was asked for"
  | displayVersion => "the version was asked for"

/-- What an option does when it is given. -/
inductive Kind
  | value
  | count
  | help
  | version
deriving DecidableEq, Repr

/-- An option or an operand. -/
structure Setting where
  name : String
  letter : Option Char := none
  kind : Kind := .value
  /-- The variable of the environment that gives the option if the arguments do not. -/
  envName : Option String := none
  /-- The text that counts as given if nothing else does. -/
  fallback : Option String := none
  required : Bool := false
  /-- A text that looks like a negative number is a value of this option, not an option. -/
  allowsNegative : Bool := false
  check : String → Option Refusal := fun _ => none

/-- A command with everything that can follow its name. -/
structure Command where
  options : List Setting
  operands : List Setting := []
  subcommands : List (String × Command) := []
  subcommandRequired : Bool := false

/-- Asks for help. -/
def helpOption : Setting := { name := "help", letter := some 'h', kind := .help }

/-- Asks for the version. -/
def versionOption : Setting := { name := "version", letter := some 'V', kind := .version }

namespace Command

/-- The option with a name. -/
def named? (c : Command) (name : String) : Option Setting := c.options.find? fun o => o.name = name

/-- The option with a letter. -/
def lettered? (c : Command) (letter : Char) : Option Setting :=
  c.options.find? fun o => o.letter = some letter

/-- The subcommand with a name. -/
def subcommand? (c : Command) (name : String) : Option Command :=
  (c.subcommands.find? fun s => s.1 = name).map Prod.snd

end Command

/-! ## What was given -/

/-- Where a text comes from; a later origin takes precedence over an earlier one. -/
inductive Origin
  | fallback
  | environment
  | argument
deriving DecidableEq, Repr

/-- The precedence of an origin. -/
def Origin.rank : Origin → Nat
  | fallback => 0
  | environment => 1
  | argument => 2

/-- The texts that were given for one option.  An option that only counts has one for each time. -/
structure Given where
  name : String
  origin : Origin
  texts : List String
deriving DecidableEq, Repr

/-- A list of arguments that was read: the subcommands that were named, and what was given to each
command, the outermost first. -/
structure Reading where
  path : List String
  levels : List (List Given)
deriving DecidableEq, Repr

namespace Reading

/-- The better of two findings: the one of higher precedence, or else the inner one. -/
def better (outer inner : Option Given) : Option Given :=
  match outer, inner with
  | some o, some i => if i.origin.rank < o.origin.rank then some o else some i
  | some o, none => some o
  | none, i => i

/-- What was given for an option. -/
def find? (r : Reading) (name : String) : Option Given :=
  (r.levels.map fun level => level.find? fun g => g.name = name).foldl better none

/-- The text that was given for an option. -/
def text? (r : Reading) (name : String) : Option String :=
  (r.find? name).bind fun g => g.texts.head?

/-- How often an option was given. -/
def count (r : Reading) (name : String) : Nat := ((r.find? name).map (·.texts.length)).getD 0

end Reading

end FluxCorpus.CommandLine
