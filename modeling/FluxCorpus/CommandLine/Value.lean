import FluxCorpus.CommandLine.Grammar
import FluxCorpus.Representable
import FluxCorpus.Text.Decimal
import FluxCorpus.Time.Instant
import FluxCorpus.Url.Parse
import FluxCorpus.Workload.UseCase

/-!
# The texts of options

Readers for the kinds of values that options have.  A `Setting` checks its text with a reader, and
the value is read from the accepted text with the same reader.
-/

namespace FluxCorpus.CommandLine

/-- Reads the text of an option. -/
abbrev Reader (α : Type) := String → Except Refusal α

namespace Reader

/-- The value that a reading has, or else a refusal. -/
def ofOption {α : Type} (r : Refusal) : Option α → Except Refusal α
  | some a => return a
  | none => throw r

/-- Any text. -/
def text : Reader String := fun s => return s

/-- A natural number of at most 64 bits. -/
def unsigned : Reader Nat := fun s =>
  ofOption .valueValidation ((Text.Decimal.unsigned? s.toList).filter (· < 18446744073709551616))

/-- An integer of 64 bits with a sign. -/
def signed : Reader Int := fun s =>
  ofOption .valueValidation
    ((Text.Decimal.signed? s.toList).filter fun i => decide (Representable i))

/-- A timestamp. -/
def timestamp : Reader Instant := fun s => ofOption .valueValidation (Instant.parse? s)

/-- The name of a use case, in exactly its own letters. -/
def useCase : Reader UseCase := fun s => ofOption .invalidValue (UseCase.ofName? false s)

/-- The path of a file, which is not empty. -/
def path : Reader String := fun s => if s.isEmpty then throw .invalidValue else return s

/-- A URL. -/
def url : Reader Url := fun s =>
  match Url.parse s with
  | .ok u => return u
  | .error _ => throw .valueValidation

/-- The reason for which a reader refuses a text. -/
def check {α : Type} (r : Reader α) (s : String) : Option Refusal :=
  match r s with
  | .ok _ => none
  | .error e => some e

end Reader

namespace Reading

/-- The value of an option that must be given. -/
def get {α : Type} (r : Reading) (name : String) (reader : Reader α) : Except Refusal α :=
  match r.text? name with
  | some s => reader s
  | none => throw .missingRequired

/-- The value of an option that may be left out. -/
def get? {α : Type} (r : Reading) (name : String) (reader : Reader α) :
    Except Refusal (Option α) :=
  match r.text? name with
  | some s => some <$> reader s
  | none => return none

end Reading

end FluxCorpus.CommandLine
