import FluxCorpus.Query
import FluxCorpus.Random.Lagged
import FluxCorpus.Time.Interval
import FluxCorpus.Workload.Tag
import FluxCorpus.Workload.UseCase

/-!
# Generators

A `Generator` is what all queries of one corpus have in common: the use case, the simulated
interval, the number of simulated hosts or trucks, and the source of words.  A query is composed at
a `Desk`, which holds a generator and the record to be filled; of the generator only the source
ever changes.
-/

namespace FluxCorpus

/-- The state of a generator of queries. -/
structure Generator where
  useCase : UseCase
  interval : Interval
  scale : Nat
  source : Lagged
deriving DecidableEq

namespace Generator

/-- The formats and use cases for which queries can be generated. -/
def registry : List (String × UseCase) := [("influx_2", .devops), ("influx_2", .iot)]

/-- Succeeds if queries can be generated for a format and a use case. -/
def checkFormat (format : String) (useCase : UseCase) : Except Fault Unit :=
  if (registry.any fun e => e.1 = format) = false then throw (.unknownFormat format)
  else if (registry.any fun e => e.1 = format ∧ e.2 = useCase) = false then
    throw (.unsupportedUseCase format useCase.name)
  else return ()

/-- A generator with a given source; its scale must not be 0. -/
def ofSource (useCase : UseCase) (interval : Interval) (scale : Nat) (source : Lagged) :
    Except Fault Generator :=
  if scale < 1 then throw .invalidScale else return ⟨useCase, interval, scale, source⟩

/-- The generator for a format, with a source started from a seed. -/
def create (format : String) (useCase : UseCase) (interval : Interval) (scale : Nat) (seed : Int) :
    Except Fault Generator := do
  checkFormat format useCase
  ofSource useCase interval scale (Lagged.ofSeed seed)

end Generator

/-- A generator at work on a record. -/
structure Desk where
  generator : Generator
  record : Query
deriving DecidableEq

/-- The desk with another source for its generator. -/
def Desk.withSource (d : Desk) (source : Lagged) : Desk :=
  { d with generator := { d.generator with source := source } }

/-- A computation at a desk.  A failure leaves the desk as it was when it happened. -/
abbrev Compose := Process Desk

namespace Compose

/-- Draws from the source of the generator. -/
def draw {α : Type} (x : Draw Lagged α) : Compose α := ExceptT.mk fun d =>
  (x.outcome d.generator.source).map fun (r, source) => (r, d.withSource source)

/-- The value of a check, or its reason for failing. -/
def ofCheck {α : Type} : Except Fault α → Compose α
  | .ok a => return a
  | .error f => Process.fail f

/-- The simulated interval. -/
def interval : Compose Interval := return (← get).generator.interval

/-- A window of the simulated interval. -/
def window (d : Duration) : Compose Interval := do draw ((← interval).window d)

/-- The names of `n` different hosts or trucks. -/
def tags (kind : TagKind) (n : Nat) : Compose (List String) := do
  draw (Draw.tags kind n (← get).generator.scale)

/-- One of the fleets. -/
def fleet : Compose String := draw Draw.fleet

/-- Fills in the record. -/
def write (label description flux : String) : Compose Unit :=
  modify fun d => { d with record := Query.ofFlux label description flux }

end Compose

end FluxCorpus
