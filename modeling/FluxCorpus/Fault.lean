import FluxCorpus.Text.Quoted
import FluxCorpus.Time.Duration

/-!
# What can go wrong

`Fault` lists the reasons for which a generator cannot be built or a query cannot be produced.
Each constructor carries what its message says; the wording is in `Fault.message` alone.
-/

namespace FluxCorpus

/-- What a workload samples: hosts or trucks. -/
inductive TagKind
  | host
  | truck
deriving DecidableEq, Repr

/-- The singular noun of a tag kind, which also starts the names of its members. -/
def TagKind.noun : TagKind → String
  | .host => "host"
  | .truck => "truck"

/-- The reasons why a request for queries cannot be met. -/
inductive Fault
  | tooFewTags (kind : TagKind) (requested : Nat)
  | tooManyTags (kind : TagKind) (requested scale : Nat)
  | noMetrics
  | tooManyMetrics
  | windowTooLarge (window interval : Duration)
  | invalidInterval (start stop : String)
  | timestampOutOfRange (timestamp : String)
  | invalidScale
  | unknownFormat (format : String)
  | unsupportedUseCase (format useCase : String)
  | unknownQueryType (name : String)
  | queryTypeMismatch (queryType expected actual : String)
  | noQueries
deriving DecidableEq, Repr

namespace Fault

open Text.Quoted (quote)
open Text.Decimal (text)

/-- The message for the user. -/
def message : Fault → String
  | tooFewTags kind requested =>
    "number of " ++ kind.noun ++ "s cannot be < 1; got " ++ text requested
  | tooManyTags kind requested scale =>
    "number of " ++ kind.noun ++ "s (" ++ text requested ++ ") larger than total "
      ++ kind.noun ++ "s. See --scale (" ++ text scale ++ ")"
  | noMetrics => "cannot get 0 metrics"
  | tooManyMetrics => "too many metrics asked for"
  | windowTooLarge window interval =>
    "random window equal to or larger than TimeInterval: window " ++ window.render
      ++ ", interval " ++ interval.render
  | invalidInterval start stop =>
    "invalid time interval: end " ++ stop ++ " must be after start " ++ start
  | timestampOutOfRange timestamp =>
    "timestamp " ++ timestamp ++ " cannot be represented in nanoseconds since the epoch"
  | invalidScale => "scale must be at least 1"
  | unknownFormat format => "unknown format " ++ quote format
  | unsupportedUseCase format useCase =>
    "format " ++ quote format ++ " does not support use case " ++ useCase
  | unknownQueryType name => "unknown query type " ++ quote name
  | queryTypeMismatch queryType expected actual =>
    "query type " ++ quote queryType ++ " belongs to use case " ++ expected ++ ", not " ++ actual
  | noQueries => "number of queries must be at least 1"

end Fault

end FluxCorpus
