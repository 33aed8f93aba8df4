import FluxCorpus.CommandLine.Scan
import FluxCorpus.CommandLine.Value
import FluxCorpus.QueryType

/-!
# The configuration of a run

Which queries to generate, against which simulated data.  Every option has a variable of the
environment of its own and, apart from the query type and the file, a fallback.
`Config.validate` checks in advance all that does not depend on the words that are drawn.
-/

namespace FluxCorpus

open CommandLine

/-- What the user asks for. -/
structure Config where
  format : String
  useCase : UseCase
  queryType : String
  scale : Nat
  seed : Int
  timestampStart : Instant
  timestampEnd : Instant
  queries : Nat
  file : Option String
deriving DecidableEq, Repr

/-- What a generator is bound to. -/
structure Params where
  interval : Interval
  scale : Nat
  seed : Int
deriving DecidableEq, Repr

namespace Config

/-- The options of the configuration. -/
def options : List Setting :=
  [{ name := "format", envName := some "INFLUX2_QUERY_GEN_FORMAT", fallback := some "influx_2",
      check := Reader.text.check },
    { name := "use-case", envName := some "INFLUX2_QUERY_GEN_USE_CASE",
      fallback := some "devops", check := Reader.useCase.check },
    { name := "query-type", envName := some "INFLUX2_QUERY_GEN_QUERY_TYPE", required := true,
      check := Reader.text.check },
    { name := "scale", envName := some "INFLUX2_QUERY_GEN_SCALE", fallback := some "1",
      check := Reader.unsigned.check },
    { name := "seed", envName := some "INFLUX2_QUERY_GEN_SEED", fallback := some "0",
      allowsNegative := true, check := Reader.signed.check },
    { name := "timestamp-start", envName := some "INFLUX2_QUERY_GEN_TIMESTAMP_START",
      fallback := some "2016-01-01T00:00:00Z", check := Reader.timestamp.check },
    { name := "timestamp-end", envName := some "INFLUX2_QUERY_GEN_TIMESTAMP_END",
      fallback := some "2016-01-02T06:00:00Z", check := Reader.timestamp.check },
    { name := "queries", envName := some "INFLUX2_QUERY_GEN_QUERIES", fallback := some "1000",
      check := Reader.unsigned.check },
    { name := "file", envName := some "INFLUX2_QUERY_GEN_FILE", check := Reader.path.check }]

/-- The configuration in what was given. -/
def ofReading (r : Reading) : Except Refusal Config := do
  return {
    format := ← r.get "format" .text
    useCase := ← r.get "use-case" .useCase
    queryType := ← r.get "query-type" .text
    scale := ← r.get "scale" .unsigned
    seed := ← r.get "seed" .signed
    timestampStart := ← r.get "timestamp-start" .timestamp
    timestampEnd := ← r.get "timestamp-end" .timestamp
    queries := ← r.get "queries" .unsigned
    file := ← r.get? "file" .path }

/-- The command that holds nothing but the options of the configuration. -/
def command : Command := { options := options ++ [helpOption] }

/-- Reads a configuration from arguments and an environment. -/
def parse (env : String → Option String) (args : List String) : Except Refusal Config := do
  ofReading (← command.read env args)

/-- A point in time as one of the calendar, which must have it. -/
def calendarTime (t : Instant) : Except Stop Instant :=
  if t.InCalendar then return t else throw (.breach .noSuchTime)

/-- The simulated interval. -/
def interval (c : Config) : Except Stop Interval := do
  let start ← calendarTime c.timestampStart
  let stop ← calendarTime c.timestampEnd
  Stop.ofCheck (Interval.ofInstants start stop)

/-- The query type that is asked for, which must belong to the use case. -/
def resolve (c : Config) : Except Fault QueryType := do
  let t ← QueryType.find c.queryType
  t.checkUseCase c.useCase
  return t

/-- Checks the scale, the number of queries, the interval, the query type and the format, in this
order. -/
def validate (c : Config) : Except Stop Unit := do
  if c.scale < 1 then throw (.fault .invalidScale)
  if c.queries < 1 then throw (.fault .noQueries)
  let _ ← c.interval
  let _ ← Stop.ofCheck c.resolve
  Stop.ofCheck (Generator.checkFormat c.format c.useCase)

/-- The seed that is asked for; 0 leaves the choice of one to the clock. -/
def effectiveSeed (c : Config) : Option Int := if c.seed = 0 then none else some c.seed

/-- What a generator with a given seed is bound to. -/
def params (c : Config) (seed : Int) : Except Stop Params := do
  return ⟨← c.interval, c.scale, seed⟩

/-- The generator that is asked for. -/
def generator (c : Config) (seed : Int) : Except Stop Generator := do
  let p ← c.params seed
  Stop.ofCheck (Generator.create c.format c.useCase p.interval p.scale p.seed)

end Config

end FluxCorpus
