import FluxCorpus.Template.Devops
import FluxCorpus.Template.Iot

/-!
# Query types

The catalog of the queries that can be asked for by name.  A query type is a template with all its
numbers fixed; `QueryType.compose` composes one query of it.
-/

namespace FluxCorpus

/-- A template of either use case. -/
inductive Template
  | devops (t : DevopsTemplate)
  | iot (t : IotTemplate)
deriving DecidableEq, Repr

namespace Template

/-- The use case that a template belongs to. -/
def useCase : Template → UseCase
  | devops _ => .devops
  | iot _ => .iot

/-- Composes a query. -/
def compose : Template → Compose Unit
  | devops t => t.compose
  | iot t => t.compose

end Template

/-- A query with a name. -/
structure QueryType where
  name : String
  useCase : UseCase
  description : String
  template : Template
deriving DecidableEq, Repr

namespace QueryType

/-- A query type about hosts. -/
def ofHosts (name description : String) (t : DevopsTemplate) : QueryType where
  name := name
  useCase := .devops
  description := description
  template := .devops t

/-- A query type about trucks. -/
def ofTrucks (name description : String) (t : IotTemplate) : QueryType where
  name := name
  useCase := .iot
  description := description
  template := .iot t

/-- The query types about hosts. -/
def devops : List QueryType :=
  [ofHosts "single-groupby-1-1-1"
      "Simple aggregate (MAX) on one metric for 1 host, every minute for 1 hour"
      (.groupByTime 1 1 (.ofHours 1)),
    ofHosts "single-groupby-1-1-12"
      "Simple aggregate (MAX) on one metric for 1 host, every minute for 12 hours"
      (.groupByTime 1 1 (.ofHours 12)),
    ofHosts "single-groupby-1-8-1"
      "Simple aggregate (MAX) on one metric for 8 hosts, every minute for 1 hour"
      (.groupByTime 8 1 (.ofHours 1)),
    ofHosts "single-groupby-5-1-1"
      "Simple aggregate (MAX) on 5 metrics for 1 host, every minute for 1 hour"
      (.groupByTime 1 5 (.ofHours 1)),
    ofHosts "single-groupby-5-1-12"
      "Simple aggregate (MAX) on 5 metrics for 1 host, every minute for 12 hours"
      (.groupByTime 1 5 (.ofHours 12)),
    ofHosts "single-groupby-5-8-1"
      "Simple aggregate (MAX) on 5 metrics for 8 hosts, every minute for 1 hour"
      (.groupByTime 8 5 (.ofHours 1)),
    ofHosts "cpu-max-all-1"
      "Aggregate across all CPU metrics per hour over 8 hours for a single host"
      (.maxAll 1 maxAllWindow),
    ofHosts "cpu-max-all-8"
      "Aggregate across all CPU metrics per hour over 8 hours for eight hosts"
      (.maxAll 8 maxAllWindow),
    ofHosts "double-groupby-1"
      "Aggregate on across both time and host, giving the average of 1 CPU metric per host per hour for 12 hours"
      (.doubleGroupBy 1),
    ofHosts "double-groupby-5"
      "Aggregate on across both time and host, giving the average of 5 CPU metrics per host per hour for 12 hours"
      (.doubleGroupBy 5),
    ofHosts "double-groupby-all"
      "Aggregate on across both time and host, giving the average of all (10) CPU metrics per host per hour for 12 hours"
      (.doubleGroupBy cpuMetrics.length),
    ofHosts "high-cpu-all"
      "All the readings where one metric is above a threshold across all hosts"
      (.highCpu 0),
    ofHosts "high-cpu-1"
      "All the readings where one metric is above a threshold for a particular host"
      (.highCpu 1),
    ofHosts "lastpoint"
      "The last reading for each host"
      .lastPoint,
    ofHosts "groupby-orderby-limit"
      "The last 5 aggregate readings (across time) before a randomly chosen endpoint"
      .groupByOrderByLimit]

/-- The query types about trucks. -/
def iot : List QueryType :=
  [ofTrucks "last-loc"
      "Fetch real-time (i.e. last) location of each truck"
      .lastLocationPerTruck,
    ofTrucks "single-last-loc"
      "Fetch real-time (i.e. last) location of a single truck"
      (.lastLocationByTruck 1),
    ofTrucks "low-fuel"
      "Fetch all trucks with low fuel (less than 10%)"
      .lowFuel,
    ofTrucks "high-load"
      "Fetch trucks with high current load (over 90% load capacity)"
      .highLoad,
    ofTrucks "stationary-trucks"
      "Fetch all trucks that are stationary (low avg velocity in last 10 mins)"
      .stationaryTrucks,
    ofTrucks "long-driving-sessions"
      "Get trucks which haven't rested for at least 20 mins in the last 4 hours"
      .longDrivingSessions,
    ofTrucks "long-daily-sessions"
      "Get trucks which drove more than 10 hours in the last 24 hours"
      .longDailySessions,
    ofTrucks "avg-vs-projected-fuel-consumption"
      "Calculate average vs. projected fuel consumption per fleet"
      .fuelConsumption,
    ofTrucks "avg-daily-driving-duration"
      "Calculate average daily driving duration per driver"
      .dailyDrivingDuration,
    ofTrucks "avg-daily-driving-session"
      "Calculate average daily driving session per driver"
      .dailyDrivingSession,
    ofTrucks "avg-load"
      "Calculate average load per truck model per fleet"
      .averageLoad,
    ofTrucks "daily-activity"
      "Get the number of hours truck has been active (vs. out-of-commission) per day per fleet per model"
      .dailyActivity,
    ofTrucks "breakdown-frequency"
      "Calculate breakdown frequency by truck model"
      .breakdownFrequency]

/-- All query types, those about hosts first. -/
def catalog : List QueryType := devops ++ iot

/-- The query types of a use case, in catalog order. -/
def ofUseCase (u : UseCase) : List QueryType := catalog.filter fun t => t.useCase = u

/-- The query type of a name. -/
def find (name : String) : Except Fault QueryType :=
  match catalog.find? fun t => t.name = name with
  | some t => return t
  | none => throw (.unknownQueryType name)

/-- Succeeds if a query type belongs to a use case. -/
def checkUseCase (t : QueryType) (u : UseCase) : Except Fault Unit :=
  if t.useCase = u then return ()
  else throw (.queryTypeMismatch t.name t.useCase.name u.name)

/-- Composes a query of a type.  Only a generator of the use case of the template can do that; with
any other one all that is left to do is the check that says why not. -/
def compose (t : QueryType) : Compose Unit := do
  let useCase := (← get).generator.useCase
  if t.template.useCase = useCase then t.template.compose
  else Compose.ofCheck (t.checkUseCase useCase)

end QueryType

end FluxCorpus
