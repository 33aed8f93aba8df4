import FluxCorpus.Flux.Predicate
import FluxCorpus.Flux.Script
import FluxCorpus.Template.Database
import FluxCorpus.Text.Aligned

/-!
# Templates about trucks

The queries on the `readings` and `diagnostics` measurements.  Most of them are about one fleet,
which is drawn after the window if there is one.
-/

namespace FluxCorpus

open Text (alignRight)
open Text.Decimal (text)

/-! ## Windows and thresholds -/

/-- The window of the query about trucks that do not move. -/
def stationaryWindow : Duration := .ofMinutes 10

/-- The window of the query about long sessions of driving. -/
def longSessionWindow : Duration := .ofHours 4

/-- The window of the query about long days of driving. -/
def dailyWindow : Duration := .ofHours 24

/-- The whole periods of ten minutes that are left of a length of time, if a number of minutes in
every hour is spent at rest. -/
def drivingPeriods (restPerHour : Nat) (d : Duration) : Nat :=
  d.nanos / Duration.nanosPerSecond * (60 - restPerHour) / 36000

/-! ## The scripts -/

namespace Script

open Flux (fromBenchmark rangeAll rangeOf filter pivotFields)

/-- The lines about the last place of trucks. -/
def lastLocationByTruck (trucks : String) : List String := [
  fromBenchmark,
  rangeAll,
  filter ("r._measurement == \"readings\" and " ++ trucks),
  pivotFields,
  "|> group(columns: [\"name\", \"driver\"])",
  "|> sort(columns: [\"_time\"], desc: true)",
  "|> first(column: \"latitude\")",
  "|> keep(columns: [\"name\", \"driver\", \"latitude\", \"longitude\", \"_time\"])"]

/-- The lines about the trucks of a fleet that hardly move in a window. -/
def stationaryTrucks (w : Interval) (fleet : String) : List String := [
  fromBenchmark,
  rangeOf w,
  filter ("r._measurement == \"readings\" and r._field == \"velocity\" and r.fleet == \"" ++ fleet
    ++ "\""),
  "|> group(columns: [\"name\", \"driver\", \"fleet\"])",
  "|> aggregateWindow(every: 10m, fn: mean, createEmpty: false)",
  "|> sort(columns: [\"_time\"], desc: false)",
  filter "r._value < 1.0"]

/-- The lines about the trucks of a fleet that drive in more than a number of periods of a window.
The length of a session is given in nanoseconds although its unit is the second. -/
def longSessions (w : Interval) (fleet : String) (offset threshold : Nat) : List String := [
  fromBenchmark,
  rangeOf w,
  filter ("r._measurement == \"readings\" and r._field == \"velocity\" and r.fleet == \"" ++ fleet
    ++ "\""),
  "|> aggregateWindow(every: 10m, fn: mean, createEmpty: false)",
  "|> group(columns: [\"name\", \"driver\"])",
  filter "r._value > 1.0",
  "|> aggregateWindow(every: " ++ text longSessionWindow.nanos ++ "s, fn:count, offset: "
    ++ text offset ++ "s, createEmpty: false)",
  filter ("r._value > " ++ text threshold),
  ""]

end Script

/-! ## The templates -/

namespace Compose

open Flux (paragraphs fromBenchmark rangeAll rangeOf filter pivotFields)

/-- Fills in the record, with the label as its description. -/
def writeLabelled (label flux : String) : Compose Unit := write label label flux

/-- The last place of random trucks. -/
def lastLocationByTruck (trucks : Nat) : Compose Unit := do
  let names ← tagPredicate .truck trucks
  let label := databaseName ++ " last location by specific truck"
  write label (label ++ ": random " ++ alignRight 4 trucks ++ " trucks")
    (paragraphs [Script.lastLocationByTruck names])

/-- The last place of every truck of a fleet. -/
def lastLocationPerTruck : Compose Unit := do
  let f ← fleet
  writeLabelled (databaseName ++ " last location per truck") <| paragraphs [[
    fromBenchmark,
    rangeAll,
    filter ("r._measurement == \"readings\" and r.fleet == \"" ++ f ++ "\""),
    pivotFields,
    "|> group(columns: [\"name\", \"driver\"])",
    "|> sort(columns: [\"_time\"], desc: true)",
    "|> first(column: \"latitude\")",
    "|> keep(columns: [\"name\", \"driver\", \"latitude\", \"longitude\"])"]]

/-- The trucks of a fleet with little fuel. -/
def lowFuel : Compose Unit := do
  let f ← fleet
  let label := databaseName ++ " trucks with low fuel"
  write label (label ++ ": under 10 percent") <| paragraphs [[
    fromBenchmark,
    rangeAll,
    filter ("r._measurement == \"diagnostics\" and r.fleet == \"" ++ f
      ++ "\" and r._field == \"fuel_state\" and r._value <= 0.1"),
    "|> group(columns: [\"name\", \"driver\"])",
    "|> last()",
    "|> keep(columns: [\"name\", \"driver\", \"_field\", \"_value\"])"]]

/-- The trucks of a fleet with nearly a full load. -/
def highLoad : Compose Unit := do
  let f ← fleet
  let label := databaseName ++ " trucks with high load"
  write label (label ++ ": over 90 percent") <| paragraphs [[
    fromBenchmark,
    rangeAll,
    filter ("r._measurement == \"diagnostics\" and r.fleet == \"" ++ f ++ "\""),
    pivotFields,
    "|> group(columns: [\"name\", \"driver\"])",
    "|> sort(columns: [\"_time\"], desc: true)",
    "|> first(column: \"current_load\")",
    filter "r.current_load >= 0.9 * r.load_capacity",
    "|> keep(columns: [\"name\", \"driver\", \"current_load\", \"load_capacity\"])"]]

/-- The trucks of a fleet that hardly move in a random window. -/
def stationaryTrucks : Compose Unit := do
  let w ← window stationaryWindow
  let f ← fleet
  let label := databaseName ++ " stationary trucks"
  write label (label ++ ": with low avg velocity in last 10 minutes")
    (paragraphs [Script.stationaryTrucks w f])

/-- The trucks of a fleet that drive in more than a number of periods of a random window.  Sessions
are counted from the time of day at which the simulation starts, not the window. -/
def longSessions (duration : Duration) (threshold : Nat) : Compose String := do
  let w ← window duration
  let offset := (← interval).startSecondOfDay
  let f ← fleet
  return paragraphs [Script.longSessions w f offset threshold]

/-- The trucks that rest for less than 20 minutes in four hours. -/
def longDrivingSessions : Compose Unit := do
  let flux ← longSessions longSessionWindow (drivingPeriods 5 longSessionWindow)
  let label := databaseName ++ " trucks with longer driving sessions"
  write label (label ++ ": stopped less than 20 mins in 4 hour period") flux

/-- The trucks that drive for more than ten hours in a day. -/
def longDailySessions : Compose Unit := do
  let flux ← longSessions dailyWindow (drivingPeriods 35 dailyWindow)
  let label := databaseName ++ " trucks with longer daily sessions"
  write label (label ++ ": drove more than 10 hours in the last 24 hours") flux

/-- The real and the nominal use of fuel of every fleet. -/
def fuelConsumption : Compose Unit :=
  writeLabelled (databaseName ++ " average vs projected fuel consumption per fleet") <|
    paragraphs [
      ["data = " ++ fromBenchmark,
        rangeAll,
        filter "r._measurement == \"readings\" and exists r.fleet",
        filter ("r._field == \"velocity\" or r._field == \"fuel_consumption\""
          ++ " or r._field == \"nominal_fuel_consumption\""),
        pivotFields,
        filter "r.velocity > 1.0",
        "|> group(columns: [\"fleet\"])"],
      ["data",
        "|> mean(column: \"nominal_fuel_consumption\")",
        "|> yield(name: \"mean_nominal_fuel_consumption\")"],
      ["data",
        "|> mean(column: \"fuel_consumption\")",
        "|> yield(name: \"mean_fuel_consumption\")"]]

/-- The hours that every driver drives in a day. -/
def dailyDrivingDuration : Compose Unit := do
  let i ← interval
  writeLabelled (databaseName ++ " average driver driving duration per day") <| paragraphs [[
    fromBenchmark,
    rangeOf i,
    filter "r._measurement == \"readings\" and r._field == \"velocity\"",
    "|> group(columns: [\"fleet\", \"name\", \"driver\"])",
    "|> aggregateWindow(every: 10m, fn: mean, createEmpty: false)",
    filter "r._value > 1.0",
    "|> sort(columns: [\"_time\"], desc: false)",
    "|> aggregateWindow(every: 1d, fn: count, createEmpty: false)",
    "|> map(fn: (r) => (\x7br with _value: r._value / 6.0\x7d))",
    "|> group(columns: [\"fleet\", \"name\", \"driver\"])",
    "|> yield(name: \"hours_driven\")",
    ""]]

/-- The average length of the sessions of every driver in a day. -/
def dailyDrivingSession : Compose Unit := do
  let i ← interval
  let driving := "if (r.driving == 1 and r.driving == accumulator.lastState)"
  writeLabelled (databaseName ++ " average driver driving session without stopping per day") <|
    paragraphs [
      ["import \"date\"",
        "import \"math\""],
      [fromBenchmark,
        rangeOf i,
        filter "r._measurement == \"readings\"",
        filter "r._field == \"velocity\"",
        "|> group(columns: [\"fleet\", \"name\", \"driver\"]) ",
        "|> aggregateWindow(every: 10m, fn: mean, createEmpty: false)",
        "|> map(fn: (r) => (\x7br with driving: if r._value > 5.0 then 1 else 0\x7d))",
        "|> map(fn: (r) => (\x7br with day: date.yearDay(t: r._time)\x7d))",
        "|> map(fn: (r) => (\x7br with year: date.year(t: r._time)\x7d))",
        "|> map(fn: (r) => (\x7br with month: date.month(t: r._time)\x7d))",
        "|> group(columns: [\"fleet\", \"name\", \"driver\", \"year\", \"day\"]) ",
        "|> reduce(",
        "\tidentity: \x7b",
        "\t\tcurrSession: 0,",
        "\t\tsessionSum: 0,",
        "\t\tsessionCount: 0,",
        "\t\tlastState: -1,",
        "\t\tfstDate: 0",
        "\t\x7d,",
        "\tfn: (r, accumulator) => (\x7b",
        "\t\tlastState: r.driving,",
        "\t\tcurrSession: " ++ driving ++ " then accumulator.currSession + 1 else 0,",
        "\t\tsessionSum: " ++ driving ++ " then accumulator.sessionSum"
          ++ " else accumulator.sessionSum + accumulator.currSession,",
        "\t\tsessionCount: " ++ driving ++ " then accumulator.sessionCount"
          ++ " else accumulator.sessionCount + 1,",
        "\t\tfstDate: if accumulator.fstDate == 0 then int(v: r._time) else accumulator.fstDate ",
        "\t\x7d)",
        ")",
        "|> map(fn: (r) => (\x7b",
        "\tname: r.name,",
        "\tdriver: r.driver,",
        "\tfleet: r.fleet,",
        "\tavg_session: (float(v:(r.sessionSum + r.currSession)) * 10.0"
          ++ " / float(v: r.sessionCount)) / 60.0,",
        "\t_time: time(v: r.fstDate)",
        "\x7d))",
        "|> yield()"]]

/-- The average load of every model in every fleet. -/
def averageLoad : Compose Unit :=
  writeLabelled (databaseName ++ " average load per truck model per fleet") <| paragraphs [[
    fromBenchmark,
    rangeAll,
    filter "r._measurement == \"diagnostics\"",
    filter "r._field == \"current_load\" or r._field == \"load_capacity\"",
    pivotFields,
    filter "r.load_capacity > 0.0",
    "|> map(fn: (r) => (\x7br with load_percentage: r.current_load / r.load_capacity\x7d))",
    "|> group(columns: [\"name\", \"fleet\", \"model\"])",
    "|> mean(column: \"load_percentage\")"]]

/-- How long the trucks of every fleet and model are active in a day. -/
def dailyActivity : Compose Unit := do
  let i ← interval
  writeLabelled (databaseName ++ " daily truck activity per fleet per model") <| paragraphs [[
    fromBenchmark,
    rangeOf i,
    filter "r._measurement == \"diagnostics\" and r._field == \"status\"",
    filter "exists r.model and exists r.fleet",
    "|> aggregateWindow(every: 10m, fn: mean, createEmpty: false)",
    "|> group(columns: [\"model\", \"fleet\"])",
    filter "r._value < 1",
    "|> aggregateWindow(every: 1d, fn: count, createEmpty: false)",
    "|> map(fn: (r) => (\x7br with _value: float(v:r._value) / 144.0\x7d))"]]

/-- How often the trucks of every model break down. -/
def breakdownFrequency : Compose Unit := do
  let i ← interval
  writeLabelled (databaseName ++ " truck breakdown frequency per model") <| paragraphs [[
    fromBenchmark,
    rangeOf i,
    filter "r._measurement == \"diagnostics\" and r._field == \"status\"",
    filter "exists r.model and exists r.fleet",
    "// First mark each reading as broken (1) or not (0)",
    "|> map(fn: (r) => (\x7br with is_broken: if r._value == 0 then 1 else 0\x7d)) ",
    "|> group(columns: [\"model\"])",
    "|> aggregateWindow(",
    "\tevery: 10m,",
    "\tfn: (column, tables=<-) => tables",
    "\t|> mean(column: \"is_broken\")",
    "\t|> map(fn: (r) => (\x7br with broken_down: if r.is_broken >= 0.5 then true else false\x7d)),",
    ")",
    "|> sort(columns: [\"_time\"])",
    "|> reduce(",
    "\tidentity: \x7b",
    "\t\tlastState: -1,",
    "\t\tcnt: 0",
    "\t\x7d, ",
    "\tfn: (r, accumulator) => (\x7b",
    "\t\tlastState: if r.broken_down == true then 1 else 0,",
    "\t\tcnt: if accumulator.lastState == 0 and r.broken_down == true"
      ++ " then accumulator.cnt + 1 else accumulator.cnt",
    "\t\x7d) ",
    ")"]]

end Compose

/-- A query about trucks, with everything that it leaves open. -/
inductive IotTemplate
  | lastLocationByTruck (trucks : Nat)
  | lastLocationPerTruck
  | lowFuel
  | highLoad
  | stationaryTrucks
  | longDrivingSessions
  | longDailySessions
  | fuelConsumption
  | dailyDrivingDuration
  | dailyDrivingSession
  | averageLoad
  | dailyActivity
  | breakdownFrequency
deriving DecidableEq, Repr

/-- Composes a query about trucks. -/
def IotTemplate.compose : IotTemplate → Compose Unit
  | lastLocationByTruck trucks => Compose.lastLocationByTruck trucks
  | lastLocationPerTruck => Compose.lastLocationPerTruck
  | lowFuel => Compose.lowFuel
  | highLoad => Compose.highLoad
  | stationaryTrucks => Compose.stationaryTrucks
  | longDrivingSessions => Compose.longDrivingSessions
  | longDailySessions => Compose.longDailySessions
  | fuelConsumption => Compose.fuelConsumption
  | dailyDrivingDuration => Compose.dailyDrivingDuration
  | dailyDrivingSession => Compose.dailyDrivingSession
  | averageLoad => Compose.averageLoad
  | dailyActivity => Compose.dailyActivity
  | breakdownFrequency => Compose.breakdownFrequency

end FluxCorpus
