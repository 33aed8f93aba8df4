import FluxCorpus.Flux.Predicate
import FluxCorpus.Flux.Script
import FluxCorpus.Template.Database
import FluxCorpus.Text.Aligned
import FluxCorpus.Workload.Metric

/-!
# Templates about hosts

The queries on the `cpu` measurement.  A template draws its window first and its hosts second; the
counts that it is given are checked where they are needed, so a failure can come after a draw.
-/

namespace FluxCorpus

open Text (alignRight)
open Text.Decimal (text)

/-! ## Windows and labels -/

/-- The window of the queries that group by time and host. -/
def doubleGroupByWindow : Duration := .ofHours 12

/-- The window of the queries about a high load of the processor. -/
def highCpuWindow : Duration := .ofHours 12

/-- The usual window of the queries about all metrics. -/
def maxAllWindow : Duration := .ofHours 8

/-- The label of the queries that group by time and host. -/
def doubleGroupByLabel (database : String) (metrics : Nat) : String :=
  database ++ " mean of " ++ text metrics ++ " metrics, all hosts, random "
    ++ doubleGroupByWindow.render ++ " by 1h"

/-- The label of the queries about all metrics.  It names the usual window, whatever the window of
the query. -/
def maxAllLabel (database : String) (hosts : Nat) : String :=
  database ++ " max of all CPU metrics, random " ++ alignRight 4 hosts ++ " hosts, random "
    ++ maxAllWindow.render ++ " by 1h"

/-- The label of the queries about a high load, which with no hosts is about all of them. -/
def highCpuLabel (database : String) (hosts : Nat) : String :=
  if hosts = 0 then database ++ " CPU over threshold, all hosts"
  else database ++ " CPU over threshold, " ++ text hosts ++ " host(s)"

/-- The label of the queries that group by time. -/
def groupByTimeLabel (database : String) (metrics hosts : Nat) (window : Duration) : String :=
  database ++ " " ++ text metrics ++ " cpu metric(s), random " ++ alignRight 4 hosts
    ++ " hosts, random " ++ window.render ++ " by 1m"

/-! ## The scripts -/

namespace Script

open Flux (fromBenchmark rangeAll rangeBefore rangeOf filter)

/-- The lines about the greatest value per minute, for fields and hosts in a window. -/
def groupByTime (w : Interval) (fields hosts : String) : List String := [
  fromBenchmark ++ " ",
  rangeOf w,
  filter ("r._measurement == \"cpu\" and " ++ fields ++ " and " ++ hosts),
  "|> aggregateWindow(every: 1m, fn: max, createEmpty: false)",
  "|> yield()",
  ""]

/-- The lines about the last greatest values per minute before the end of a window. -/
def groupByOrderByLimit (w : Interval) : List String := [
  fromBenchmark,
  rangeBefore w.stopText,
  filter "r._measurement == \"cpu\" and r._field == \"usage_user\"",
  "|> aggregateWindow(every: 1m, fn: max)",
  "|> sort(columns: [\"_time\"], desc: true)",
  "|> limit(n: 5)",
  ""]

/-- The lines about the mean per hour and host, for fields in a window. -/
def doubleGroupBy (w : Interval) (fields : String) : List String := [
  fromBenchmark,
  rangeOf w,
  filter ("r._measurement == \"cpu\" and " ++ fields),
  "|> group(columns: [\"_time\", \"hostname\"])",
  "|> aggregateWindow(every: 1h, fn: mean)",
  "|> yield(name: \"mean\")",
  ""]

/-- The lines about the greatest value per hour, for fields and hosts in a window. -/
def maxAll (w : Interval) (fields hosts : String) : List String := [
  fromBenchmark,
  rangeOf w,
  filter ("r._measurement == \"cpu\" and " ++ fields ++ " and " ++ hosts),
  "|> aggregateWindow(every: 1h, fn: max)",
  "|> yield(name: \"max\")",
  ""]

/-- The lines about the last record of every host. -/
def lastPoint : List String := [
  fromBenchmark,
  rangeAll,
  filter "r._measurement == \"cpu\"",
  "|> group(columns: [\"hostname\"])",
  "|> last()",
  ""]

/-- The lines about a load above 90 in a window, with a condition on the hosts behind it. -/
def highCpu (w : Interval) (hosts : String) : List String := [
  fromBenchmark,
  rangeOf w,
  filter ("r._measurement == \"cpu\" and r._field == \"usage_user\" and r._value > 90.0" ++ hosts),
  "|> yield(name: \"high_cpu\")",
  ""]

end Script

/-! ## The templates -/

namespace Compose

open Flux (paragraphs)

/-- Fills in the record, with the start of a window in its description. -/
def writeAt (label : String) (window : Interval) (flux : String) : Compose Unit :=
  write label (label ++ ": " ++ window.startText) flux

/-- The greatest value per minute of the first metrics, for random hosts in a random window. -/
def groupByTime (hosts metrics : Nat) (duration : Duration) : Compose Unit := do
  let w ← window duration
  let fields ← fieldPredicate (← ofCheck (firstMetrics metrics))
  let names ← tagPredicate .host hosts
  writeAt (groupByTimeLabel databaseName metrics hosts duration) w
    (paragraphs [Script.groupByTime w fields names])

/-- The last five greatest values per minute before the end of a random window of one hour. -/
def groupByOrderByLimit : Compose Unit := do
  let w ← window (.ofHours 1)
  writeAt (databaseName ++ " max cpu over last 5 min-intervals (random end)") w
    (paragraphs [Script.groupByOrderByLimit w])

/-- The mean per hour and host of the first metrics in a random window. -/
def doubleGroupBy (metrics : Nat) : Compose Unit := do
  let names ← ofCheck (firstMetrics metrics)
  let w ← window doubleGroupByWindow
  let fields ← fieldPredicate names
  writeAt (doubleGroupByLabel databaseName metrics) w
    (paragraphs [Script.doubleGroupBy w fields])

/-- The greatest value per hour of all metrics, for random hosts in a random window. -/
def maxAll (hosts : Nat) (duration : Duration) : Compose Unit := do
  let w ← window duration
  let names ← tagPredicate .host hosts
  let fields ← fieldPredicate cpuMetrics
  writeAt (maxAllLabel databaseName hosts) w (paragraphs [Script.maxAll w fields names])

/-- The last record of every host. -/
def lastPoint : Compose Unit :=
  let label := databaseName ++ " last row per host"
  write label (label ++ ": cpu") (paragraphs [Script.lastPoint])

/-- A further condition on the host, or none if the number of hosts is 0. -/
def hostCondition (hosts : Nat) : Compose String :=
  if hosts = 0 then return "" else return " and " ++ (← tagPredicate .host hosts)

/-- The records above a load of 90 in a random window, for random hosts, or for all hosts if the
number is 0. -/
def highCpu (hosts : Nat) : Compose Unit := do
  let w ← window highCpuWindow
  let condition ← hostCondition hosts
  writeAt (highCpuLabel databaseName hosts) w (paragraphs [Script.highCpu w condition])

end Compose

/-- A query about hosts, with everything that it leaves open. -/
inductive DevopsTemplate
  | groupByTime (hosts metrics : Nat) (window : Duration)
  | groupByOrderByLimit
  | doubleGroupBy (metrics : Nat)
  | maxAll (hosts : Nat) (window : Duration)
  | lastPoint
  | highCpu (hosts : Nat)
deriving DecidableEq, Repr

/-- Composes a query about hosts. -/
def DevopsTemplate.compose : DevopsTemplate → Compose Unit
  | groupByTime hosts metrics window => Compose.groupByTime hosts metrics window
  | groupByOrderByLimit => Compose.groupByOrderByLimit
  | doubleGroupBy metrics => Compose.doubleGroupBy metrics
  | maxAll hosts window => Compose.maxAll hosts window
  | lastPoint => Compose.lastPoint
  | highCpu hosts => Compose.highCpu hosts

end FluxCorpus
