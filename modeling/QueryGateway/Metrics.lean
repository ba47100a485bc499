import QueryGateway.Calendar.Reading
import QueryGateway.Json.Record

/-!
# Metrics

Every query leaves a metric: where it went, how long it took and how many rows it gave.  A window
keeps the most recent ones and is summarized for each data source.

## Main definitions

* `Metric` — one measurement, with its JSON form.
* `MetricWindow` — the most recent metrics.
* `MetricWindow.summary` — counts, mean and 95th percentile for each data source.
-/

namespace QueryGateway

open Json

/-- How a query ended. -/
inductive Outcome
  | success
  | error
  deriving DecidableEq, Repr

/-- The name of an outcome. -/
def Outcome.text : Outcome → String
  | .success => "success"
  | .error => "error"

/-- An instant in JSON: a text in the relaxed form of RFC 3339. -/
def Instant.reader : Reader Instant := fun levels doc =>
  (Reader.string levels doc).bind Instant.ofRelaxed?

/-- One measurement. -/
structure Metric where
  dataSource : String
  table : String
  outcome : Outcome
  latencyMs : Int64
  rows : Int64
  jobId : Option String := none
  payloadHash : Option String := none
  apiKey : Option String := none
  timestamp : Instant := .epoch
  deriving DecidableEq

namespace Metric

/-- The metric of a query that gave rows. -/
def success (dataSource table : String) (latencyMs rows : Int64) : Metric :=
  { dataSource, table, outcome := .success, latencyMs, rows }

/-- The metric of a query that gave none. -/
def error (dataSource table : String) (latencyMs : Int64) : Metric :=
  { dataSource, table, outcome := .error, latencyMs, rows := 0 }

/-- A metric of a job. -/
def withJob (m : Metric) (jobId payloadHash : String) : Metric :=
  { m with jobId := some jobId, payloadHash := some payloadHash }

/-- A metric of a caller; an empty key is none. -/
def withApiKey (m : Metric) (apiKey : Option String) : Metric :=
  { m with apiKey := apiKey.filter (· ≠ "") }

/-- The spellings of the fields. -/
def spellings : List (List String) :=
  [["dataSource"], ["table"], ["status"], ["latencyMs"], ["rows"], ["jobId"], ["payloadHash"],
    ["apiKey"], ["timestamp"]]

/-- A metric in JSON. -/
def reader : Reader Metric := fun levels doc => do
  let (levels, fields) ← record spellings levels doc
  match fields with
  | [dataSource, table, status, latencyMs, rows, jobId, payloadHash, apiKey, timestamp] =>
    return {
      dataSource := ← dataSource.required Reader.string levels
      table := ← table.required Reader.string levels
      outcome := ← status.required (Reader.oneOf [("success", .success), ("error", .error)]) levels
      latencyMs := ← latencyMs.required Reader.int64 levels
      rows := ← rows.required Reader.int64 levels
      jobId := ← jobId.optional Reader.string levels
      payloadHash := ← payloadHash.optional Reader.string levels
      apiKey := ← apiKey.optional Reader.string levels
      timestamp := ← timestamp.required Instant.reader levels }
  | _ => none

/-- The metric that bytes write in JSON. -/
def ofBytes? (bytes : Bytes) : Option Metric :=
  (Document.ofBytes? bytes).bind (reader maxDepth)

/-- The JSON form; what is absent is left out. -/
def toJson (m : Metric) : Value :=
  let texts := [("jobId", m.jobId), ("payloadHash", m.payloadHash), ("apiKey", m.apiKey)]
  .object
    ([("dataSource", .string m.dataSource), ("table", .string m.table),
        ("status", .string m.outcome.text), ("latencyMs", .ofInt64 m.latencyMs),
        ("rows", .ofInt64 m.rows)] ++
      texts.filterMap (fun (key, text) => text.map fun t => (key, Value.string t)) ++
      [("timestamp", .string m.timestamp.rfc3339)])

end Metric

/-- The capacity of a window that asks for none. -/
def defaultMetricCapacity : Nat := 1000

/-- The most recent metrics, oldest first. -/
structure MetricWindow where
  capacity : Nat
  entries : List Metric

namespace MetricWindow

/-- An empty window; a capacity of zero stands for the default. -/
def empty (capacity : Nat) : MetricWindow :=
  ⟨if capacity = 0 then defaultMetricCapacity else capacity, []⟩

/-- The window after a metric recorded at an instant. -/
def record (w : MetricWindow) (now : Instant) (m : Metric) : MetricWindow :=
  let entries := w.entries ++ [{ m with timestamp := now }]
  { w with entries := entries.drop (entries.length - w.capacity) }

/-- The number of metrics in the window. -/
def size (w : MetricWindow) : Nat := w.entries.length

end MetricWindow

/-- What a window says of one data source. -/
structure MetricSummary where
  dataSource : String
  totalQueries : Nat
  successCount : Nat
  errorCount : Nat
  avgLatencyMs : Int64
  p95LatencyMs : Int64
  totalRows : Int64
  deriving DecidableEq

/-- The position of the 95th percentile among so many sorted values. -/
def p95Index (length : Nat) : Nat := min (length * 95 / 100) (length - 1)

/-- The summary of the metrics of one data source.  Sums are taken in 64 bits and the mean is
rounded toward zero. -/
def MetricSummary.ofMetrics (dataSource : String) (metrics : List Metric) : MetricSummary :=
  let latencies := metrics.map Metric.latencyMs
  let sorted := latencies.mergeSort (· ≤ ·)
  { dataSource
    totalQueries := metrics.length
    successCount := metrics.countP (·.outcome = .success)
    errorCount := metrics.countP (·.outcome = .error)
    avgLatencyMs := latencies.foldl (· + ·) 0 / Int64.ofNat metrics.length
    p95LatencyMs := sorted.getD (p95Index sorted.length) 0
    totalRows := (metrics.map Metric.rows).foldl (· + ·) 0 }

/-- The JSON form. -/
def MetricSummary.toJson (s : MetricSummary) : Value :=
  .object [
    ("dataSource", .string s.dataSource), ("totalQueries", .ofInt64 (.ofNat s.totalQueries)),
    ("successCount", .ofInt64 (.ofNat s.successCount)),
    ("errorCount", .ofInt64 (.ofNat s.errorCount)), ("avgLatencyMs", .ofInt64 s.avgLatencyMs),
    ("p95LatencyMs", .ofInt64 s.p95LatencyMs), ("totalRows", .ofInt64 s.totalRows)]

/-- The names of the data sources in a window, ascending. -/
def MetricWindow.dataSources (w : MetricWindow) : List String :=
  (Keyed.sort (w.entries.map fun m => (m.dataSource, ()))).map Prod.fst

/-- The summary of each data source, in ascending order of their names. -/
def MetricWindow.summary (w : MetricWindow) : List MetricSummary :=
  w.dataSources.map fun name =>
    MetricSummary.ofMetrics name (w.entries.filter fun m => m.dataSource = name)

end QueryGateway
