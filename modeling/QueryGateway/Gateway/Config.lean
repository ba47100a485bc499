import QueryGateway.Queue.Consumer
import QueryGateway.Source
import QueryGateway.Text.Blank
import QueryGateway.Yaml.Reading

/-!
# Configuration

The gateway is configured by a YAML text in which every section may be left out.  Without a queue
nothing is run later; jobs can be looked up all the same.  Data sources have distinct names.

## Main definitions

* `QueueSection`, `JobsSection`, `GatewayConfig` — the settings.
* `GatewayConfig.ofText` — reads and checks a configuration.
* `GatewayConfig.fault?` — what is wrong with settings that can be read.
* `GatewayConfig.sharingFault?` — what keeps a process of its own from running the jobs.
-/

namespace QueryGateway

open Yaml (record Field Reader)

/-- The kinds of queues. -/
inductive QueueBackend
  | memory
  | redis
  deriving DecidableEq, Repr

/-- The name of a kind. -/
def QueueBackend.text : QueueBackend → String
  | .memory => "memory"
  | .redis => "redis"

/-- The settings of the queue. -/
structure QueueSection where
  backend : QueueBackend := .memory
  url : Option String := none
  name : String := "qgate:jobs"
  /-- The name of the consumer. -/
  consumer : Option String := none
  maxAttempts : UInt32 := 5
  messageTimeoutSecs : UInt64 := 30
  maxInFlight : UInt64 := 16
  deriving DecidableEq, Repr

/-- How the consumer handles deliveries. -/
def QueueSection.consumerOptions (q : QueueSection) : ConsumerOptions :=
  { timeoutMs := q.messageTimeoutSecs.toNat * 1000
    maxInFlight := max 1 q.maxInFlight.toNat
    maxAttempts := if q.maxAttempts = 0 then 1 else q.maxAttempts }

/-- The kinds of job stores. -/
inductive JobsBackend
  | memory
  | postgres
  deriving DecidableEq, Repr

/-- The name of a kind. -/
def JobsBackend.text : JobsBackend → String
  | .memory => "memory"
  | .postgres => "postgres"

/-- The settings of the job store. -/
structure JobsSection where
  backend : JobsBackend := .memory
  url : Option String := none
  deriving DecidableEq, Repr

/-- The settings of the gateway. -/
structure GatewayConfig where
  environment : String := "development"
  /-- How many milliseconds a query may take when its data source does not say. -/
  defaultTimeoutMs : UInt64 := 4000
  /-- How many metrics are kept. -/
  capacity : UInt64 := 1000
  queue : Option QueueSection := none
  jobs : JobsSection := {}
  sources : List Source := []
  deriving DecidableEq

/-- What is wrong with settings that can be read. -/
inductive ConfigFault
  | redisWithoutUrl
  | postgresWithoutUrl
  | duplicateSource (name : String)
  deriving DecidableEq, Repr

/-- The wording of a fault. -/
def ConfigFault.message : ConfigFault → String
  | .redisWithoutUrl => "queue.url is required for the redis backend"
  | .postgresWithoutUrl => "jobs.url is required for the postgres backend"
  | .duplicateSource name => "duplicate data source name: " ++ name

/-- Why a configuration is refused. -/
inductive ConfigError
  /-- It cannot be read. -/
  | malformed
  | fault (f : ConfigFault)
  deriving DecidableEq, Repr

/-- What keeps a process of its own from running the jobs. -/
inductive SharingFault
  | noQueue
  | memoryQueue
  | unnamedConsumer
  | memoryJobs
  deriving DecidableEq, Repr

/-- The wording of a fault. -/
def SharingFault.message : SharingFault → String
  | .noQueue => "no queue configured; the worker has nothing to consume"
  | .memoryQueue => "the memory queue is only reachable from \x60serve\x60; configure redis"
  | .unnamedConsumer =>
    "queue.consumer must name this worker; each worker needs its own name"
  | .memoryJobs =>
    "the memory job store is only reachable from \x60serve\x60; configure postgres"

namespace Connection

/-- Connection settings in YAML. -/
def ofNode : Reader Connection := fun n => do
  match ← record ["host", "port", "user", "password", "database", "sslMode", "maxConnections"] n with
  | [host, port, user, password, database, sslMode, maxConnections] =>
    return {
      host := ← Field.withDefault "localhost" Reader.text host
      port := ← Field.withDefault 5432 Reader.uint16 port
      user := ← Field.withDefault "" Reader.text user
      password := ← Field.withDefault "" Reader.text password
      database := ← Field.withDefault "" Reader.text database
      sslMode := ← Field.withDefault "disable" Reader.text sslMode
      maxConnections := ← Field.withDefault 10 Reader.uint64 maxConnections }
  | _ => none

end Connection

namespace Capabilities

/-- Capabilities in YAML. -/
def ofNode : Reader Capabilities := fun n => do
  match ← record ["supportsJoins", "supportsTransactions", "maxDepthLimit"] n with
  | [joins, transactions, depth] =>
    return {
      supportsJoins := ← Field.withDefault false Reader.bool joins
      supportsTransactions := ← Field.withDefault false Reader.bool transactions
      maxDepthLimit := ← Field.withDefault 0 Reader.int64 depth }
  | _ => none

end Capabilities

namespace Limits

/-- Limits in YAML. -/
def ofNode : Reader Limits := fun n => do
  match ← record ["maxRows", "queryTimeoutMs"] n with
  | [maxRows, queryTimeoutMs] =>
    return {
      maxRows := ← Field.withDefault 0 Reader.int64 maxRows
      queryTimeoutMs := ← Field.withDefault 0 Reader.uint64 queryTimeoutMs }
  | _ => none

end Limits

namespace Source

/-- A data source in YAML. -/
def ofNode : Reader Source := fun n => do
  match ← record ["name", "type", "description", "connection", "capabilities", "limits",
    "blockedColumns"] n with
  | [name, kind, description, connection, capabilities, limits, blocklist] =>
    return {
      name := ← Field.required Reader.text name
      kind := ← Field.required Reader.text kind
      description := ← Field.withDefault "" Reader.text description
      connection := ← Field.withDefault {} Connection.ofNode connection
      capabilities := ← Field.withDefault {} Capabilities.ofNode capabilities
      limits := ← Field.withDefault {} Limits.ofNode limits
      blocklist := ← Field.withDefault [] (Reader.list Reader.text) blocklist }
  | _ => none

end Source

namespace QueueSection

/-- The settings of the queue in YAML. -/
def ofNode : Reader QueueSection := fun n => do
  match ← record ["backend", "url", "name", "consumer", "maxAttempts", "messageTimeoutSecs",
    "maxInFlight"] n with
  | [backend, url, name, consumer, maxAttempts, messageTimeoutSecs, maxInFlight] =>
    let backends := [QueueBackend.memory, .redis].map fun b => (b.text, b)
    return {
      backend := ← Field.withDefault .memory (Reader.oneOf backends) backend
      url := ← Field.withDefault none (Reader.nullable Reader.text) url
      name := ← Field.withDefault "qgate:jobs" Reader.text name
      consumer := ← Field.withDefault none (Reader.nullable Reader.text) consumer
      maxAttempts := ← Field.withDefault 5 Reader.uint32 maxAttempts
      messageTimeoutSecs := ← Field.withDefault 30 Reader.uint64 messageTimeoutSecs
      maxInFlight := ← Field.withDefault 16 Reader.uint64 maxInFlight }
  | _ => none

end QueueSection

namespace JobsSection

/-- The settings of the job store in YAML. -/
def ofNode : Reader JobsSection := fun n => do
  match ← record ["backend", "url"] n with
  | [backend, url] =>
    let backends := [JobsBackend.memory, .postgres].map fun b => (b.text, b)
    return {
      backend := ← Field.withDefault .memory (Reader.oneOf backends) backend
      url := ← Field.withDefault none (Reader.nullable Reader.text) url }
  | _ => none

end JobsSection

namespace GatewayConfig

/-- A section that holds a single number. -/
def number (name : String) (default : UInt64) : Reader UInt64 := fun n => do
  match ← record [name] n with
  | [field] => Field.withDefault default Reader.uint64 field
  | _ => none

/-- The settings in YAML. -/
def ofNode : Reader GatewayConfig := fun n => do
  match ← record ["environment", "query", "metrics", "queue", "jobs", "datasources"] n with
  | [environment, query, metrics, queue, jobs, sources] =>
    return {
      environment := ← Field.withDefault "development" Reader.text environment
      defaultTimeoutMs := ← Field.withDefault 4000 (number "defaultTimeoutMs" 4000) query
      capacity := ← Field.withDefault 1000 (number "capacity" 1000) metrics
      queue := ← Field.withDefault none (Reader.nullable QueueSection.ofNode) queue
      jobs := ← Field.withDefault {} JobsSection.ofNode jobs
      sources := ← Field.withDefault [] (Reader.list Source.ofNode) sources }
  | _ => none

/-- The settings that a text gives; a text of blanks gives the defaults. -/
def decode? (text : String) : Option GatewayConfig :=
  if Text.trim text = "" then some {} else (Yaml.Node.ofText? text).bind ofNode

/-- The first of some names that the next one repeats. -/
def firstRepeated? : List String → Option String
  | a :: b :: rest => if a = b then some a else firstRepeated? (b :: rest)
  | _ => none

/-- The least name that occurs twice. -/
def repeatedName? (names : List String) : Option String := firstRepeated? (names.mergeSort (· ≤ ·))

/-- What is wrong with the settings: backends without their address come first, then names that are
given twice. -/
def fault? (c : GatewayConfig) : Option ConfigFault :=
  if c.queue.any fun q => q.backend = .redis && q.url.isNone then some .redisWithoutUrl
  else if c.jobs.backend = .postgres ∧ c.jobs.url.isNone then some .postgresWithoutUrl
  else (repeatedName? (c.sources.map Source.name)).map .duplicateSource

/-- Reads and checks a configuration. -/
def ofText (text : String) : Except ConfigError GatewayConfig :=
  match decode? text with
  | none => .error .malformed
  | some c =>
    match c.fault? with
    | some f => .error (.fault f)
    | none => .ok c

/-- What keeps a process of its own from running the jobs: it sees only what processes share. -/
def sharingFault? (c : GatewayConfig) : Option SharingFault :=
  match c.queue with
  | none => some .noQueue
  | some q =>
    if q.backend = .memory then some .memoryQueue
    else if q.consumer.isNone then some .unnamedConsumer
    else if c.jobs.backend = .memory then some .memoryJobs
    else none

end GatewayConfig

end QueryGateway
