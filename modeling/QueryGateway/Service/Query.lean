import QueryGateway.Cell
import QueryGateway.Context
import QueryGateway.Service.Registry
import QueryGateway.Statement

/-!
# Running a query

A request is first prepared: its names are checked, its data source is looked up and its statements
are compiled.  Then it runs under a deadline of its own, and the columns that the data source blocks
are taken out of the rows.  A count that is asked for but fails leaves the answer without total.

## Main definitions

* `ServiceCall` — what running a query needs of its surroundings.
* `Prepared`, `Response` — a request ready to run, and its answer.
* `Service.prepare`, `Service.execute`, `Service.queryTable` — the programs.
-/

namespace QueryGateway

open Json

/-- What running a query needs of its surroundings. -/
inductive ServiceCall
  /-- The data source with a name. -/
  | source (name : String)
  /-- The data sources in the order of their names. -/
  | sources
  | registry (c : RegistryCall)
  /-- A context that descends from another and has so many milliseconds left at most. -/
  | limit (ctx : Context) (ms : UInt64)
  /-- The rows that a statement gives, and how many milliseconds it took. -/
  | query (c : ConnectorId) (ctx : Context) (sql : String) (params : List Value)
  deriving DecidableEq

/-- The answers that running a query gets. -/
abbrev ServiceCall.Answer : ServiceCall → Type
  | .source _ => Option Source
  | .sources => List Source
  | .registry c => c.Answer
  | .limit _ _ => Context
  | .query _ _ _ _ => Except QueryError (List Row) × Int64

/-- Programs that run queries. -/
abbrev ServiceProgram := Program ServiceCall ServiceCall.Answer

/-- A single call. -/
abbrev ServiceCall.perform (c : ServiceCall) : ServiceProgram c.Answer := Program.perform c

/-- A request that is ready to run. -/
structure Prepared where
  source : Source
  table : String
  compiled : Compiled
  deriving DecidableEq

/-- The answer to a request. -/
structure Response where
  rows : List Row
  table : String
  tookMs : Int64
  total : Option Int64
  deriving DecidableEq

namespace Response

/-- The number of rows. -/
def rowCount (r : Response) : Int64 := Int64.ofNat r.rows.length

/-- The JSON form; an absent total is left out. -/
def toJson (r : Response) : Value :=
  .object [
    ("data", .array (r.rows.map Row.toJson)),
    ("metadata", .object
      ([("rows", .ofInt64 r.rowCount), ("table", .string r.table), ("tookMs", .ofInt64 r.tookMs)] ++
        (r.total.map fun n => ("total", Value.ofInt64 n)).toList))]

end Response

/-- The query service: how long a query may take when its data source does not say. -/
structure Service where
  defaultTimeout : UInt64
  deriving DecidableEq, Repr

namespace Service

open ServiceCall (perform)

/-- Runs a program on connectors within a query. -/
def registry {α : Type} (p : RegistryProgram α) : ServiceProgram α :=
  p.embed ServiceCall.registry fun _ answer => answer

/-- How many milliseconds a query of a data source may take. -/
def timeoutFor (s : Service) (source : Source) : UInt64 :=
  if source.limits.queryTimeoutMs = 0 then s.defaultTimeout else source.limits.queryTimeoutMs

/-- Checks and compiles a request. -/
def prepare (name table : String) (r : Request) : ServiceProgram (Except QueryError Prepared) := do
  match checkTarget table r.schemaName with
  | .error e => return .error e
  | .ok () =>
    match ← perform (.source name) with
    | none => return .error (.dataSourceNotFound name)
    | some source =>
      return (compile table r source).map fun compiled => { source, table, compiled }

/-- The error of a statement as the caller sees it: a timeout tells what the limit was. -/
def reported (timeout : UInt64) : QueryError → QueryError
  | .timeout _ => .timeout timeout
  | e => e

/-- The total in the rows of a count. -/
def totalOf (rows : List Row) : Option Int64 := do
  (← Keyed.find? "total" (← rows.head?)).asInt64

/-- The total of a request that asks for it, if the count succeeds. -/
def count (c : ConnectorId) (ctx : Context) (compiled : Compiled) :
    ServiceProgram (Option Int64) :=
  match compiled.countSql with
  | none => return none
  | some sql => do
    match ← perform (.query c ctx sql compiled.countParams) with
    | (.ok rows, _) => return totalOf rows
    | (.error _, _) => return none

/-- Runs a prepared request. -/
def execute (s : Service) (ctx : Context) (p : Prepared) :
    ServiceProgram (Except QueryError Response) := do
  let timeout := s.timeoutFor p.source
  let ctx ← perform (.limit ctx timeout)
  match ← registry (Registry.connectorFor p.source) with
  | .error e => return .error e
  | .ok c =>
    match ← perform (.query c ctx p.compiled.selectSql p.compiled.params) with
    | (.error e, _) => return .error (reported timeout e)
    | (.ok rows, tookMs) =>
      let rows := rows.map (p.source.scrub p.table)
      let total ← count c ctx p.compiled
      return .ok { rows, table := p.table, tookMs, total }

/-- Prepares and runs a request. -/
def queryTable (s : Service) (ctx : Context) (name table : String) (r : Request) :
    ServiceProgram (Except QueryError Response) := do
  match ← prepare name table r with
  | .error e => return .error e
  | .ok p => s.execute ctx p

/-- What is told of every data source. -/
def listSources : ServiceProgram (List Value) := do
  return (← perform .sources).map Source.summary

end Service

end QueryGateway
