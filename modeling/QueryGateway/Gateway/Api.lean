import QueryGateway.Gateway.Coordinator
import QueryGateway.Http.Headers
import QueryGateway.Http.Route

/-!
# The service interface

Requests ask for rows, jobs, metrics and data sources.  What is wrong with the address is answered
in plain text, everything else in JSON.

## Main definitions

* `HttpRequest`, `HttpResponse` — requests and their answers.
* `Api.respond` — answers a request.
* `Api.description` — the paths and types of the interface.
-/

namespace QueryGateway

open Json

/-- A request. -/
structure HttpRequest where
  method : String
  /-- The path with the query string. -/
  target : String
  headers : Headers := []
  body : Bytes := []
  deriving DecidableEq

namespace HttpRequest

/-- The target as characters, without a fragment. -/
def targetChars (r : HttpRequest) : List Char := r.target.toList.takeWhile (· ≠ '#')

/-- The path of a request. -/
def path (r : HttpRequest) : String := String.ofList (r.targetChars.takeWhile (· ≠ '?'))

/-- The query string of a request. -/
def query (r : HttpRequest) : String :=
  String.ofList ((r.targetChars.dropWhile (· ≠ '?')).drop 1)

/-- The parameter `async`, which may be given once. -/
def asyncParameter (r : HttpRequest) : Except String (Option String) :=
  match (Percent.formFields r.query).filter fun (key, _) => key = "async" with
  | [] => .ok none
  | [(_, value)] => .ok (some value)
  | _ => .error "Failed to deserialize query string: duplicate field \x60async\x60"

end HttpRequest

/-- The body of an answer. -/
inductive HttpBody
  | json (value : Value)
  | text (text : String)
  deriving DecidableEq

/-- An answer. -/
structure HttpResponse where
  status : Nat
  body : HttpBody
  /-- The methods that would have been answered. -/
  allow : Option String := none
  deriving DecidableEq

namespace HttpResponse

/-- A JSON answer. -/
def ok (value : Value) : HttpResponse := { status := 200, body := .json value }

/-- The answer that tells a failure. -/
def ofFailure (f : Failure) : HttpResponse := { status := f.status, body := .json f.body }

/-- The answer to a malformed address. -/
def badAddress (wording : String) : HttpResponse := { status := 400, body := .text wording }

/-- The answer where there is nothing. -/
def nothing : HttpResponse := { status := 404, body := .text "" }

/-- The answer to a wrong method. -/
def wrongMethod (allowed : RouteMethod) : HttpResponse :=
  { status := 405, body := .text "", allow := some allowed.allow }

/-- The answer when a handler breaks down, whatever the reason. -/
def breakdown : HttpResponse := ofFailure (.internal "internal error")

/-- The answer without its body. -/
def withoutBody (r : HttpResponse) : HttpResponse := { r with body := .text "" }

/-- The answer to a result. -/
def ofResult {α : Type} (f : α → HttpResponse) : Except Failure α → HttpResponse
  | .ok x => f x
  | .error e => ofFailure e

end HttpResponse

/-- The service interface: the environment that it runs in, whether there are jobs to be looked up,
and how requests are answered. -/
structure Api where
  environment : String
  hasJobs : Bool
  coordinator : Coordinator
  deriving DecidableEq, Repr

namespace Api

open GatewayCall (perform)

/-- The failure of a body that holds no request. -/
def malformedBody : Failure :=
  (Failure.invalidInput "invalid request body").withDetail "reason" (.string "no request")

/-- The failure where there are no jobs. -/
def noJobs : Failure := .unavailable "job repository unavailable"

/-- The failure of a job that is not there. -/
def missingJob (id : String) : Failure :=
  (Failure.notFound "job not found").withDetail "jobId" (.string id)

/-- The answer to a request for rows. -/
def outcomeResponse : QueryOutcome → HttpResponse
  | .completed response => .ok response.toJson
  | .accepted job => { status := 202, body := .json job.toJson }

/-- Answers a request for rows. -/
def queryTable (api : Api) (ctx : Context) (r : HttpRequest) (source table : String) :
    GatewayProgram HttpResponse := do
  match r.asyncParameter with
  | .error wording => return .badAddress wording
  | .ok parameter =>
    match Request.ofBytes? r.body with
    | none => return .ofFailure malformedBody
    | some request =>
      let mode := api.coordinator.modeFor (asyncRequested parameter r.headers)
      return HttpResponse.ofResult outcomeResponse
        (← api.coordinator.execute ctx source table request r.headers.apiKey mode)

/-- Looks a job up. -/
def job (api : Api) (id : String) : GatewayProgram (Except Failure Job) := do
  if !api.hasJobs then return .error noJobs
  else
    match ← perform (.find id) with
    | .error e => return .error e.failure
    | .ok none => return .error (missingJob id)
    | .ok (some job) => return .ok job

/-- Looks up the jobs of a request. -/
def jobsByHash (api : Api) (hash : String) : GatewayProgram (Except Failure (List Job)) := do
  if !api.hasJobs then return .error noJobs
  else return (← perform (.findByHash hash)).mapError JobError.failure

/-- The paths of the interface. -/
def paths : List String :=
  ["/data/\x7bsource\x7d/\x7btable\x7d", "/jobs/\x7bjob_id\x7d", "/jobs/hash/\x7bpayload_hash\x7d",
    "/health", "/metrics", "/datasources"]

/-- The names of the types of the interface. -/
def types : List String :=
  ["QueryRequest", "OrderField", "FilterField", "QueryResponse", "QueryMetadata", "AcceptedJob",
    "QueryJob", "JobStatus", "HealthResponse", "MetricsResponse", "MetricsSummary",
    "DataSourceSummary", "ErrorBody", "ErrorCode"]

/-- The description of the interface. -/
def description : Value :=
  let named (names : List String) : Value := .object (names.map fun name => (name, .object []))
  .object [("paths", named paths), ("components", .object [("schemas", named types)])]

/-- Goes on with the text of a path parameter. -/
def withParameter (p : PathParameter) (f : String → GatewayProgram HttpResponse) :
    GatewayProgram HttpResponse :=
  match p.read with
  | .ok text => f text
  | .error wording => return .badAddress wording

/-- Answers a request whose method fits its route. -/
def answer (api : Api) (ctx : Context) (r : HttpRequest) : Route → GatewayProgram HttpResponse
  | .table source table =>
    withParameter source fun source => withParameter table fun table =>
      api.queryTable ctx r source table
  | .job id => withParameter id fun id => do
    return .ofResult (fun job => .ok job.toJson) (← api.job id)
  | .jobsByHash hash => withParameter hash fun hash => do
    return .ofResult (fun jobs => .ok (.array (jobs.map Job.toJson))) (← api.jobsByHash hash)
  | .health =>
    return .ok (.object [("status", .string "ok"), ("env", .string api.environment)])
  | .metrics => do
    let (summary, total) ← perform .summary
    return .ok (.object [
      ("summary", .array (summary.map MetricSummary.toJson)),
      ("total", .ofInt64 (.ofNat total))])
  | .dataSources => do return .ok (.array (← perform .sources))
  | .description => return .ok description

/-- Answers a request. -/
def respond (api : Api) (ctx : Context) (r : HttpRequest) : GatewayProgram HttpResponse := do
  match Route.ofPath? r.path with
  | none => return .nothing
  | some route =>
    if route.method.accepts r.method then
      let response ← api.answer ctx r route
      return if r.method = "HEAD" then response.withoutBody else response
    else return .wrongMethod route.method

end Api

end QueryGateway
