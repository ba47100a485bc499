import QueryGateway.Http.Percent

/-!
# Routes

The path of a request says what it is about.  Parameters in the path are percent-encoded; the last
part of a path may not be empty.

## Main definitions

* `Route` — what a path is about; `Route.ofPath?` reads a path.
* `Route.method` — the method by which it is asked for.
* `PathParameter.read` — the text of a parameter.
-/

namespace QueryGateway

/-- A parameter in a path, as it is written there. -/
structure PathParameter where
  name : String
  written : String
  deriving DecidableEq, Repr

/-- The text of a parameter; otherwise the wording of what is wrong with it. -/
def PathParameter.read (p : PathParameter) : Except String String :=
  match Utf8.decode? (Percent.decode (Utf8.encode p.written)) with
  | some text => .ok text
  | none => .error ("Invalid URL: Invalid UTF-8 in \x60" ++ p.name ++ "\x60")

/-- What a path is about. -/
inductive Route
  /-- The rows of a table of a data source. -/
  | table (source table : PathParameter)
  | job (id : PathParameter)
  | jobsByHash (hash : PathParameter)
  | health
  | metrics
  | dataSources
  /-- The description of the service. -/
  | description
  deriving DecidableEq, Repr

/-- The methods that routes know. -/
inductive RouteMethod
  | get
  | post
  deriving DecidableEq, Repr

namespace Route

/-- The route of a path. -/
def ofPath? (path : String) : Option Route :=
  match Text.split '/' path with
  | ["", "data", first, last] =>
    if last = "" then none else some (.table ⟨"source", first⟩ ⟨"table", last⟩)
  | ["", "jobs", "hash", last] =>
    if last = "" then none else some (.jobsByHash ⟨"payload_hash", last⟩)
  | ["", "jobs", last] => if last = "" then none else some (.job ⟨"job_id", last⟩)
  | ["", "health"] => some .health
  | ["", "metrics"] => some .metrics
  | ["", "datasources"] => some .dataSources
  | ["", "openapi.json"] => some .description
  | _ => none

/-- The method of a route. -/
def method : Route → RouteMethod
  | .table _ _ => .post
  | _ => .get

end Route

/-- The methods that a route answers to, as they are told to callers. -/
def RouteMethod.allow : RouteMethod → String
  | .get => "GET,HEAD"
  | .post => "POST"

/-- Whether a method of a request is this one.  What can be got can be asked for without its
body. -/
def RouteMethod.accepts : RouteMethod → String → Bool
  | .get, name => name == "GET" || name == "HEAD"
  | .post, name => name == "POST"

end QueryGateway
