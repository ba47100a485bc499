import QueryGateway.Postgres.Column
import QueryGateway.Postgres.Parameter
import QueryGateway.Source

/-!
# Sessions with the database server

Each data source has a pool of sessions.  A query takes an idle session, or a new one, and gives it
back when the server has answered.  A query that is interrupted while it has a session asks the
server to cancel the statement and gives the session up, so that no other query can meet the rest of
its answer.

## Main definitions

* `SslMode`, `SslMode.ofText` — whether the connection is encrypted.
* `ServerError` — an error that the server reports, and what it means for the query.
* `Course` — what happens to a query from outside.
* `Pool`, `Pool.connect`, `Pool.query` — the sessions of a data source.
-/

namespace QueryGateway.Postgres

open Json

/-- Whether a connection is encrypted. -/
inductive SslMode
  | disable
  /-- If the server can. -/
  | prefer
  | require
  deriving DecidableEq, Repr

/-- The mode that a setting names. -/
def SslMode.ofText (setting : String) : Except QueryError SslMode :=
  match Text.asciiLower setting with
  | "" | "disable" => .ok .disable
  | "allow" | "prefer" => .ok .prefer
  | "require" | "verify-ca" | "verify-full" => .ok .require
  | other => .error (.connectionFailed ("unsupported sslMode: " ++ other))

/-- An error that the server reports. -/
structure ServerError where
  code : String
  message : String
  detail : Option String := none
  deriving DecidableEq, Repr

namespace ServerError

/-- Whether the statement itself is at fault: its data (class 22) or its wording (class 42). -/
def blamesStatement (e : ServerError) : Bool :=
  let start := e.code.toList.take 2
  start == ['2', '2'] || start == ['4', '2']

/-- The error of a query that the server answers with this error. -/
def queryError (e : ServerError) : QueryError :=
  if e.blamesStatement then .statementRejected e.message else .queryFailed e.message e.detail

end ServerError

/-- The columns and rows of an answer. -/
structure Table where
  columns : List (String × SqlType) := []
  rows : List (List (Option Bytes)) := []
  deriving DecidableEq

/-- What becomes of a statement that runs. -/
inductive Execution
  | answered (table : Table)
  | failed (e : ServerError)
  /-- The connection breaks. -/
  | lost
  deriving DecidableEq

/-- What the server makes of a statement. -/
inductive Answer
  /-- It does not accept the statement. -/
  | refused (e : ServerError)
  /-- It names the types of the slots, and the statement may run. -/
  | prepared (types : List SqlType) (execution : Execution)
  /-- The connection is broken before it has the statement. -/
  | unreached
  deriving DecidableEq

/-- Why a session cannot be opened. -/
inductive Refusal
  | unreachable (reason : String)
  /-- Encryption is required; sessions are never encrypted. -/
  | noEncryption
  deriving DecidableEq, Repr

/-- The wording of a refusal, as the pool reports it. -/
def Refusal.message (refusal : Refusal) : String :=
  "Error occurred while creating a new object: " ++ match refusal with
    | .unreachable reason => reason
    | .noEncryption => "error performing TLS handshake"

/-- What happens to a query from outside. -/
inductive Course
  /-- It is interrupted before it has a session. -/
  | waiting (reason : Interruption)
  /-- No session is idle, and none can be opened for it. -/
  | unopened (refusal : Refusal)
  /-- It is interrupted while its statement is prepared. -/
  | preparing (reason : Interruption)
  /-- It is interrupted while its statement runs. -/
  | running (types : List SqlType) (reason : Interruption)
  | finished (answer : Answer)
  deriving DecidableEq

/-- What the server sees of a session. -/
inductive SessionEvent
  | opened (session : Nat)
  /-- A statement is refused when it is prepared. -/
  | refused (session : Nat) (sql : String)
  | ran (session : Nat) (sql : String) (params : List (SqlType × Parameter))
  | cancelRequested (session : Nat)
  deriving DecidableEq

/-- The name under which sessions are opened. -/
def applicationName : String := "qgate"

/-- The settings that a new session tells the server. -/
def sessionSettings (c : Connection) : Keyed String :=
  [("application_name", applicationName), ("client_encoding", "UTF8"), ("database", c.database),
    ("user", c.user)]

/-- The sessions of a data source. -/
structure Pool where
  /-- The sessions that wait for a query. -/
  idle : List Nat := []
  /-- How many sessions were opened; they are numbered from zero. -/
  opened : Nat := 0
  isClosed : Bool := false
  deriving DecidableEq

/-- Converts the values of a statement for its slots. -/
def bindAll (types : List SqlType) (params : List Value) :
    Except QueryError (List (SqlType × Parameter)) :=
  if types.length = params.length then
    (types.zip params).mapM fun (type, v) => (Parameter.bind v type).map fun p => (type, p)
  else
    .error (.internal ("statement expects " ++ toString types.length ++ " parameters, got " ++
      toString params.length))

/-- The wording of a broken connection. -/
def brokenMessage : String := "connection closed"

namespace Pool

/-- The pool of a data source, with a first session that proves the settings; `unreachable` tells
why the server cannot be reached. -/
def connect (c : Connection) (unreachable : Option String) :
    Except QueryError (Pool × List SessionEvent) := do
  let mode ← SslMode.ofText c.sslMode
  let refusal? := match unreachable with
    | some reason => some (Refusal.unreachable reason)
    | none => if mode = SslMode.require then some Refusal.noEncryption else none
  match refusal? with
  | some refusal =>
    .error (.connectionFailed ("PostgreSQL connection failed: " ++ refusal.message))
  | none => .ok ({ idle := [0], opened := 1 }, [.opened 0])

/-- A session for a query, an idle one if there is any, and the pool without it. -/
def take (pool : Pool) : Nat × Pool × List SessionEvent :=
  match pool.idle with
  | session :: idle => (session, { pool with idle }, [])
  | [] => (pool.opened, { pool with opened := pool.opened + 1 }, [.opened pool.opened])

/-- The pool with a session given back; a closed pool gives it up. -/
def giveBack (pool : Pool) (session : Nat) : Pool :=
  if pool.isClosed then pool else { pool with idle := pool.idle ++ [session] }

/-- The error of a query for which there is no session. -/
def unavailable (reason : String) : QueryError :=
  .connectionFailed ("no PostgreSQL session available: " ++ reason)

/-- Runs a statement in a session: what the server sees, whether the session may be used again, and
the result. -/
def run (session : Nat) (sql : String) (params : List Value) :
    Course → List SessionEvent × Bool × Except QueryError (List Row)
  | .waiting reason => ([], true, .error (.ofInterruption reason 0))
  | .unopened refusal => ([], true, .error (unavailable refusal.message))
  | .preparing reason => ([.cancelRequested session], false, .error (.ofInterruption reason 0))
  | .running types reason =>
    match bindAll types params with
    | .error e => ([], true, .error e)
    | .ok bound =>
      ([.ran session sql bound, .cancelRequested session], false,
        .error (.ofInterruption reason 0))
  | .finished (.refused e) => ([.refused session sql], true, .error e.queryError)
  | .finished .unreached => ([], false, .error (.connectionFailed brokenMessage))
  | .finished (.prepared types execution) =>
    match bindAll types params with
    | .error e => ([], true, .error e)
    | .ok bound =>
      let (usable, result) := match execution with
        | .answered table => (true, .ok (table.rows.map (readRow table.columns)))
        | .failed e => (true, .error e.queryError)
        | .lost => (false, .error (.connectionFailed brokenMessage))
      ([.ran session sql bound], usable, result)

/-- Runs a query that takes the given course. -/
def query (pool : Pool) (sql : String) (params : List Value) (course : Course) :
    Pool × List SessionEvent × Except QueryError (List Row) :=
  match course with
  | .waiting reason => (pool, [], .error (.ofInterruption reason 0))
  | course =>
    if pool.isClosed then (pool, [], .error (unavailable "Pool has been closed"))
    else match course with
      | .unopened refusal => (pool, [], .error (unavailable refusal.message))
      | course =>
        let (session, pool, opening) := pool.take
        let (events, usable, result) := run session sql params course
        (if usable then pool.giveBack session else pool, opening ++ events, result)

/-- Closes the pool; what is idle is given up. -/
def close (pool : Pool) : Pool := { pool with idle := [], isClosed := true }

end Pool

end QueryGateway.Postgres
