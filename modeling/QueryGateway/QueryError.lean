import QueryGateway.Failure

/-!
# Errors of a query

## Main definitions

* `Interruption` — why a wait ended early.
* `QueryError` — the causes; `QueryError.message`, `QueryError.failure` and `QueryError.retryable`
  say how each is shown and whether another attempt may succeed.
-/

namespace QueryGateway

open Json

/-- Why a wait ended early. -/
inductive Interruption
  | deadlineExceeded
  | cancelled
  deriving DecidableEq, Repr

/-- The wording of an interruption. -/
def Interruption.message : Interruption → String
  | .deadlineExceeded => "deadline exceeded"
  | .cancelled => "operation cancelled"

/-- Why a query did not give rows. -/
inductive QueryError
  | invalidTable
  | invalidSchema
  | invalidColumn (column : String)
  | invalidInput (reason : String)
  | columnBlocked (column : String)
  | dataSourceNotFound (name : String)
  | unsupportedType (kind : String)
  | connectionFailed (reason : String)
  | queryFailed (reason : String) (detail : Option String)
  /-- The database refuses the statement itself. -/
  | statementRejected (reason : String)
  | timeout (ms : UInt64)
  | cancelled
  | internal (reason : String)
  deriving DecidableEq

namespace QueryError

/-- The error of an interrupted query. -/
def ofInterruption (reason : Interruption) (ms : UInt64) : QueryError :=
  match reason with
  | .deadlineExceeded => .timeout ms
  | .cancelled => .cancelled

/-- The wording of an error. -/
def message : QueryError → String
  | .invalidTable => "invalid table name"
  | .invalidSchema => "invalid schema name"
  | .invalidColumn column => "invalid column name: " ++ column
  | .invalidInput reason => "invalid input: " ++ reason
  | .columnBlocked column => "column blocked: " ++ column
  | .dataSourceNotFound name => "datasource not found: " ++ name
  | .unsupportedType kind =>
    "unsupported datasource type: " ++ kind ++ " (only postgres is supported)"
  | .connectionFailed reason => "connection failed: " ++ reason
  | .queryFailed reason _ => "query failed: " ++ reason
  | .statementRejected reason => "query rejected: " ++ reason
  | .timeout ms => "query timeout after " ++ toString ms ++ "ms"
  | .cancelled => "query cancelled"
  | .internal reason => "internal error: " ++ reason

/-- The code of an error. -/
def code : QueryError → ErrorCode
  | .invalidTable => .invalidTable
  | .invalidSchema => .invalidSchema
  | .invalidColumn _ | .invalidInput _ => .invalidInput
  | .columnBlocked _ => .columnBlocked
  | .dataSourceNotFound _ => .dataSourceNotFound
  | .unsupportedType _ => .unsupportedType
  | .connectionFailed _ | .queryFailed _ _ | .statementRejected _ | .timeout _ | .cancelled =>
    .queryFailed
  | .internal _ => .internalError

/-- Whether the same query may succeed later. -/
def retryable : QueryError → Bool
  | .connectionFailed _ | .queryFailed _ _ | .timeout _ | .cancelled => true
  | _ => false

/-- The detail that an error carries, with its name. -/
def detail? : QueryError → Option (String × Value)
  | .invalidColumn column | .columnBlocked column => some ("column", .string column)
  | .dataSourceNotFound name => some ("dataSource", .string name)
  | .queryFailed _ (some detail) => some ("detail", .string detail)
  | .timeout ms => some ("timeoutMs", .ofUInt64 ms)
  | _ => none

/-- The error as a caller sees it. -/
def failure (e : QueryError) : Failure :=
  let plain : Failure := { code := e.code, message := e.message }
  match e.detail? with
  | some (key, value) => plain.withDetail key value
  | none => plain

end QueryError

end QueryGateway
