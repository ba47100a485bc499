import QueryGateway.Identifier
import QueryGateway.QueryError
import QueryGateway.Request
import QueryGateway.Source

/-!
# Statements

A request is compiled for a data source in two steps.  The plan holds what will be asked: columns,
predicates, an order and a window.  The statement is its text, in which every value is a numbered
parameter, and the list of the parameters.

Names in filters and orders that are no identifiers are dropped; one among the columns to return is
an error.  Columns on the blocklist are errors wherever they are named.

## Main definitions

* `Plan`, `Plan.ofRequest` — what a request asks for.
* `Compiled`, `Plan.compile` — the statements and their parameters.
* `compile` — both steps with all checks, in the order in which they fail.
-/

namespace QueryGateway

open Json

/-- The number of rows for a request that does not limit them. -/
def defaultLimit : Int64 := 100

/-- The greatest number of rows of any answer. -/
def maxLimit : Int64 := 500

/-- The limit of a request: its own if it is positive, at most the ceiling, which a data source may
lower. -/
def effectiveLimit (requested maxRows : Int64) : Int64 :=
  let limit := if 0 < requested then requested else defaultLimit
  let ceiling := if 0 < maxRows ∧ maxRows < maxLimit then maxRows else maxLimit
  if limit ≤ ceiling then limit else ceiling

/-- A table must be named by an identifier. -/
def checkTable (table : String) : Except QueryError Unit :=
  if isIdentifier table then .ok () else .error .invalidTable

/-- A schema must be named by an identifier, if it is named. -/
def checkSchema (schema : Option String) : Except QueryError Unit :=
  if schema.all isIdentifier then .ok () else .error .invalidSchema

/-- The checks of a table and its schema. -/
def checkTarget (table : String) (schema : Option String) : Except QueryError Unit := do
  checkTable table
  checkSchema schema

/-- What happens to a name that is no identifier. -/
inductive NameRule
  /-- It is dropped. -/
  | lenient
  /-- It is an error. -/
  | strict
  deriving DecidableEq, Repr

/-- Whether a column is kept under a rule. -/
def checkColumn (rule : NameRule) (column : String) : Except QueryError Bool :=
  if isIdentifier column then .ok true
  else
    match rule with
    | .lenient => .ok false
    | .strict => .error (.invalidColumn column)

/-- The direction of an order. -/
inductive Direction
  | ascending
  | descending
  deriving DecidableEq, Repr

/-- The keyword of a direction. -/
def Direction.keyword : Direction → String
  | .ascending => "ASC"
  | .descending => "DESC"

/-- The direction that a caller's text asks for; whatever is not `desc` ascends. -/
def Direction.ofText (text : String) : Direction :=
  if Text.equalsIgnoringCase text "desc" then .descending else .ascending

/-- A comparison of a column with a value. -/
structure Predicate where
  column : String
  comparison : Comparison
  value : Value
  deriving DecidableEq

/-- What a statement asks for. -/
structure Plan where
  schema : Option String
  table : String
  /-- The columns to return; none stands for all. -/
  columns : List String
  predicates : List Predicate
  order : List (String × Direction)
  limit : Int64
  offset : Int64
  /-- Whether the matching rows are counted by a second statement. -/
  counted : Bool
  deriving DecidableEq

namespace Plan

/-- The predicates of a filter: identifiers in ascending order, each with its operands. -/
def predicatesOf (filter : Keyed Conditions) : List Predicate :=
  (filter.sort.filter fun (column, _) => isIdentifier column).flatMap fun (column, conditions) =>
    conditions.operands.map fun (comparison, value) => ⟨column, comparison, value⟩

/-- The order of a request: those of its keys that are identifiers. -/
def orderOf (keys : List SortKey) : List (String × Direction) :=
  (keys.filter fun k => isIdentifier k.field).map fun k => (k.field, .ofText k.direction)

/-- What a request asks for under a limit on rows. -/
def ofRequest (table : String) (request : Request) (maxRows : Int64) : Plan where
  schema := request.schemaName
  table := table
  columns := request.fields
  predicates := predicatesOf request.filter
  order := orderOf request.orderBy
  limit := effectiveLimit request.limit maxRows
  offset := if request.offset < 0 then 0 else request.offset
  counted := request.countTotal

/-- The table with its schema. -/
def target (p : Plan) : String :=
  match p.schema with
  | some schema => quoteIdentifier schema ++ "." ++ quoteIdentifier p.table
  | none => quoteIdentifier p.table

/-- The columns to return. -/
def projection (p : Plan) : String :=
  if p.columns = [] then "*" else ", ".intercalate (p.columns.map quoteIdentifier)

/-- The placeholder of the parameter with a number. -/
def placeholder (n : Nat) : String := "$" ++ toString n

/-- A predicate, with the number of its parameter. -/
def predicateText (p : Predicate) (n : Nat) : String :=
  quoteIdentifier p.column ++ " " ++ p.comparison.symbol ++ " " ++ placeholder n

/-- The clauses that restrict the rows, if there are any. -/
def whereClause (p : Plan) : List String :=
  match p.predicates with
  | [] => []
  | predicates =>
    ["WHERE " ++ " AND ".intercalate (predicates.zipIdx.map fun (q, i) => predicateText q (i + 1))]

/-- The clause that orders the rows, if there is an order. -/
def orderClause (p : Plan) : List String :=
  match p.order with
  | [] => []
  | order =>
    ["ORDER BY " ++
      ", ".intercalate
        (order.map fun (column, direction) => quoteIdentifier column ++ " " ++ direction.keyword)]

/-- The clause that takes a window of the rows. -/
def windowClause (p : Plan) : String :=
  let n := p.predicates.length
  "LIMIT " ++ placeholder (n + 1) ++ " OFFSET " ++ placeholder (n + 2)

/-- The statement that returns rows. -/
def selectText (p : Plan) : String :=
  " ".intercalate
    (["SELECT " ++ p.projection ++ " FROM " ++ p.target] ++ p.whereClause ++ p.orderClause ++
      [p.windowClause])

/-- The statement that counts rows. -/
def countText (p : Plan) : String :=
  " ".intercalate (["SELECT COUNT(1) AS total FROM " ++ p.target] ++ p.whereClause)

/-- The parameters of the statement that returns rows: the values of the predicates in order, the
limit and the offset. -/
def params (p : Plan) : List Value :=
  p.predicates.map Predicate.value ++ [.ofInt64 p.limit, .ofInt64 p.offset]

end Plan

/-- The statements of a request and their parameters. -/
structure Compiled where
  target : String
  selectSql : String
  countSql : Option String
  /-- The limit and the offset are the last two. -/
  params : List Value
  limit : Int64
  offset : Int64
  deriving DecidableEq

/-- The parameters of the statement that counts: all but the last two. -/
def Compiled.countParams (c : Compiled) : List Value :=
  c.params.take (c.params.length - 2)

/-- The statements of a plan. -/
def Plan.compile (p : Plan) : Compiled where
  target := p.target
  selectSql := p.selectText
  countSql := if p.counted then some p.countText else none
  params := p.params
  limit := p.limit
  offset := p.offset

/-- A column must not be blocked. -/
def checkBlocked (source : Source) (table column : String) : Except QueryError Unit :=
  if source.isBlocked table column then .error (.columnBlocked column) else .ok ()

/-- The checks of all columns that a request names: those of the filter in ascending order, those
of the order, and those to return, which must also be identifiers. -/
def checkColumns (source : Source) (table : String) (request : Request) :
    Except QueryError Unit := do
  request.filter.sort.forM fun (column, _) => checkBlocked source table column
  request.orderBy.forM fun k => checkBlocked source table k.field
  request.fields.forM fun column => do
    let _ ← checkColumn .strict column
    checkBlocked source table column

/-- The statements of a request on a table of a data source. -/
def compile (table : String) (request : Request) (source : Source) :
    Except QueryError Compiled := do
  checkTarget table request.schemaName
  if !source.isPostgres then throw (.unsupportedType source.kind)
  checkColumns source table request
  return (Plan.ofRequest table request source.limits.maxRows).compile

end QueryGateway
