import QueryGateway.Json.Access
import QueryGateway.Scripted.Databases

/-!
# Scripts

A script for the databases is written in JSON: errors as an object of their kind and its arguments,
cells as an object of their type and content, rows as objects of cells, bytes as a text or as an
object with hex digits.

## Main definitions

* `QueryError.kind` — the names of the kinds of errors.
* `Script.error`, `Script.cell`, `Script.reply`, `Script.connect` — the parts of a script.
* `Script.databases` — databases with their sources and their script.
* `DatabaseEvent.toJson` — what the databases saw.
-/

namespace QueryGateway

open Json

/-- The name of the kind of an error. -/
def QueryError.kind : QueryError → String
  | .invalidTable => "InvalidTable"
  | .invalidSchema => "InvalidSchema"
  | .invalidColumn _ => "InvalidColumn"
  | .invalidInput _ => "InvalidInput"
  | .columnBlocked _ => "ColumnBlocked"
  | .dataSourceNotFound _ => "DataSourceNotFound"
  | .unsupportedType _ => "UnsupportedType"
  | .connectionFailed _ => "ConnectionFailed"
  | .queryFailed _ _ => "QueryFailed"
  | .statementRejected _ => "StatementRejected"
  | .timeout _ => "QueryTimeout"
  | .cancelled => "Cancelled"
  | .internal _ => "Internal"

/-- What the databases saw, in JSON. -/
def DatabaseEvent.toJson : DatabaseEvent → Value
  | .connected source kind => .object [("connect", .string source), ("backend", .string kind)]
  | .queried c sql params =>
    .object [
      ("connector", .ofInt64 (.ofNat c)), ("sql", .string sql),
      ("params", .array (params.map fun p => .string p.text))]
  | .closed c => .object [("close", .ofInt64 (.ofNat c))]

namespace Script

/-- A byte string. -/
def bytes : Value → Bytes
  | .string text => Utf8.encode text
  | v => (Hex.decode? (v.stringAt "hex")).getD []

/-- A byte string as it is written. -/
def ofBytes (b : Bytes) : Value :=
  match Utf8.decode? b with
  | some text => .string text
  | none => .object [("hex", .string (Hex.encode b))]

/-- An error with its arguments, tried in the order of the kinds. -/
def errors (v : Value) : List QueryError :=
  let arg := v.stringAt "arg"
  [.invalidTable, .invalidSchema, .invalidColumn arg, .invalidInput arg, .columnBlocked arg,
    .dataSourceNotFound arg, .unsupportedType arg, .connectionFailed arg,
    .queryFailed arg (v.stringAt? "detail"), .statementRejected arg,
    .timeout (.ofNat (v.natAt "ms")), .cancelled]

/-- An error; one of no other kind is internal. -/
def error (v : Value) : QueryError :=
  ((errors v).find? fun e => e.kind = v.stringAt "kind").getD (.internal (v.stringAt "arg"))

/-- The error at a key. -/
def errorAt? (key : String) (v : Value) : Option QueryError := (v.get? key).map error

/-- A double, given as a number or by its name. -/
def double : Value → Binary64
  | .number (.float x _) => x
  | .number (.whole n _) => .ofInt n
  | .string "inf" => .infinity false
  | .string "-inf" => .infinity true
  | .string "-NaN" => Binary64.nan.neg
  | _ => .nan

/-- An instant, given by its seconds and nanoseconds since 1970. -/
def instant (v : Value) : Instant :=
  match v.items with
  | [seconds, nanos] =>
    (Instant.ofUnix? (seconds.int?.getD 0) (nanos.int?.getD 0).toNat).getD .epoch
  | _ => .epoch

/-- A cell. -/
def cell (v : Value) : Cell :=
  let content := v.member "v"
  match v.stringAt "t" with
  | "bool" => .bool (content == .bool true)
  | "int" => .int (.ofInt (content.int?.getD 0))
  | "float" => .float (double content)
  | "text" => .text (content.string?.getD "")
  | "bytes" => .bytes (bytes content)
  | "uuid" => .uuid (bytes content)
  | "ts" => .timestamp (instant content)
  | "json" => .json content
  | _ => .null

/-- A row. -/
def row (v : Value) : Row := Keyed.sort (v.members.mapValues cell)

/-- What a statement meets. -/
def reply (v : Value) : ScriptedReply :=
  { result := match errorAt? "error" v with
      | some e => .error e
      | none => .ok ((v.itemsAt "rows").map row)
    delay := v.natAt? "delayMs"
    checks := v.flagAt "check"
    closes := v.flagAt "closes" }

/-- What a connection meets. -/
def connect (v : Value) : ScriptedConnect :=
  { error := errorAt? "error" v
    delay := v.natAt? "delayMs"
    closeFails := v.flagAt "closeFails" }

/-- A data source. -/
def source (v : Value) : Source := (Source.ofBytes? v.bytes).getD { name := "", kind := "" }

/-- Databases with their sources and their script. -/
def databases (v : Value) : Databases :=
  let empty : Databases :=
    { kinds := if v.has "backends" then v.stringsAt "backends" else ["postgres"]
      script := (v.itemsAt "script").map reply
      connects := (v.itemsAt "connects").map connect }
  (v.itemsAt "sources").foldl (fun db s => db.upsert (source s)) empty

/-- The query service. -/
def service (v : Value) : Service := ⟨.ofNat (v.natAt "defaultTimeoutMs" 4000)⟩

/-- A context as a step asks for it: cancelled from the start, or with little time left. -/
def context (v : Value) (m : Moment) : Context × Moment :=
  let (ctx, m) := Context.fresh m
  let m := if v.flagAt "cancelled" then ctx.cancel m else m
  match v.natAt? "ctxTimeoutMs" with
  | some ms => (ctx.timeout m ms, m)
  | none => (ctx, m)

end Script

end QueryGateway
