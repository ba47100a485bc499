import QueryGateway.Job.Store
import QueryGateway.Postgres.Session

/-!
# Jobs in a database table

Job records may be kept in a table.  Each operation is one statement: a change names the columns that
it touches, numbers its parameters in order and ends with the id, and reads the changed row back.

## Main definitions

* `JobTable.createTable`, `JobTable.createIndex` — what the table looks like.
* `JobTable.insert`, `JobTable.update`, `JobTable.select`, `JobTable.selectByHash` — the statements.
* `JobTable.readJob` — the record in a row.
* `JobTable.inserted`, `JobTable.updated`, `JobTable.found` — what the server's answers mean.
-/

namespace QueryGateway.JobTable

open Postgres

/-- Creates the table. -/
def createTable : String :=
  "\nCREATE TABLE IF NOT EXISTS query_jobs (\n    id TEXT PRIMARY KEY,\n" ++
  "    payload_hash TEXT NOT NULL,\n    api_key TEXT,\n    data_source TEXT NOT NULL,\n" ++
  "    table_name TEXT NOT NULL,\n    status TEXT NOT NULL,\n    row_count BIGINT,\n" ++
  "    took_ms BIGINT,\n    error TEXT,\n    created_at TIMESTAMPTZ NOT NULL,\n" ++
  "    started_at TIMESTAMPTZ,\n    finished_at TIMESTAMPTZ\n)"

/-- Creates the index for the jobs of one request. -/
def createIndex : String :=
  "CREATE INDEX IF NOT EXISTS idx_query_jobs_payload_hash ON query_jobs (payload_hash)"

/-- The types of the columns. -/
inductive ColumnType
  | text
  | bigint
  | timestamptz
  deriving DecidableEq, Repr

/-- The type of the database that columns of a type have. -/
def ColumnType.sqlType : ColumnType → SqlType
  | .text => ⟨25, "text"⟩
  | .bigint => ⟨20, "int8"⟩
  | .timestamptz => ⟨1184, "timestamptz"⟩

/-- The columns in order, with their types. -/
def columns : List (String × ColumnType) :=
  [("id", .text), ("payload_hash", .text), ("api_key", .text), ("data_source", .text),
    ("table_name", .text), ("status", .text), ("row_count", .bigint), ("took_ms", .bigint),
    ("error", .text), ("created_at", .timestamptz), ("started_at", .timestamptz),
    ("finished_at", .timestamptz)]

/-- The names of the columns in order. -/
def columnList : String := ", ".intercalate (columns.map Prod.fst)

/-- A value for a column, or null. -/
inductive Field
  | text (s : Option String)
  | bigint (n : Option Int64)
  | timestamptz (t : Option Instant)
  deriving DecidableEq

namespace Field

/-- Whether a value can be sent for a slot of a type. -/
def fits (type : SqlType) : Field → Bool
  | text _ => Column.isText type
  | bigint _ => type.oid == 20
  | timestamptz _ => type.oid == 1184

/-- A value as a parameter of a statement. -/
def parameter : Field → Parameter
  | text s => (s.map .text).getD .null
  | bigint n => (n.map .int8).getD .null
  | timestamptz t => (t.map .timestamptz).getD .null

/-- The type of column that a value is for. -/
def columnType : Field → ColumnType
  | text _ => .text
  | bigint _ => .bigint
  | timestamptz _ => .timestamptz

end Field

/-- A statement with its parameters. -/
structure Statement where
  sql : String
  params : List Field
  deriving DecidableEq

/-- The fields of a record in the order of the columns. -/
def fields (job : Job) : List Field :=
  [.text (some job.id), .text (some job.payloadHash), .text job.apiKey, .text (some job.dataSource),
    .text (some job.table), .text (some job.status.text), .bigint job.rows, .bigint job.tookMs,
    .text job.error, .timestamptz (some job.createdAt), .timestamptz job.startedAt,
    .timestamptz job.finishedAt]

/-- The mark of the parameter with a number. -/
def mark (k : Nat) : String := "$" ++ toString k

/-- Adds a record. -/
def insert (job : Job) : Statement :=
  ⟨"INSERT INTO query_jobs (" ++ columnList ++ ") VALUES (" ++
    ", ".intercalate ((List.range columns.length).map fun k => mark (k + 1)) ++ ")", fields job⟩

/-- A column that a change touches: it is given a value, or cleared. -/
structure Assignment where
  column : String
  value : Option Field
  deriving DecidableEq

/-- The assignment that a patch makes, if it makes one. -/
def assignment {α : Type} (column : String) (field : α → Field) : Patch α → List Assignment
  | .keep => []
  | .clear => [⟨column, none⟩]
  | .set value => [⟨column, some (field value)⟩]

/-- The assignments that a change makes. -/
def assignments (u : JobUpdate) : List Assignment :=
  ⟨"status", some (.text (some u.status.text))⟩ ::
    (assignment "row_count" (fun n => .bigint (some n)) u.rows ++
      assignment "took_ms" (fun n => .bigint (some n)) u.tookMs ++
      assignment "error" (fun s => .text (some s)) u.error ++
      assignment "started_at" (fun t => .timestamptz (some t)) u.startedAt ++
      assignment "finished_at" (fun t => .timestamptz (some t)) u.finishedAt)

/-- The texts of assignments whose parameters are numbered after `k` others. -/
def assignmentTexts : Nat → List Assignment → List String
  | _, [] => []
  | k, ⟨column, none⟩ :: rest => (column ++ " = NULL") :: assignmentTexts k rest
  | k, ⟨column, some _⟩ :: rest =>
    (column ++ " = " ++ mark (k + 1)) :: assignmentTexts (k + 1) rest

/-- Changes the record with an id and reads it back. -/
def update (id : String) (u : JobUpdate) : Statement :=
  let changes := assignments u
  let values := changes.filterMap Assignment.value
  ⟨"UPDATE query_jobs SET " ++ ", ".intercalate (assignmentTexts 0 changes) ++ " WHERE id = " ++
    mark (values.length + 1) ++ " RETURNING " ++ columnList, values ++ [.text (some id)]⟩

/-- Reads the record with an id. -/
def select (id : String) : Statement :=
  ⟨"SELECT " ++ columnList ++ " FROM query_jobs WHERE id = $1", [.text (some id)]⟩

/-- Reads the records of a request, oldest first. -/
def selectByHash (hash : String) : Statement :=
  ⟨"SELECT " ++ columnList ++ " FROM query_jobs WHERE payload_hash = $1 ORDER BY created_at, id",
    [.text (some hash)]⟩

/-- The place of a column: that of its name, or else of its name in another case. -/
def place? (names : List String) (name : String) : Option Nat :=
  names.findIdx? (· == name) <|> names.findIdx? (Text.equalsIgnoringCase · name)

/-- How the values of a column are read. -/
structure Form (α : Type) where
  /-- The types that columns of the form may have. -/
  accepts : SqlType → Bool
  read : SqlType → Bytes → Option α

/-- Texts. -/
def textForm : Form String := ⟨Column.isText, Column.text?⟩

/-- Whole numbers of eight bytes. -/
def bigintForm : Form Int64 :=
  ⟨fun type => type.oid == 20, fun _ bytes => (Column.int? 8 bytes).map .ofInt⟩

/-- Instants. -/
def timestamptzForm : Form Instant :=
  ⟨fun type => type.oid == 1184, fun _ bytes => Column.timestamp? bytes⟩

/-- A row of an answer. -/
abbrev TableRow := List ((String × SqlType) × Option Bytes)

/-- The place and the content of a column. -/
def cellAt (row : TableRow) (name : String) : Except JobError (Nat × SqlType × Option Bytes) :=
  let found := do
    let k ← place? (row.map fun cell => cell.1.1) name
    let ((_, type), bytes) ← row[k]?
    return (k, type, bytes)
  match found with
  | some cell => .ok cell
  | none => .error (.storage ("invalid column \x60" ++ name ++ "\x60"))

/-- Reads a column that may be null. -/
def optional {α : Type} (form : Form α) (row : TableRow) (name : String) :
    Except JobError (Option α) := do
  let (k, type, bytes) ← cellAt row name
  let unread : JobError := .storage ("error deserializing column " ++ toString k)
  if !form.accepts type then .error unread
  else
    match bytes with
    | none => .ok none
    | some bytes =>
      match form.read type bytes with
      | some value => .ok (some value)
      | none => .error unread

/-- Reads a column that is not null. -/
def required {α : Type} (form : Form α) (row : TableRow) (name : String) : Except JobError α := do
  let (k, _, _) ← cellAt row name
  match ← optional form row name with
  | some value => .ok value
  | none => .error (.storage ("error deserializing column " ++ toString k))

/-- The record in a row. -/
def readJob (row : TableRow) : Except JobError Job := do
  let status ← required textForm row "status"
  return {
    id := ← required textForm row "id"
    payloadHash := ← required textForm row "payload_hash"
    apiKey := ← optional textForm row "api_key"
    dataSource := ← required textForm row "data_source"
    table := ← required textForm row "table_name"
    status := ← JobStatus.ofText status
    rows := ← optional bigintForm row "row_count"
    tookMs := ← optional bigintForm row "took_ms"
    error := ← optional textForm row "error"
    createdAt := ← required timestamptzForm row "created_at"
    startedAt := ← optional timestamptzForm row "started_at"
    finishedAt := ← optional timestamptzForm row "finished_at" }

/-- The columns of each row of an answer with their contents. -/
def tableRows (table : Table) : List TableRow := table.rows.map fun row => table.columns.zip row

/-- Why a statement has no answer. -/
inductive Fault
  /-- The server reports an error. -/
  | server (e : ServerError)
  | lost
  | parameterCount (expected given : Nat)
  /-- A value does not fit its slot. -/
  | parameter (index : Nat)
  deriving DecidableEq

/-- The wording of a fault. -/
def Fault.message : Fault → String
  | .server _ => "db error"
  | .lost => brokenMessage
  | .parameterCount expected given =>
    "expected " ++ toString expected ++ " parameters but got " ++ toString given
  | .parameter index => "error serializing parameter " ++ toString index

/-- The parameters of a statement for slots of the given types. -/
def Statement.bound (s : Statement) (types : List SqlType) :
    Except Fault (List (SqlType × Parameter)) :=
  if types.length ≠ s.params.length then .error (.parameterCount types.length s.params.length)
  else
    match (types.zip s.params).findIdx? fun (type, field) => !field.fits type with
    | some index => .error (.parameter index)
    | none => .ok (types.zip (s.params.map Field.parameter))

/-- The rows that the server answers a statement with. -/
def Statement.rows (s : Statement) : Answer → Except Fault (List TableRow)
  | .refused e => .error (.server e)
  | .unreached => .error .lost
  | .prepared types execution => do
    let _ ← s.bound types
    match execution with
    | .answered table => .ok (tableRows table)
    | .failed e => .error (.server e)
    | .lost => .error .lost

/-- The only row of an answer, if it has one. -/
def single (rows : List TableRow) : Except JobError (Option TableRow) :=
  match rows with
  | [] => .ok none
  | [row] => .ok (some row)
  | _ => .error (.storage "query returned an unexpected number of rows")

/-- What an answer to a statement means, given what its rows mean. -/
def Statement.outcome {α : Type} (s : Statement) (answer : Answer)
    (meaning : List TableRow → Except JobError α) : Except JobError α :=
  match s.rows answer with
  | .ok rows => meaning rows
  | .error fault => .error (.storage fault.message)

/-- What the answer to adding a record means. -/
def inserted (job : Job) (answer : Answer) : Except JobError Unit :=
  match (insert job).rows answer with
  | .ok _ => .ok ()
  | .error (.server e) =>
    -- Class 23 505: the key exists.
    .error (if e.code = "23505" then .alreadyExists job.id else .storage (Fault.server e).message)
  | .error fault => .error (.storage fault.message)

/-- What the answer to changing a record means. -/
def updated (id : String) (u : JobUpdate) (answer : Answer) : Except JobError Job :=
  (update id u).outcome answer fun rows => do
    match ← single rows with
    | some row => readJob row
    | none => .error (.notFound id)

/-- What the answer to reading a record means. -/
def found (id : String) (answer : Answer) : Except JobError (Option Job) :=
  (select id).outcome answer fun rows => do (← single rows).mapM readJob

/-- What the answer to reading the records of a request means. -/
def foundByHash (hash : String) (answer : Answer) : Except JobError (List Job) :=
  (selectByHash hash).outcome answer fun rows => rows.mapM readJob

end QueryGateway.JobTable
