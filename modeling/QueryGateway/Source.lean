import QueryGateway.Cell
import QueryGateway.Json.Record
import QueryGateway.Text.Case
import QueryGateway.Text.Quoted

/-!
# Data sources

A data source is a named database with its connection settings, limits and a list of blocked
columns.  An entry of that list has the form `table.column`.  Two rules read it: a column that a
request names is compared with whole entries by their full lower-case form, while rows are scrubbed
by the two parts of an entry, split at its first dot and compared in ASCII.

## Main definitions

* `Connection`, `Capabilities`, `Limits`, `Source` — the parts of a data source.
* `Source.reader`, `Source.toJson` — the JSON form; passwords are never written.
* `Source.isBlocked`, `Source.blockedColumns`, `Source.scrub` — the rules of the blocklist.
-/

namespace QueryGateway

open Json

/-- How a database is reached. -/
structure Connection where
  host : String := "localhost"
  port : UInt16 := 5432
  user : String := ""
  password : String := ""
  database : String := ""
  sslMode : String := "disable"
  /-- The greatest number of sessions. -/
  maxConnections : UInt64 := 10
  deriving DecidableEq

/-- What a database is said to support; nothing depends on it. -/
structure Capabilities where
  supportsJoins : Bool := false
  supportsTransactions : Bool := false
  maxDepthLimit : Int64 := 0
  deriving DecidableEq

/-- Limits of a data source; zero stands for the general limit. -/
structure Limits where
  maxRows : Int64 := 0
  queryTimeoutMs : UInt64 := 0
  deriving DecidableEq

/-- A data source. -/
structure Source where
  name : String
  kind : String
  description : String := ""
  connection : Connection := {}
  capabilities : Capabilities := {}
  limits : Limits := {}
  /-- Entries of the form `table.column`. -/
  blocklist : List String := []
  deriving DecidableEq

namespace Connection

/-- The spellings of the settings. -/
def spellings : List (List String) :=
  [["host"], ["port"], ["user"], ["password"], ["database"], ["sslMode"], ["maxConnections"]]

/-- Connection settings in JSON; every setting has a default. -/
def reader : Reader Connection := fun levels doc => do
  let (levels, fields) ← record spellings levels doc
  match fields with
  | [host, port, user, password, database, sslMode, maxConnections] =>
    return {
      host := ← host.withDefault "localhost" Reader.string levels
      port := ← port.withDefault 5432 Reader.uint16 levels
      user := ← user.withDefault "" Reader.string levels
      password := ← password.withDefault "" Reader.string levels
      database := ← database.withDefault "" Reader.string levels
      sslMode := ← sslMode.withDefault "disable" Reader.string levels
      maxConnections := ← maxConnections.withDefault 10 Reader.uint64 levels }
  | _ => none

/-- The JSON form, without the password. -/
def toJson (c : Connection) : Value :=
  .object [
    ("host", .string c.host), ("port", .ofUInt64 c.port.toUInt64), ("user", .string c.user),
    ("database", .string c.database), ("sslMode", .string c.sslMode),
    ("maxConnections", .ofUInt64 c.maxConnections)]

/-- The settings shown for diagnosis, with the password hidden. -/
def debug (c : Connection) : String :=
  "ConnectionSettings \x7b host: " ++ Text.quoted c.host ++ ", port: " ++ toString c.port ++
    ", user: " ++ Text.quoted c.user ++ ", password: \"<redacted>\", database: " ++
    Text.quoted c.database ++ ", ssl_mode: " ++ Text.quoted c.sslMode ++
    ", max_connections: " ++ toString c.maxConnections ++ " \x7d"

end Connection

namespace Capabilities

/-- Capabilities in JSON; every one has a default. -/
def reader : Reader Capabilities := fun levels doc => do
  let (levels, fields) ←
    record [["supportsJoins"], ["supportsTransactions"], ["maxDepthLimit"]] levels doc
  match fields with
  | [joins, transactions, depth] =>
    return {
      supportsJoins := ← joins.withDefault false Reader.bool levels
      supportsTransactions := ← transactions.withDefault false Reader.bool levels
      maxDepthLimit := ← depth.withDefault 0 Reader.int64 levels }
  | _ => none

/-- The JSON form. -/
def toJson (c : Capabilities) : Value :=
  .object [
    ("supportsJoins", .bool c.supportsJoins),
    ("supportsTransactions", .bool c.supportsTransactions),
    ("maxDepthLimit", .ofInt64 c.maxDepthLimit)]

end Capabilities

namespace Limits

/-- Limits in JSON; every one has a default. -/
def reader : Reader Limits := fun levels doc => do
  let (levels, fields) ← record [["maxRows"], ["queryTimeoutMs"]] levels doc
  match fields with
  | [maxRows, queryTimeoutMs] =>
    return {
      maxRows := ← maxRows.withDefault 0 Reader.int64 levels
      queryTimeoutMs := ← queryTimeoutMs.withDefault 0 Reader.uint64 levels }
  | _ => none

/-- The JSON form. -/
def toJson (l : Limits) : Value :=
  .object [("maxRows", .ofInt64 l.maxRows), ("queryTimeoutMs", .ofUInt64 l.queryTimeoutMs)]

end Limits

namespace Source

/-- The spellings of the fields. -/
def spellings : List (List String) :=
  [["name"], ["type"], ["description"], ["connection"], ["capabilities"], ["limits"],
    ["blockedColumns"]]

/-- A data source in JSON. -/
def reader : Reader Source := fun levels doc => do
  let (levels, fields) ← record spellings levels doc
  match fields with
  | [name, kind, description, connection, capabilities, limits, blocklist] =>
    return {
      name := ← name.required Reader.string levels
      kind := ← kind.required Reader.string levels
      description := ← description.withDefault "" Reader.string levels
      connection := ← connection.withDefault {} Connection.reader levels
      capabilities := ← capabilities.withDefault {} Capabilities.reader levels
      limits := ← limits.withDefault {} Limits.reader levels
      blocklist := ← blocklist.withDefault [] (Reader.list Reader.string) levels }
  | _ => none

/-- The data source that bytes write in JSON. -/
def ofBytes? (bytes : Bytes) : Option Source :=
  (Document.ofBytes? bytes).bind (reader maxDepth)

/-- The JSON form, without the password. -/
def toJson (s : Source) : Value :=
  .object [
    ("name", .string s.name), ("type", .string s.kind), ("description", .string s.description),
    ("connection", s.connection.toJson), ("capabilities", s.capabilities.toJson),
    ("limits", s.limits.toJson), ("blockedColumns", .array (s.blocklist.map .string))]

/-- What callers may see of a data source. -/
def summary (s : Source) : Value :=
  .object [
    ("name", .string s.name), ("type", .string s.kind), ("description", .string s.description)]

/-- Whether the data source is of the one kind that can be queried. -/
def isPostgres (s : Source) : Bool := s.kind == "postgres"

/-- Whether a request may not name a column of a table: its qualified name equals an entry of the
blocklist in full lower case. -/
def isBlocked (s : Source) (table column : String) : Bool :=
  s.blocklist.any fun entry => Text.lower entry == Text.lower (table ++ "." ++ column)

/-- The parts of an entry around its first dot. -/
def splitEntry (entry : String) : Option (String × String) :=
  match entry.toList.span (· ≠ '.') with
  | (table, '.' :: column) => some (String.ofList table, String.ofList column)
  | _ => none

/-- The columns that are scrubbed from the rows of a table, in the order of the blocklist. -/
def blockedColumns (s : Source) (table : String) : List String :=
  s.blocklist.filterMap fun entry =>
    (splitEntry entry).bind fun (entryTable, column) =>
      if Text.equalsIgnoringCase entryTable table then some column else none

/-- A row of a table without its blocked columns. -/
def scrub {α : Type} (s : Source) (table : String) (row : Keyed α) : Keyed α :=
  row.filter fun (column, _) =>
    !(s.blockedColumns table).any fun blocked => Text.equalsIgnoringCase blocked column

end Source

end QueryGateway
