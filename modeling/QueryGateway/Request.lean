import QueryGateway.Json.Record
import QueryGateway.Json.Printer
import QueryGateway.Digest.Sha256

/-!
# Table requests

A request reads rows of one table.  It names the columns to return, conditions on columns, an order
and a window of rows.  A column may have up to five conditions, one for each comparison.

## Main definitions

* `Request`, `SortKey`, `Conditions`, `Comparison` — the parts.
* `Conditions.operands` — the conditions that are present, in the order of the comparisons.
* `Request.reader`, `Request.toJson` — the JSON form.
* `Request.hash` — a digest of the request that ignores the order of its filter.
-/

namespace QueryGateway

open Json

/-- A comparison of a column with a value. -/
inductive Comparison
  | eq
  | gt
  | ge
  | lt
  | le
  deriving DecidableEq, Repr

/-- The operator of a statement. -/
def Comparison.symbol : Comparison → String
  | .eq => "="
  | .gt => ">"
  | .ge => ">="
  | .lt => "<"
  | .le => "<="

/-- The conditions on one column. -/
structure Conditions where
  eq : Option Value := none
  gt : Option Value := none
  ge : Option Value := none
  lt : Option Value := none
  le : Option Value := none
  deriving DecidableEq

namespace Conditions

/-- The conditions that are present.  A comparison with null is none. -/
def operands (c : Conditions) : List (Comparison × Value) :=
  [(.eq, c.eq), (.gt, c.gt), (.ge, c.ge), (.lt, c.lt), (.le, c.le)].filterMap fun (op, value) =>
    match value with
    | some .null | none => none
    | some v => some (op, v)

/-- A member for each comparison; the dollar sign may be left out. -/
def spellings : List (List String) :=
  [["$eq", "eq"], ["$gt", "gt"], ["$gte", "gte"], ["$lt", "lt"], ["$lte", "lte"]]

/-- Conditions in JSON. -/
def reader : Reader Conditions := fun levels doc => do
  let (levels, fields) ← record spellings levels doc
  match ← fields.mapM (Field.withDefault none (Reader.nullable Reader.value) levels) with
  | [eq, gt, ge, lt, le] => some ⟨eq, gt, ge, lt, le⟩
  | _ => none

/-- The members of conditions in JSON; those that are absent are left out. -/
def toJson (c : Conditions) : Value :=
  .object
    ([("$eq", c.eq), ("$gt", c.gt), ("$gte", c.ge), ("$lt", c.lt), ("$lte", c.le)].filterMap
      fun (key, value) => value.map (key, ·))

end Conditions

/-- A column to order by, with a direction as the caller wrote it. -/
structure SortKey where
  field : String
  direction : String
  deriving DecidableEq, Repr

namespace SortKey

/-- A sort key in JSON. -/
def reader : Reader SortKey := fun levels doc => do
  let (levels, fields) ← record [["field"], ["direction"]] levels doc
  match fields with
  | [field, direction] =>
    return {
      field := ← field.required Reader.string levels
      direction := ← direction.withDefault "" Reader.string levels }
  | _ => none

/-- The JSON form of a sort key. -/
def toJson (k : SortKey) : Value :=
  .object [("field", .string k.field), ("direction", .string k.direction)]

end SortKey

/-- A request to read rows of one table.  The filter has each column once, in any order. -/
structure Request where
  schema : Option String := none
  limit : Int64 := 0
  offset : Int64 := 0
  countTotal : Bool := false
  orderBy : List SortKey := []
  filter : Keyed Conditions := []
  fields : List String := []
  deriving DecidableEq

namespace Request

/-- The schema, if one is given; the empty name is none. -/
def schemaName (r : Request) : Option String :=
  r.schema.filter (· ≠ "")

/-- A request in JSON; every field has a default. -/
def reader : Reader Request := fun levels doc => do
  let (levels, fields) ←
    record [["schema"], ["limit"], ["offset"], ["countTotal"], ["orderBy"], ["filter"], ["fields"]]
      levels doc
  match fields with
  | [schema, limit, offset, countTotal, orderBy, filter, fields] =>
    return {
      schema := ← schema.withDefault none (Reader.nullable Reader.string) levels
      limit := ← limit.withDefault 0 Reader.int64 levels
      offset := ← offset.withDefault 0 Reader.int64 levels
      countTotal := ← countTotal.withDefault false Reader.bool levels
      orderBy := ← orderBy.withDefault [] (Reader.list SortKey.reader) levels
      filter := ← filter.withDefault [] (Reader.map Conditions.reader) levels
      fields := ← fields.withDefault [] (Reader.list Reader.string) levels }
  | _ => none

/-- The request that bytes write in JSON. -/
def ofBytes? (bytes : Bytes) : Option Request :=
  (Document.ofBytes? bytes).bind (reader maxDepth)

/-- The JSON form of a request, with the filter in the order it has. -/
def toJson (r : Request) : Value :=
  .object
    ((r.schema.map fun s => ("schema", .string s)).toList ++
      [("limit", .ofInt64 r.limit), ("offset", .ofInt64 r.offset),
        ("countTotal", .bool r.countTotal),
        ("orderBy", .array (r.orderBy.map SortKey.toJson)),
        ("filter", .object (r.filter.mapValues Conditions.toJson)),
        ("fields", .array (r.fields.map .string))])

/-- The text that is digested: all fields in a fixed order, the filter as a list in ascending order
of its columns, and an absent schema as an empty one. -/
def canonical (r : Request) : Value :=
  .object [
    ("schema", .string (r.schema.getD "")), ("limit", .ofInt64 r.limit),
    ("offset", .ofInt64 r.offset), ("countTotal", .bool r.countTotal),
    ("orderBy", .array (r.orderBy.map SortKey.toJson)),
    ("filter", .array (r.filter.sort.map fun (key, conditions) =>
      .object [("key", .string key), ("value", conditions.toJson)])),
    ("fields", .array (r.fields.map .string))]

/-- The bytes that are digested. -/
def canonicalBytes (r : Request) : Bytes := r.canonical.bytes

/-- The digest of a request, in hexadecimal. -/
def hash (r : Request) : String := Hex.encode (Sha256.digest r.canonicalBytes)

end Request

end QueryGateway
