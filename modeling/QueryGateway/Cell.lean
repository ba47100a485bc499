import QueryGateway.Calendar.Instant
import QueryGateway.Json.Value
import QueryGateway.Keyed
import QueryGateway.Text.Utf8
import QueryGateway.Uuid

/-!
# Cells and rows

A cell is the value of a column as it was read.  Its JSON form loses the kind: times and UUIDs
become texts, sixteen bytes become a UUID, other bytes become text with replacements, and doubles
that are not finite become null.

## Main definitions

* `Cell`, `Row` — the types; `Cell.toJson` — the JSON form.
-/

namespace QueryGateway

open Json

/-- The value of a column. -/
inductive Cell
  | null
  | bool (b : Bool)
  | int (n : Int64)
  | float (x : Binary64)
  | text (s : String)
  | bytes (b : Bytes)
  /-- Sixteen bytes. -/
  | uuid (b : Bytes)
  | timestamp (t : Instant)
  | json (v : Value)
  deriving DecidableEq

/-- A row: the cells of its columns. -/
abbrev Row := Keyed Cell

namespace Cell

/-- The integer of a cell that holds one. -/
def asInt64 : Cell → Option Int64
  | .int n => some n
  | _ => none

/-- Whether the cell is null. -/
def isNull : Cell → Bool
  | .null => true
  | _ => false

/-- The JSON form of a cell. -/
def toJson : Cell → Value
  | .null => .null
  | .bool b => .bool b
  | .int n => .ofInt64 n
  | .float x => .ofBinary64 x
  | .text s => .string s
  | .bytes b => .string (if b.length = 16 then Uuid.hyphenated b else Utf8.lossy b)
  | .uuid b => .string (Uuid.hyphenated b)
  | .timestamp t => .string t.rfc3339
  | .json v => v

end Cell

/-- The JSON form of a row. -/
def Row.toJson (row : Row) : Value := .ofObject (Keyed.mapValues Cell.toJson row)

end QueryGateway
