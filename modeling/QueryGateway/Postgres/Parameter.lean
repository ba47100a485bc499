import QueryGateway.Calendar.Reading
import QueryGateway.Decimal.Reading
import QueryGateway.Postgres.SqlType
import QueryGateway.QueryError
import QueryGateway.Uuid

/-!
# Parameters of a statement

The server says which type each slot of a statement has, and a JSON value is converted to that type
before it is sent.  Conversions never lose part of an integer: a value that does not fit is refused.

## Main definitions

* `Parameter` — a converted value.
* `Parameter.bind` — converts a JSON value for a slot.
* `Parameter.encode?` — the bytes that are sent: big endian, with dates and times counted from the
  start of 2000.
-/

namespace QueryGateway.Postgres

-- Powers are those of naturals.
attribute [local instance (2000)] instPowNat

open Json

/-- A value converted for a slot. -/
inductive Parameter
  | null
  | bool (b : Bool)
  | int2 (n : Int16)
  | int4 (n : Int32)
  | int8 (n : Int64)
  /-- A single, given by its bits. -/
  | float4 (bits : UInt32)
  | float8 (x : Binary64)
  | text (s : String)
  | uuid (b : Bytes)
  | timestamp (t : Instant)
  | timestamptz (t : Instant)
  | date (d : Date)
  | json (v : Value)
  /-- A text that the server reads itself. -/
  | unread (s : String)
  deriving DecidableEq

/-- The integer that a value denotes: a number of the signed 64-bit range, or its text between
blanks. -/
def integerOf? (v : Value) : Option Int :=
  let n? := match v with
    | .number (.whole n _) => some n
    | .string s => Numeral.integer? (Text.trim s)
    | _ => none
  n?.filter fun n => -9223372036854775808 ≤ n ∧ n < 9223372036854775808

/-- The double that a value denotes. -/
def doubleOf? : Value → Option Binary64
  | .number (.whole n _) => some (.ofInt n)
  | .number (.float x _) => some x
  | .string s => Numeral.double? (Text.trim s)
  | _ => none

/-- The text of a value that has no parts. -/
def textOf? : Value → Option String
  | .string s => some s
  | .number n => some (String.ofList n.chars)
  | .bool b => some (if b then "true" else "false")
  | _ => none

/-- The truth value that a value denotes. -/
def boolOf? : Value → Option Bool
  | .bool b => some b
  | .string s =>
    if Text.equalsIgnoringCase s "true" then some true
    else if Text.equalsIgnoringCase s "false" then some false
    else none
  | _ => none

/-- What a reader of texts makes of a value. -/
def readText? {α : Type} (read : String → Option α) : Value → Option α
  | .string s => read s
  | _ => none

/-- A time without offset: one with an offset is taken in UTC, and the date may end with `T` or a
blank. -/
def timeOf? (s : String) : Option Instant :=
  Instant.ofRfc3339? s <|> Instant.ofPlain? (some 'T') s <|> Instant.ofPlain? none s

namespace Parameter

/-- The parameter of a slot that a value other than null denotes. -/
def ofValue? (slot : Slot) (v : Value) : Option Parameter :=
  match slot with
  | .bool => (boolOf? v).map .bool
  | .int2 =>
    ((integerOf? v).filter fun n => -32768 ≤ n ∧ n < 32768).map fun n => .int2 (.ofInt n)
  | .int4 =>
    ((integerOf? v).filter fun n => -2147483648 ≤ n ∧ n < 2147483648).map fun n => .int4 (.ofInt n)
  | .int8 => (integerOf? v).map fun n => .int8 (.ofInt n)
  | .float4 => (doubleOf? v).map fun x => .float4 x.toSingle
  | .float8 => (doubleOf? v).map .float8
  | .text => (textOf? v).map .text
  | .uuid => (readText? Uuid.ofText? v).map .uuid
  | .timestamptz => (readText? Instant.ofRfc3339? v).map .timestamptz
  | .timestamp => (readText? timeOf? v).map .timestamp
  | .date => (readText? Date.ofText? v).map .date
  | .json | .jsonb => some (.json v)
  | .other => (textOf? v).map .unread

/-- Converts a value for a slot of a type.  Null fits every type. -/
def bind (v : Value) (type : SqlType) : Except QueryError Parameter :=
  if v = .null then .ok .null
  else
    match ofValue? type.slot v with
    | some p => .ok p
    | none =>
      .error (.invalidInput ("value " ++ v.text ++ " is not valid for a parameter of type "
        ++ type.name))

/-- Whether the server is sent text rather than bytes of the type. -/
def isText : Parameter → Bool
  | .unread _ => true
  | _ => false

/-- The signed bytes of an integer, if it fits in so many. -/
def fitted? (width : Nat) (n : Int) : Option Bytes :=
  if -(256 ^ width : Nat) ≤ 2 * n ∧ 2 * n < (256 ^ width : Nat) then some (.ofInt width n) else none

/-- The bytes that are sent for a slot of a type; a null has none. -/
def encode? (type : SqlType) : Parameter → Option (Option Bytes)
  | .null => some none
  | .bool b => some (some [if b then 1 else 0])
  | .int2 n => some (some (.ofInt 2 n.toInt))
  | .int4 n => some (some (.ofInt 4 n.toInt))
  | .int8 n => some (some (.ofInt 8 n.toInt))
  | .float4 bits => some (some (.ofNat 4 bits.toNat))
  | .float8 x => some (some (.ofNat 8 x.bits.toNat))
  | .text s | .unread s => some (some (Utf8.encode s))
  | .uuid b => some (some b)
  | .timestamp t | .timestamptz t => (fitted? 8 t.microseconds).map some
  | .date d => (fitted? 4 (d.toDays - Date.millennium)).map some
  | .json v =>
    -- The binary form of `jsonb` starts with its version.
    some (some ((if type.slot = .jsonb then [1] else []) ++ Utf8.encode v.text))

end Parameter

end QueryGateway.Postgres
