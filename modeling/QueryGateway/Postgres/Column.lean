import QueryGateway.Cell
import QueryGateway.Json.Reading
import QueryGateway.Postgres.SqlType

/-!
# Columns of a reply

The server sends each column in the binary form of its type.  A column that is null, or whose bytes
are not of the form that its type has, is read as null.

## Main definitions

* `Column.text?`, `Column.int?`, `Column.timestamp?`, … — read one form each.
* `Column.numeric?` — sums the digits of a decimal number in doubles.
* `Column.read` — the cell of a column.
* `readRow` — the row of a reply.
-/

namespace QueryGateway.Postgres

open Json

namespace Column

/-- The bytes, if there are so many. -/
def sized? (width : Nat) (bytes : Bytes) : Option Bytes :=
  if bytes.length = width then some bytes else none

/-- A signed integer of a width. -/
def int? (width : Nat) (bytes : Bytes) : Option Int :=
  (sized? width bytes).map Bytes.toInt

/-- A truth value: a byte other than zero is true. -/
def bool? (bytes : Bytes) : Option Bool :=
  (sized? 1 bytes).map fun b => b.toNat != 0

/-- Whether columns of a type are texts. -/
def isText (type : SqlType) : Bool :=
  type.oid == 1043 || type.oid == 25 || type.oid == 1042 || type.oid == 19 || type.oid == 705 ||
    ["citext", "ltree", "lquery", "ltxtquery"].contains type.name

/-- Whether the texts of a type start with a version byte. -/
def isVersioned (type : SqlType) : Bool :=
  ["ltree", "lquery", "ltxtquery"].contains type.name

/-- The text of a column of a type whose columns are texts. -/
def text? (type : SqlType) (bytes : Bytes) : Option String :=
  if !isText type then none
  else if isVersioned type then
    match bytes with
    | 1 :: rest => Utf8.decode? rest
    | _ => none
  else Utf8.decode? bytes

/-- The instant that a count of microseconds stands for. -/
def timestamp? (bytes : Bytes) : Option Instant :=
  (int? 8 bytes).bind Instant.ofMicroseconds?

/-- The date that a count of days stands for. -/
def date? (bytes : Bytes) : Option Date := do
  let days ← int? 4 bytes
  let d := Date.ofDays (Date.millennium + days)
  if Date.minYear ≤ d.year ∧ d.year ≤ Date.maxYear then some d else none

/-- The time of day that a count of microseconds stands for; it goes round after a day. -/
def timeOfDay? (bytes : Bytes) : Option String := do
  let n ← int? 8 bytes
  let k := (n % (86400000000)).toNat
  return String.ofList (Instant.timeChars ⟨(k / 1000000 : Nat), k % 1000000 * 1000⟩)

/-- A JSON value; that of `jsonb` follows a version byte. -/
def json? (type : SqlType) (bytes : Bytes) : Option Value :=
  if type.slot = .jsonb then
    match bytes with
    | 1 :: rest => Json.read? rest
    | _ => none
  else Json.read? bytes

/-- The unsigned word at an offset. -/
def word (bytes : Bytes) (offset : Nat) : Nat := Bytes.toNat ((bytes.drop offset).take 2)

/-- The sum of the digits of a decimal number in base 10000, the first weighing `10000 ^ weight`. -/
def digitSum (weight : Int) (sum : Binary64) : Bytes → Binary64
  | hi :: lo :: rest =>
    let digit := Binary64.ofNat (256 * hi.toNat + lo.toNat)
    digitSum (weight - 1) (sum.add (digit.mul ((Binary64.ofNat 10000).pow weight))) rest
  | _ => sum

/-- The sign word of a negative number. -/
def minusSign : Nat := 0x4000

/-- A decimal number: the count of digits, the weight of the first, a sign, a scale that does not
matter here, and the digits.  Signs of neither kind mark what is not a finite number. -/
def numeric? (bytes : Bytes) : Option Binary64 :=
  if bytes.length < 8 then none
  else
    let count := word bytes 0
    let weight := Bytes.toInt ((bytes.drop 2).take 2)
    let sign := word bytes 4
    if sign ≠ 0 ∧ sign ≠ minusSign then some .nan
    else if bytes.length < 8 + 2 * count then none
    else
      let sum := digitSum weight (.zero false) ((bytes.drop 8).take (2 * count))
      some (if sign = minusSign then sum.neg else sum)

/-- The integer cell of a number. -/
def intCell (n : Int) : Cell := .int (.ofInt n)

/-- What a column is read as that takes only the types with some numbers: a type of the right name
but with another number is not read. -/
def ofTypes (oids : List Nat) (type : SqlType) (cell : Option Cell) : Option Cell :=
  if oids.contains type.oid then cell else none

/-- What the bytes of a column hold, by the name of its type. -/
def cell? (type : SqlType) (bytes : Bytes) : Option Cell :=
  match type.name with
  | "bool" => ofTypes [16] type ((bool? bytes).map .bool)
  | "int2" => ofTypes [21] type ((int? 2 bytes).map intCell)
  | "int4" => ofTypes [23] type ((int? 4 bytes).map intCell)
  | "int8" => ofTypes [20] type ((int? 8 bytes).map intCell)
  | "oid" => ofTypes [26] type ((sized? 4 bytes).map fun b => intCell b.toNat)
  | "float4" => ofTypes [700] type ((sized? 4 bytes).map fun b => .float (.ofSingle (.ofNat b.toNat)))
  | "float8" => ofTypes [701] type ((sized? 8 bytes).map fun b => .float ⟨.ofNat b.toNat⟩)
  | "numeric" => ofTypes [1700] type ((numeric? bytes).map .float)
  | "bytea" => ofTypes [17] type (some (.bytes bytes))
  | "uuid" => ofTypes [2950] type ((sized? 16 bytes).map .uuid)
  | "timestamptz" => ofTypes [1184] type ((timestamp? bytes).map .timestamp)
  | "timestamp" => ofTypes [1114] type ((timestamp? bytes).map .timestamp)
  | "date" => ofTypes [1082] type ((date? bytes).map fun d => .text d.text)
  | "time" => ofTypes [1083] type ((timeOfDay? bytes).map .text)
  | "json" | "jsonb" => ofTypes [114, 3802] type ((json? type bytes).map .json)
  | _ => (text? type bytes).map .text

/-- The cell of a column. -/
def read (type : SqlType) (bytes : Option Bytes) : Cell :=
  (bytes.bind (cell? type)).getD .null

end Column

/-- The row that the columns of a reply form.  Of a repeated name the last column counts. -/
def readRow (columns : List (String × SqlType)) (row : List (Option Bytes)) : Row :=
  Keyed.sort ((columns.zip row).map fun ((name, type), bytes) => (name, Column.read type bytes))

end QueryGateway.Postgres
