import QueryGateway.Json.Reading

/-!
# Records in JSON

A record is written as an object whose members are its fields, or as an array of its fields in the
order of their declaration.  In an object unknown members are ignored and a field may be given once,
whatever its spelling.  In an array fields at the end may be left out if they have a default, and
extra items are an error.

A reader takes the number of levels of nesting that are left and a document.

## Main definitions

* `Json.Reader` — a reader of documents.
* `Json.Field` — what a record holds for a field: its document, or how it is missing.
* `Json.record` — the fields of a record.
* `Json.Field.required`, `Json.Field.optional`, `Json.Field.withDefault` — what a missing field means.
-/

namespace QueryGateway.Json

/-- A reader of documents, given how many levels of nesting are left. -/
abbrev Reader (α : Type) := Nat → Document → Option α

/-- What a record holds for a field. -/
inductive Field
  /-- The field is given. -/
  | given (doc : Document)
  /-- The field is not among the members of an object. -/
  | absent
  /-- The array that writes the record ends before the field. -/
  | cut

namespace Reader

/-- A text. -/
def string : Reader String
  | _, .string pieces => Document.text? pieces
  | _, _ => none

/-- A truth value. -/
def bool : Reader Bool
  | _, .bool b => some b
  | _, _ => none

/-- An integer between two bounds. -/
def integer (low high : Int) : Reader Int
  | _, .number n => n.integer?.bind fun i => if low ≤ i ∧ i ≤ high then some i else none
  | _, _ => none

/-- A signed 64-bit integer. -/
def int64 : Reader Int64 := fun levels doc =>
  (integer (-9223372036854775808) 9223372036854775807 levels doc).map Int64.ofInt

/-- An unsigned 64-bit integer. -/
def uint64 : Reader UInt64 := fun levels doc =>
  (integer 0 18446744073709551615 levels doc).map fun i => UInt64.ofNat i.toNat

/-- An unsigned 32-bit integer. -/
def uint32 : Reader UInt32 := fun levels doc =>
  (integer 0 4294967295 levels doc).map fun i => UInt32.ofNat i.toNat

/-- An unsigned 16-bit integer. -/
def uint16 : Reader UInt16 := fun levels doc =>
  (integer 0 65535 levels doc).map fun i => UInt16.ofNat i.toNat

/-- Any value. -/
def value : Reader Value := Document.value?

/-- `null`, or what another reader reads. -/
def nullable {α : Type} (reader : Reader α) : Reader (Option α)
  | _, .null => some none
  | levels, doc => (reader levels doc).map some

/-- A list of what another reader reads. -/
def list {α : Type} (reader : Reader α) : Reader (List α)
  | levels, .array items => if levels = 0 then none else items.mapM (reader (levels - 1))
  | _, _ => none

/-- A map from texts; of a repeated key the last value counts, but all must be readable.  Keys come
in ascending order. -/
def map {α : Type} (reader : Reader α) : Reader (Keyed α)
  | levels, .object members =>
    if levels = 0 then none
    else
      (members.mapM fun (key, doc) => do
        return (← Document.text? key, ← reader (levels - 1) doc)).map Keyed.sort
  | _, _ => none

/-- One of several names, written as a text or as an object with the name as its only key and
`null` as the value. -/
def oneOf {α : Type} (choices : Keyed α) : Reader α
  | _, .string pieces => (Document.text? pieces).bind fun name => Keyed.find? name choices
  | levels, .object [(key, .null)] =>
    if levels = 0 then none else (Document.text? key).bind fun name => Keyed.find? name choices
  | _, _ => none

end Reader

/-- Puts a document into the place of a field that has none yet. -/
def fill (i : Nat) (doc : Document) (fields : List Field) : Option (List Field) :=
  match fields[i]? with
  | some .absent => some (fields.set i (.given doc))
  | _ => none

/-- Sorts the members of an object into fields, each given by its spellings. -/
def fillMembers (spellings : List (List String)) :
    List (List Piece × Document) → List Field → Option (List Field)
  | [], fields => some fields
  | (key, doc) :: rest, fields => do
    let name ← Document.text? key
    match spellings.findIdx? (·.contains name) with
    | some i => fillMembers spellings rest (← fill i doc fields)
    | none => fillMembers spellings rest fields

/-- The fields of a record, in the order of their declaration, and the levels of nesting left for
them. -/
def record (spellings : List (List String)) (levels : Nat) :
    Document → Option (Nat × List Field)
  | .object members =>
    if levels = 0 then none
    else
      (fillMembers spellings members (spellings.map fun _ => .absent)).map ((levels - 1), ·)
  | .array items =>
    if levels = 0 ∨ spellings.length < items.length then none
    else
      some (levels - 1,
        items.map .given ++ List.replicate (spellings.length - items.length) .cut)
  | _ => none

namespace Field

/-- A field that must be given. -/
def required {α : Type} (reader : Reader α) (levels : Nat) : Field → Option α
  | .given doc => reader levels doc
  | _ => none

/-- A field that may be missing among the members of an object, or null. -/
def optional {α : Type} (reader : Reader α) (levels : Nat) : Field → Option (Option α)
  | .given doc => Reader.nullable reader levels doc
  | .absent => some none
  | .cut => none

/-- A field that has a default. -/
def withDefault {α : Type} (default : α) (reader : Reader α) (levels : Nat) : Field → Option α
  | .given doc => reader levels doc
  | _ => some default

end Field

end QueryGateway.Json
