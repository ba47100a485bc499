import QueryGateway.Keyed
import QueryGateway.Yaml.Node

/-!
# Reading records from YAML

What a node is read as depends on what is wanted: any scalar is a text, as it is written, and only a
plain scalar is a number or a truth value.  A node that is not written is an empty collection or an
absent value.

## Main definitions

* `Reader` — ways of reading a node; `Reader.text`, `Reader.natural`, `Reader.list` and others.
* `record` — the fields of a record; unknown ones are left aside, and none may occur twice.
* `Field.required`, `Field.withDefault` — a field of a record.
-/

namespace QueryGateway.Yaml

/-- Ways of reading a node. -/
abbrev Reader (α : Type) := Node → Option α

/-- A field of a record, if it is there. -/
abbrev Field := Option Node

/-- The tag of integers, of truth values and of null. -/
def coreTag (name : String) : String := "tag:yaml.org,2002:" ++ name

/-- The words for null. -/
def nullWords : List String := ["null", "Null", "NULL", "~"]

/-- The digits of a number in some base. -/
def digits? (base : Nat) (cs : List Char) : Option Nat :=
  if cs = [] then none
  else do
    let values ← cs.mapM Hex.value?
    if values.all (· < base) then return values.foldl (base * · + ·) 0 else none

/-- The digits of a decimal number; further digits after a zero in front make a text. -/
def decimal? (cs : List Char) : Option Nat :=
  match cs with
  | '0' :: c :: rest => if (c :: rest).all Char.isDigit then none else digits? 10 cs
  | _ => digits? 10 cs

/-- A number without sign: decimal, or after a mark in base 16, 8 or 2. -/
def unsigned? (cs : List Char) : Option Nat :=
  match cs with
  | '0' :: 'x' :: rest => digits? 16 rest
  | '0' :: 'o' :: rest => digits? 8 rest
  | '0' :: 'b' :: rest => digits? 2 rest
  | _ => decimal? cs

/-- A number with a plus sign or without. -/
def natural? (text : String) : Option Nat :=
  match text.toList with
  | '+' :: rest => unsigned? rest
  | cs => unsigned? cs

/-- A number with either sign or without. -/
def integer? (text : String) : Option Int :=
  match text.toList with
  | '-' :: rest => (unsigned? rest).map fun n => -(n : Int)
  | _ => (natural? text).map Int.ofNat

/-- Whether a node is not written. -/
def Node.isBlank : Node → Bool
  | .scalar _ .plain "" => true
  | _ => false

namespace Reader

/-- The text of a scalar. -/
def text : Reader String
  | .scalar _ _ text => some text
  | _ => none

/-- The text of a scalar that may be of a kind other than text: a plain one, or a literal block with
the tag of the kind. -/
def bare (kind : String) : Reader String
  | .scalar _ .plain text => some text
  | .scalar tag .literal text => if tag = some (coreTag kind) then some text else none
  | _ => none

/-- A natural number up to a limit. -/
def natural (limit : Nat) : Reader Nat := fun n => do
  let value ← natural? (← bare "int" n)
  if value ≤ limit then return value else none

/-- An integer of 64 bits. -/
def int64 : Reader Int64 := fun n => do
  let value ← integer? (← bare "int" n)
  if -9223372036854775808 ≤ value ∧ value < 9223372036854775808 then return Int64.ofInt value else none

/-- A natural number of 64 bits. -/
def uint64 : Reader UInt64 := fun n => (natural (UInt64.size - 1) n).map UInt64.ofNat

/-- A natural number of 32 bits. -/
def uint32 : Reader UInt32 := fun n => (natural (UInt32.size - 1) n).map UInt32.ofNat

/-- A natural number of 16 bits. -/
def uint16 : Reader UInt16 := fun n => (natural (UInt16.size - 1) n).map UInt16.ofNat

/-- A truth value. -/
def bool : Reader Bool := fun n => do
  match ← bare "bool" n with
  | "true" | "True" | "TRUE" => return true
  | "false" | "False" | "FALSE" => return false
  | _ => none

/-- A sequence. -/
def list {α : Type} (reader : Reader α) : Reader (List α)
  | .sequence _ items => items.mapM reader
  | n => if n.isBlank then some [] else none

/-- A value or null. -/
def nullable {α : Type} (reader : Reader α) : Reader (Option α)
  | n@(.scalar tag .plain text) =>
    match tag with
    | none => if text = "" || nullWords.contains text then some none else (reader n).map some
    | some tag =>
      if tag = coreTag "null" then if nullWords.contains text then some none else none
      else (reader n).map some
  | n => (reader n).map some

/-- One of some choices, given by its name or by a tag of its name on an absent value. -/
def oneOf {α : Type} (choices : Keyed α) : Reader α
  | .scalar tag style text =>
    match (tag.getD "").toList with
    | '!' :: name =>
      if style = .plain && (text = "" || nullWords.contains text) then
        Keyed.find? (String.ofList name) choices
      else none
    | _ => Keyed.find? text choices
  | _ => none

end Reader

/-- Puts a value in the field of a name; it must not be filled already. -/
def fill (name : String) (value : Node) : List String → List Field → Option (List Field)
  | key :: keys, field :: fields =>
    if key = name then if field.isNone then some (some value :: fields) else none
    else (fill name value keys fields).map (field :: ·)
  | _, fields => some fields

/-- The fields of a record with some names. -/
def record (names : List String) : Reader (List Field)
  | .mapping _ entries =>
    entries.foldlM (fun fields (key, value) => do fill (← Reader.text key) value names fields)
      (names.map fun _ => none)
  | n => if n.isBlank then some (names.map fun _ => none) else none

namespace Field

/-- A field that must be there. -/
def required {α : Type} (reader : Reader α) (field : Field) : Option α := field.bind reader

/-- A field with a default. -/
def withDefault {α : Type} (default : α) (reader : Reader α) : Field → Option α
  | none => some default
  | some n => reader n

end Field

end QueryGateway.Yaml
