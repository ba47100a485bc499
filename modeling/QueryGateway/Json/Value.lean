import QueryGateway.Binary64
import QueryGateway.Keyed

/-!
# JSON values

A number is a whole number of the range that 64-bit words cover, signed or unsigned, or a finite
double; `1` and `1.0` are different values.  An object is a list of members in the order in which
they are written.  Objects that were read have their keys in ascending order and each key once
(`Value.Canonical`), so equality of canonical values is equality of JSON objects.

## Main definitions

* `Json.Number`, `Json.Value` — the values.
* `Json.Value.ofObject` — an object with canonical members.
* `Json.Value.Canonical` — keys ascend strictly at every level.
-/

namespace QueryGateway.Json

/-- A number: whole within the 64-bit ranges, or a finite double. -/
inductive Number
  | whole (n : Int) (inRange : -9223372036854775808 ≤ n ∧ n < 18446744073709551616)
  | float (x : Binary64) (finite : x.isFinite = true)
  deriving DecidableEq

/-- A JSON value. -/
inductive Value
  | null
  | bool (b : Bool)
  | number (n : Number)
  | string (s : String)
  | array (items : List Value)
  | object (members : List (String × Value))
  deriving Inhabited

namespace Value

mutual

/-- Equality of values is decided member by member. -/
def decEq : (a b : Value) → Decidable (a = b)
  | .null, b =>
    match b with
    | .null => isTrue rfl
    | .bool _ | .number _ | .string _ | .array _ | .object _ => isFalse nofun
  | .bool x, b =>
    match b with
    | .bool x' =>
      match instDecidableEqBool x x' with
      | isTrue h => isTrue (by rw [h])
      | isFalse h => isFalse (by intro e; cases e; exact h rfl)
    | .null | .number _ | .string _ | .array _ | .object _ => isFalse nofun
  | .number x, b =>
    match b with
    | .number x' =>
      match instDecidableEqNumber x x' with
      | isTrue h => isTrue (by rw [h])
      | isFalse h => isFalse (by intro e; cases e; exact h rfl)
    | .null | .bool _ | .string _ | .array _ | .object _ => isFalse nofun
  | .string x, b =>
    match b with
    | .string x' =>
      match instDecidableEqString x x' with
      | isTrue h => isTrue (by rw [h])
      | isFalse h => isFalse (by intro e; cases e; exact h rfl)
    | .null | .bool _ | .number _ | .array _ | .object _ => isFalse nofun
  | .array x, b =>
    match b with
    | .array x' =>
      match decEqItems x x' with
      | isTrue h => isTrue (by rw [h])
      | isFalse h => isFalse (by intro e; cases e; exact h rfl)
    | .null | .bool _ | .number _ | .string _ | .object _ => isFalse nofun
  | .object x, b =>
    match b with
    | .object x' =>
      match decEqMembers x x' with
      | isTrue h => isTrue (by rw [h])
      | isFalse h => isFalse (by intro e; cases e; exact h rfl)
    | .null | .bool _ | .number _ | .string _ | .array _ => isFalse nofun

/-- Equality of lists of values. -/
def decEqItems : (a b : List Value) → Decidable (a = b)
  | [], [] => isTrue rfl
  | [], _ :: _ | _ :: _, [] => isFalse nofun
  | x :: xs, y :: ys =>
    match decEq x y, decEqItems xs ys with
    | isTrue h, isTrue t => isTrue (by rw [h, t])
    | isFalse h, _ => isFalse (by intro e; cases e; exact h rfl)
    | _, isFalse t => isFalse (by intro e; cases e; exact t rfl)

/-- Equality of lists of members. -/
def decEqMembers : (a b : List (String × Value)) → Decidable (a = b)
  | [], [] => isTrue rfl
  | [], _ :: _ | _ :: _, [] => isFalse nofun
  | (k, x) :: xs, (l, y) :: ys =>
    match instDecidableEqString k l, decEq x y, decEqMembers xs ys with
    | isTrue k, isTrue h, isTrue t => isTrue (by rw [k, h, t])
    | isFalse k, _, _ => isFalse (by intro e; cases e; exact k rfl)
    | _, isFalse h, _ => isFalse (by intro e; cases e; exact h rfl)
    | _, _, isFalse t => isFalse (by intro e; cases e; exact t rfl)

end

instance : DecidableEq Value := decEq

/-- An object with canonical members. -/
def ofObject (members : List (String × Value)) : Value :=
  .object (Keyed.sort members)

/-- A signed 64-bit integer. -/
def ofInt64 (n : Int64) : Value :=
  .number (.whole n.toInt ⟨n.le_toInt, by have := n.toInt_lt; omega⟩)

/-- An unsigned 64-bit integer. -/
def ofUInt64 (n : UInt64) : Value :=
  .number (.whole n.toNat ⟨by omega, by have := n.toNat_lt; omega⟩)

/-- A double; those that are not finite have no JSON form. -/
def ofBinary64 (x : Binary64) : Value :=
  if h : x.isFinite = true then .number (.float x h) else .null

/-- A text or null. -/
def ofOption (s : Option String) : Value :=
  (s.map string).getD null

mutual

/-- Keys ascend strictly in every object of the value. -/
def Canonical : Value → Prop
  | .array items => CanonicalItems items
  | .object members => Keyed.Sorted members ∧ CanonicalMembers members
  | _ => True

/-- Every item is canonical. -/
def CanonicalItems : List Value → Prop
  | [] => True
  | v :: rest => Canonical v ∧ CanonicalItems rest

/-- The value of every member is canonical. -/
def CanonicalMembers : List (String × Value) → Prop
  | [] => True
  | (_, v) :: rest => Canonical v ∧ CanonicalMembers rest

end

/-- The member of an object with a key. -/
def get? (key : String) : Value → Option Value
  | .object members => Keyed.find? key members
  | _ => none

end Value

end QueryGateway.Json
