import QueryGateway.Json.Value

/-!
# Looking into JSON values

What a member of an object holds if it is of the kind that is looked for; where nothing of that kind
is, a default stands in.

## Main definitions

* `Value.string?`, `Value.int?`, `Value.items`, `Value.members` — a value as one of a kind.
* `Value.member`, `Value.stringAt`, `Value.natAt`, `Value.flagAt`, `Value.itemsAt` — members.
-/

namespace QueryGateway.Json.Value

/-- The text that a value is. -/
def string? : Value → Option String
  | string text => some text
  | _ => none

/-- The integer that a value is. -/
def int? : Value → Option Int
  | number (.whole n _) => some n
  | _ => none

/-- The items of an array. -/
def items : Value → List Value
  | array values => values
  | _ => []

/-- The members of an object. -/
def members : Value → Keyed Value
  | object entries => entries
  | _ => []

/-- A member of an object. -/
def member (key : String) (v : Value) : Value := (v.get? key).getD null

/-- Whether an object has a member. -/
def has (key : String) (v : Value) : Bool := (v.get? key).isSome

/-- The text at a key. -/
def stringAt? (key : String) (v : Value) : Option String := (v.member key).string?

/-- The text at a key, or an empty one. -/
def stringAt (key : String) (v : Value) : String := (v.stringAt? key).getD ""

/-- The integer at a key, or another. -/
def intAt (key : String) (v : Value) (default : Int := 0) : Int := ((v.member key).int?).getD default

/-- The natural number at a key. -/
def natAt? (key : String) (v : Value) : Option Nat := (v.member key).int?.map Int.toNat

/-- The natural number at a key, or another. -/
def natAt (key : String) (v : Value) (default : Nat := 0) : Nat := (v.natAt? key).getD default

/-- Whether the value at a key is true. -/
def flagAt (key : String) (v : Value) : Bool := v.member key == .bool true

/-- The items at a key. -/
def itemsAt (key : String) (v : Value) : List Value := (v.member key).items

/-- The texts among the items at a key. -/
def stringsAt (key : String) (v : Value) : List String := (v.itemsAt key).filterMap string?

end QueryGateway.Json.Value
