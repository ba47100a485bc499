import QueryGateway.Json.Value
import QueryGateway.Json.Document
import QueryGateway.Decimal.Numeral

/-!
# The meaning of a document

The second step of reading.  Strings must be well-formed text; whole numbers stay whole as long as
they fit in 64 bits; everything else is a double, which must not overflow.  Containers may be nested
`maxDepth` deep.

## Main definitions

* `Json.Piece.text?`, `Json.Numeral.number?` — strings and numbers.
* `Json.Document.value?` — a document as a value.
* `Json.read?` — the value that bytes write.
-/

namespace QueryGateway.Json

/-- How many containers may be open at once. -/
def maxDepth : Nat := 127

/-- The text of a string.  Code units of a surrogate pair stand for one character; a surrogate
alone stands for none. -/
def textOfPieces : List Piece → Option (List Char)
  | [] => some []
  | .char c :: rest => (textOfPieces rest).map (c :: ·)
  | .malformed :: _ => none
  | .unit n :: rest =>
    if 0xDC00 ≤ n ∧ n < 0xE000 then none
    else if 0xD800 ≤ n ∧ n < 0xDC00 then
      match rest with
      | .unit m :: rest =>
        if 0xDC00 ≤ m ∧ m < 0xE000 then
          let c := Char.ofNat (0x10000 + (n - 0xD800) * 0x400 + (m - 0xDC00))
          (textOfPieces rest).map (c :: ·)
        else none
      | _ => none
    else (textOfPieces rest).map (Char.ofNat n :: ·)

namespace Document

/-- The text of a string as it is written. -/
def text? (pieces : List Piece) : Option String :=
  (textOfPieces pieces).map String.ofList

end Document

namespace Numeral

/-- The integer that a numeral without point and exponent writes.  The sign of `-0` would be lost,
so that numeral is not an integer. -/
def integer? (n : Numeral) : Option Int :=
  match n.fraction, n.exponent with
  | none, none =>
    let value := QueryGateway.Numeral.natOf n.whole
    if n.negative then if value = 0 then none else some (-value) else some value
  | _, _ => none

/-- The double that a numeral writes, if it is finite. -/
def double? (n : Numeral) : Option Binary64 :=
  let exponent : Int :=
    match n.exponent with
    | none => 0
    | some (true, digits) => -(QueryGateway.Numeral.natOf digits : Int)
    | some (false, digits) => QueryGateway.Numeral.natOf digits
  QueryGateway.Numeral.scaled? n.negative n.whole (n.fraction.getD []) exponent

/-- The number that a numeral writes: an integer of the 64-bit ranges, or else a double. -/
def number? (n : Numeral) : Option Number :=
  let asDouble := n.double?.bind fun x => if h : x.isFinite = true then some (.float x h) else none
  match n.integer? with
  | some i => if h : -9223372036854775808 ≤ i ∧ i < 18446744073709551616 then some (.whole i h) else asDouble
  | none => asDouble

end Numeral

namespace Document

mutual

/-- The value of a document with so many levels of nesting left.  Of a repeated key the last value
counts. -/
def value? (levels : Nat) : Document → Option Value
  | .null => some .null
  | .bool b => some (.bool b)
  | .number n => n.number?.map .number
  | .string pieces => (text? pieces).map .string
  | .array items => if levels = 0 then none else (values? (levels - 1) items).map .array
  | .object members =>
    if levels = 0 then none else (members? (levels - 1) members).map .ofObject

/-- The values of a list of documents. -/
def values? (levels : Nat) : List Document → Option (List Value)
  | [] => some []
  | d :: rest => do
    let v ← value? levels d
    return v :: (← values? levels rest)

/-- The members of an object, in the order of the document. -/
def members? (levels : Nat) : List (List Piece × Document) → Option (List (String × Value))
  | [] => some []
  | (k, d) :: rest => do
    let key ← text? k
    let v ← value? levels d
    return (key, v) :: (← members? levels rest)

end

end Document

/-- The value that bytes write. -/
def read? (bytes : Bytes) : Option Value :=
  (Document.ofBytes? bytes).bind (Document.value? maxDepth)

end QueryGateway.Json
