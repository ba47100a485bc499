import QueryGateway.Json.Value
import QueryGateway.Decimal.Layout
import QueryGateway.Text.Hex
import QueryGateway.Text.Utf8

/-!
# Compact JSON text

A value is written without blanks, members in the order of the object, and with the fewest escapes:
quotes, backslashes and the characters below the space.

## Main definitions

* `Json.Value.chars`, `Json.Value.text`, `Json.Value.bytes` — the written form of a value.
-/

namespace QueryGateway.Json

/-- Doubles have plain notation from `0.00001` up to sixteen digits before the point, and an
exponent with a sign beyond. -/
def doubleLayout : Decimal.Layout := ⟨-4, 16, ['e', '+'], ['e', '-']⟩

/-- A character between quotes. -/
def escapedChar (c : Char) : List Char :=
  match c with
  | '"' => ['\\', '"']
  | '\\' => ['\\', '\\']
  | '\x08' => ['\\', 'b']
  | '\x0c' => ['\\', 'f']
  | '\n' => ['\\', 'n']
  | '\r' => ['\\', 'r']
  | '\t' => ['\\', 't']
  | c =>
    if c < ' ' then ['\\', 'u', '0', '0', Hex.digit (c.toNat / 16), Hex.digit (c.toNat % 16)]
    else [c]

/-- A text between quotes. -/
def quotedChars (s : String) : List Char :=
  '"' :: (s.toList.flatMap escapedChar ++ ['"'])

/-- The digits of an integer. -/
def integerChars (n : Int) : List Char :=
  (if n < 0 then ['-'] else []) ++ Decimal.digitsOf n.natAbs

/-- A number. -/
def Number.chars : Number → List Char
  | .whole n _ => integerChars n
  | .float x _ => doubleLayout.write x

namespace Value

mutual

/-- The written form of a value. -/
def chars : Value → List Char
  | .null => ['n', 'u', 'l', 'l']
  | .bool true => ['t', 'r', 'u', 'e']
  | .bool false => ['f', 'a', 'l', 's', 'e']
  | .number n => n.chars
  | .string s => quotedChars s
  | .array [] => ['[', ']']
  | .array (v :: rest) => '[' :: (chars v ++ moreItems rest)
  | .object [] => ['\x7b', '\x7d']
  | .object ((k, v) :: rest) =>
    '\x7b' :: (quotedChars k ++ ':' :: (chars v ++ moreMembers rest))

/-- The items after the first, and the closing bracket. -/
def moreItems : List Value → List Char
  | [] => [']']
  | v :: rest => ',' :: (chars v ++ moreItems rest)

/-- The members after the first, and the closing brace. -/
def moreMembers : List (String × Value) → List Char
  | [] => ['\x7d']
  | (k, v) :: rest => ',' :: (quotedChars k ++ ':' :: (chars v ++ moreMembers rest))

end

/-- The written form of a value, as a text. -/
def text (v : Value) : String := String.ofList v.chars

/-- The written form of a value, as bytes. -/
def bytes (v : Value) : Bytes := Utf8.encode v.text

end Value

end QueryGateway.Json
