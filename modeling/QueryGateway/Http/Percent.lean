import QueryGateway.Text.Hex
import QueryGateway.Text.Split
import QueryGateway.Text.Utf8

/-!
# Percent encoding

In an address a byte may be written as a percent sign with two hex digits.  A percent sign without
them stands for itself.

## Main definitions

* `Percent.decode` — the bytes of a part of an address.
* `Percent.formFields` — the fields of a query string.
-/

namespace QueryGateway.Percent

/-- The value of a byte that is a hex digit. -/
def hexValue? (b : UInt8) : Option Nat := Hex.value? (Char.ofNat b.toNat)

/-- The byte that two hex digits stand for. -/
def byte? (high low : UInt8) : Option UInt8 := do
  return UInt8.ofNat (16 * (← hexValue? high) + (← hexValue? low))

/-- The bytes that an encoded byte string stands for. -/
def decode : Bytes → Bytes
  | 37 :: high :: low :: rest =>
    match byte? high low with
    | some b => b :: decode rest
    | none => 37 :: decode (high :: low :: rest)
  | b :: rest => b :: decode rest
  | [] => []

/-- The text of a name or value in a query string: a plus sign is a space, and what is no text is
replaced. -/
def formText (part : List Char) : String :=
  let spaced := part.map fun c => if c = '+' then ' ' else c
  Utf8.lossy (decode (Utf8.encode (String.ofList spaced)))

/-- A field of a query string; one without an equals sign has an empty value. -/
def formField (part : List Char) : String × String :=
  (formText (part.takeWhile (· ≠ '=')), formText ((part.dropWhile (· ≠ '=')).drop 1))

/-- The fields of a query string; empty ones do not count. -/
def formFields (query : String) : List (String × String) :=
  ((Text.splitChars '&' query.toList).filter (· ≠ [])).map formField

end QueryGateway.Percent
