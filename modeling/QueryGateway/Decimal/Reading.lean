import QueryGateway.Decimal.Numeral
import QueryGateway.Text.Case

/-!
# Numbers in texts

Texts that are meant as numbers are read as a whole, without separators or blanks: an integer is an
optional sign and digits, a double also has a point, an exponent, or is one of the words for
infinity and for not-a-number.

## Main definitions

* `Numeral.integer?` — reads an integer.
* `Numeral.double?` — reads a double, correctly rounded.
-/

namespace QueryGateway.Numeral

/-- Whether a character is a decimal digit. -/
def isDigit (c : Char) : Bool := '0' ≤ c && c ≤ '9'

/-- Splits off a sign: whether it is a minus, and what follows. -/
def splitSign : List Char → Bool × List Char
  | '-' :: rest => (true, rest)
  | '+' :: rest => (false, rest)
  | cs => (false, cs)

/-- The integer that an optional sign and one or more digits write. -/
def integer? (text : String) : Option Int :=
  let (negative, digits) := splitSign text.toList
  if digits ≠ [] ∧ digits.all isDigit then
    some (if negative then -(natOf digits : Int) else natOf digits)
  else none

/-- The exponent that an optional sign and one or more digits write. -/
def exponent? (cs : List Char) : Option Int := integer? (String.ofList cs)

/-- The digits around an optional point, of which there is at least one. -/
def splitPoint? (cs : List Char) : Option (List Char × List Char) :=
  let whole := cs.takeWhile isDigit
  let fraction? := match cs.dropWhile isDigit with
    | [] => some []
    | '.' :: rest => if rest.all isDigit then some rest else none
    | _ => none
  match fraction? with
  | some fraction => if whole = [] ∧ fraction = [] then none else some (whole, fraction)
  | none => none

/-- Whether a character marks an exponent. -/
def isExponentMark (c : Char) : Bool := c == 'e' || c == 'E'

/-- The words for doubles that no digits write. -/
def word? (negative : Bool) (cs : List Char) : Option Binary64 :=
  match Text.asciiLower (String.ofList cs) with
  | "inf" | "infinity" => some (.infinity negative)
  | "nan" => some (if negative then Binary64.nan.neg else .nan)
  | _ => none

/-- The double nearest to the number that a text writes. -/
def double? (text : String) : Option Binary64 :=
  let (negative, cs) := splitSign text.toList
  match word? negative cs with
  | some x => some x
  | none => do
    let mantissa := cs.takeWhile fun c => !isExponentMark c
    let (whole, fraction) ← splitPoint? mantissa
    let exponent ← match cs.dropWhile fun c => !isExponentMark c with
      | [] => some 0
      | _ :: rest => exponent? rest
    return exact negative (natOf (whole ++ fraction)) (exponent - fraction.length)

end QueryGateway.Numeral
