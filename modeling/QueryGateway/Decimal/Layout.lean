import QueryGateway.Decimal.Shortest

/-!
# Decimal layout

How the digits of a double are laid out: where plain notation ends, whether a whole number keeps a
fraction digit, and how an exponent is written.

## Main definitions

* `Decimal.Layout` — the decisions.
* `Decimal.Layout.write` — a finite double under them.
-/

namespace QueryGateway.Decimal

/-- The decisions of a notation for doubles.  The *point* of a number is the `p` with
`10 ^ (p - 1) ≤ x < 10 ^ p`. -/
structure Layout where
  /-- The least point written in plain notation. -/
  plainFrom : Int
  /-- The greatest point written in plain notation. -/
  plainTo : Int
  /-- What stands between the digits and a positive exponent. -/
  positiveMark : List Char
  /-- What stands between the digits and the magnitude of a negative exponent. -/
  negativeMark : List Char

/-- Digits with the point before, among or after them, always with a fraction. -/
def plain (digits : List Char) (point : Int) : List Char :=
  if point ≤ 0 then
    '0' :: '.' :: (List.replicate point.natAbs '0' ++ digits)
  else if digits.length ≤ point.natAbs then
    digits ++ List.replicate (point.natAbs - digits.length) '0' ++ ['.', '0']
  else
    digits.take point.natAbs ++ '.' :: digits.drop point.natAbs

/-- One digit, the others after a point if there are any, and the exponent. -/
def Layout.scientific (layout : Layout) (digits : List Char) (point : Int) : List Char :=
  let exponent := point - 1
  let mantissa := digits.take 1 ++ (if digits.length ≤ 1 then [] else '.' :: digits.drop 1)
  let mark := if exponent < 0 then layout.negativeMark else layout.positiveMark
  mantissa ++ mark ++ digitsOf exponent.natAbs

/-- A finite double under a layout; zero keeps its sign. -/
def Layout.write (layout : Layout) (x : Binary64) : List Char :=
  let sign := if x.negative then ['-'] else []
  if x.isZero then sign ++ ['0', '.', '0']
  else
    let d := shortest x
    let digits := digitsOf d.digits
    let point := d.exponent + digits.length
    sign ++
      (if layout.plainFrom ≤ point ∧ point ≤ layout.plainTo then plain digits point
       else layout.scientific digits point)

end QueryGateway.Decimal
