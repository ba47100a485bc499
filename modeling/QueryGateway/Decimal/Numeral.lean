import QueryGateway.Binary64

/-!
# Decimal numerals

Two readings of decimal digits as a double.  `exact` is the nearest double to the number that the
digits write.  `scaled` keeps as many leading digits as fit in 64 bits and multiplies or divides
their double by a power of ten, itself a double, which is quicker but may be off by a few units in
the last place.

## Main definitions

* `Numeral.exact` — correct rounding.
* `Numeral.scaled?` — the quick reading; `none` where it overflows.
-/

namespace QueryGateway.Numeral

-- Powers are those of naturals.
attribute [local instance (2000)] instPowNat

/-- The value of a decimal digit. -/
def digitValue (c : Char) : Nat := c.toNat - 48

/-- The number that digits write. -/
def natOf (digits : List Char) : Nat :=
  digits.foldl (fun n c => 10 * n + digitValue c) 0

/-- The double nearest to `digits * 10 ^ exponent`.  Beyond the range of doubles the power is not
computed. -/
def exact (negative : Bool) (digits : Nat) (exponent : Int) : Binary64 :=
  let point : Int := exponent + (Nat.toDigits 10 digits).length
  if digits = 0 then .zero negative
  else if 310 < point then .infinity negative
  else if point < -330 then .zero negative
  else if exponent < 0 then .ofRatio negative digits (10 ^ exponent.natAbs)
  else .ofRatio negative (digits * 10 ^ exponent.natAbs) 1

/-- The greatest significand that the quick reading collects. -/
def significandLimit : Nat := 18446744073709551615

/-- Collects digits while the significand fits in 64 bits: the significand, how many digits it
took, and the digits that are left. -/
def collect (significand taken : Nat) : List Char → Nat × Nat × List Char
  | [] => (significand, taken, [])
  | c :: rest =>
    let next := 10 * significand + digitValue c
    if significandLimit < next then (significand, taken, c :: rest)
    else collect next (taken + 1) rest

/-- The greatest power of ten that is a finite double. -/
def greatestPower : Nat := 308

/-- A double multiplied by ten to some power in double arithmetic.  Powers of ten beyond the greatest
are taken in several steps; an overflow is `none`. -/
def timesPowerOfTen : Nat → Binary64 → Int → Option Binary64
  | 0, _, _ => none
  | fuel + 1, x, e =>
    if e.natAbs ≤ greatestPower then
      let power := Binary64.ofNat (10 ^ e.natAbs)
      if e < 0 then some (x.div power)
      else
        let y := x.mul power
        if y.isFinite then some y else none
    else if x.isZero then some x
    else if 0 ≤ e then none
    else timesPowerOfTen fuel (x.div (.ofNat (10 ^ greatestPower))) (e + greatestPower)

/-- The quick reading of a numeral with whole digits, fraction digits and an exponent.  Digits that
do not fit in the significand raise the exponent if they are whole, and are dropped if they are
not. -/
def scaled? (negative : Bool) (whole fraction : List Char) (exponent : Int) : Option Binary64 :=
  let (high, _, left) := collect 0 0 whole
  let (significand, taken, _) := collect high 0 fraction
  let e := exponent + left.length - taken
  -- Three steps of 308 take any nonzero significand below the least double.
  (timesPowerOfTen 4 (.ofNat significand) e).map fun x => if negative then x.neg else x

end QueryGateway.Numeral
