/-!
# Binary floating point

A double is its 64 bits.  A finite one is a whole multiple of `2 ^ -1074`, so every operation is
exact arithmetic on natural numbers followed by one rounding to the nearest representable value,
with ties to the even neighbour.

## Main definitions

* `Binary.Format`, `Binary.Format.round` — rounding a quotient of naturals to a format.
* `Binary64` — a double; `ofRatio`, `add`, `mul`, `div`, `pow`.
* `Binary64.toSingle`, `Binary64.ofSingle` — the way to single precision and back.
-/

namespace QueryGateway

-- Powers are those of naturals.
attribute [local instance (2000)] instPowNat

namespace Binary

/-- The quotient of two naturals rounded to the nearest natural, a half going to the even one. -/
def divNearest (num den : Nat) : Nat :=
  let q := num / den
  let r := num % den
  if 2 * r < den then q
  else if 2 * r = den then q + q % 2
  else q + 1

/-- A binary interchange format. -/
structure Format where
  /-- How many bits the fraction field has. -/
  fraction : Nat
  /-- The greatest value of the exponent field, which marks infinities and NaN. -/
  special : Nat
  /-- The least positive value is `2 ^ -unit`. -/
  unit : Nat

/-- Double precision. -/
def double : Format := ⟨52, 2047, 1074⟩

/-- Single precision. -/
def single : Format := ⟨23, 255, 149⟩

/-- The code (exponent field and fraction field) of infinity. -/
def Format.infinity (fmt : Format) : Nat :=
  fmt.special * 2 ^ fmt.fraction

/-- The code of the representable value nearest to `num / den`.  Codes of neighbouring values
differ by one, so a significand that rounds up to the next power of two needs no correction. -/
def Format.round (fmt : Format) (num den : Nat) : Nat :=
  let scaled := num * 2 ^ fmt.unit
  let shift := (scaled / den).log2 - fmt.fraction
  min (shift * 2 ^ fmt.fraction + divNearest scaled (den * 2 ^ shift)) fmt.infinity

/-- The magnitude of the finite value with a code, in units of the least positive value. -/
def Format.magnitude (fmt : Format) (code : Nat) : Nat :=
  let exponent := code / 2 ^ fmt.fraction
  let fraction := code % 2 ^ fmt.fraction
  if exponent = 0 then fraction else (2 ^ fmt.fraction + fraction) * 2 ^ (exponent - 1)

end Binary

/-- A double, given by its bits. -/
structure Binary64 where
  bits : UInt64
  deriving DecidableEq, Repr

namespace Binary64

open Binary

/-- The double with a sign and a code. -/
def ofCode (negative : Bool) (code : Nat) : Binary64 :=
  ⟨UInt64.ofNat ((if negative then 0x8000000000000000 else 0) + code)⟩

/-- The exponent and fraction fields. -/
def code (x : Binary64) : Nat := x.bits.toNat % 0x8000000000000000

/-- The sign bit. -/
def negative (x : Binary64) : Bool := 0x8000000000000000 ≤ x.bits.toNat

/-- Neither an infinity nor NaN. -/
def isFinite (x : Binary64) : Bool := x.code < double.infinity

/-- Not a number. -/
def isNaN (x : Binary64) : Bool := double.infinity < x.code

/-- Either zero. -/
def isZero (x : Binary64) : Bool := x.code == 0

/-- The magnitude of a finite double, in units of `2 ^ -1074`. -/
def magnitude (x : Binary64) : Nat := double.magnitude x.code

/-- The quiet NaN that operations give. -/
def nan : Binary64 := ⟨0x7FF8000000000000⟩

/-- Infinity of either sign. -/
def infinity (negative : Bool) : Binary64 := ofCode negative double.infinity

/-- Zero of either sign. -/
def zero (negative : Bool) : Binary64 := ofCode negative 0

/-- The double nearest to `num / den`. -/
def ofRatio (negative : Bool) (num den : Nat) : Binary64 :=
  ofCode negative (double.round num den)

/-- The double nearest to a natural number. -/
def ofNat (n : Nat) : Binary64 := ofRatio false n 1

/-- The double nearest to an integer. -/
def ofInt (n : Int) : Binary64 := ofRatio (n < 0) n.natAbs 1

/-- The same value with the other sign. -/
def neg (x : Binary64) : Binary64 := ofCode (!x.negative) x.code

/-- The value of a finite double, in units of `2 ^ -1074`. -/
def scaled (x : Binary64) : Int :=
  if x.negative then -(x.magnitude : Int) else x.magnitude

/-- The rounded sum.  Opposite values sum to the positive zero. -/
def add (x y : Binary64) : Binary64 :=
  if x.isNaN || y.isNaN then nan
  else if !x.isFinite then if y.isFinite || x.negative == y.negative then x else nan
  else if !y.isFinite then y
  else
    let sum := x.scaled + y.scaled
    if sum = 0 then zero (x.negative && y.negative)
    else ofRatio (sum < 0) sum.natAbs (2 ^ double.unit)

/-- The rounded product. -/
def mul (x y : Binary64) : Binary64 :=
  let sign := x.negative != y.negative
  if x.isNaN || y.isNaN then nan
  else if !x.isFinite || !y.isFinite then if x.isZero || y.isZero then nan else infinity sign
  else ofRatio sign (x.magnitude * y.magnitude) (2 ^ (2 * double.unit))

/-- The rounded quotient. -/
def div (x y : Binary64) : Binary64 :=
  let sign := x.negative != y.negative
  if x.isNaN || y.isNaN then nan
  else if !x.isFinite then if y.isFinite then infinity sign else nan
  else if !y.isFinite then zero sign
  else if y.isZero then if x.isZero then nan else infinity sign
  else ofRatio sign x.magnitude y.magnitude

/-- The powers `b`, `b ^ 2`, `b ^ 4`, … whose exponents are the set bits, multiplied onto `acc` from
the lowest bit up.  Each product is rounded, so the order matters. -/
def powBits : Nat → Nat → Binary64 → Binary64 → Binary64
  | 0, _, _, acc => acc
  | fuel + 1, n, b, acc =>
    let acc := if n % 2 = 1 then acc.mul b else acc
    if n / 2 = 0 then acc else powBits fuel (n / 2) (b.mul b) acc

/-- A whole power by repeated squaring; a negative one is the reciprocal. -/
def pow (b : Binary64) (n : Int) : Binary64 :=
  let power := powBits (n.natAbs.log2 + 1) n.natAbs b (ofNat 1)
  if n < 0 then (ofNat 1).div power else power

/-- The bits of the nearest single. -/
def toSingle (x : Binary64) : UInt32 :=
  let sign := if x.negative then 0x80000000 else 0
  let code :=
    if x.isFinite then single.round x.magnitude (2 ^ double.unit)
    else if x.isNaN then 0x7FC00000 ||| x.code / 0x20000000 % 0x800000
    else single.infinity
  UInt32.ofNat (sign + code)

/-- The double with the value of a single. -/
def ofSingle (bits : UInt32) : Binary64 :=
  let sign : Bool := 0x80000000 ≤ bits.toNat
  let code := bits.toNat % 0x80000000
  if code < single.infinity then ofRatio sign (single.magnitude code) (2 ^ single.unit)
  else if code = single.infinity then infinity sign
  else ofCode sign (double.infinity + 0x8000000000000 + code % 0x400000 * 0x20000000)

end Binary64

end QueryGateway
