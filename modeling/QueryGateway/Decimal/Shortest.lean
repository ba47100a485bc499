import QueryGateway.Binary64

/-!
# Shortest decimal digits

A double is the nearest one to every real of an interval around it.  The digits chosen for it are
the fewest that name a real of that interval, and of two such decimals the nearer one; an exact tie
goes to the even digit.  Everything is decided in exact arithmetic on naturals: the value is
`magnitude / 2 ^ 1074`, and a decimal `d * 10 ^ e` is compared with it after both are multiplied
out.

## Main definitions

* `Decimal` — digits with a power of ten.
* `Decimal.shortest` — the digits of a finite positive double.
-/

namespace QueryGateway

-- Powers are those of naturals.
attribute [local instance (2000)] instPowNat

/-- The number `digits * 10 ^ exponent`. -/
structure Decimal where
  digits : Nat
  exponent : Int
  deriving DecidableEq, Repr

namespace Decimal

open Binary

/-- The digits of a natural number, the most significant first. -/
def digitsOf (n : Nat) : List Char := Nat.toDigits 10 n

/-- `num / den` over the grid of multiples of `10 ^ e`: a quotient of naturals. -/
def onGrid (num den : Nat) (e : Int) : Nat × Nat :=
  if e < 0 then (num * 10 ^ e.natAbs, den) else (num, den * 10 ^ e.natAbs)

/-- The reals that round to a positive double: four times its magnitude with both ends, in units of
`2 ^ -1076`, and whether the ends belong to it.  Below a power of two the spacing is halved. -/
structure Interval where
  middle : Nat
  low : Nat
  high : Nat
  closed : Bool

/-- The interval of the double with a code. -/
def Interval.ofCode (code : Nat) : Interval :=
  let magnitude := double.magnitude code
  let spacing := 2 ^ (code / 2 ^ double.fraction - 1)
  let halved := code % 2 ^ double.fraction = 0 ∧ 1 < code / 2 ^ double.fraction
  { middle := 4 * magnitude
    low := 4 * magnitude - (if halved then spacing else 2 * spacing)
    high := 4 * magnitude + 2 * spacing
    closed := code % 2 = 0 }

/-- Whether `d * 10 ^ e` lies in the interval. -/
def Interval.contains (i : Interval) (d : Nat) (e : Int) : Bool :=
  let unit := 2 ^ (double.unit + 2)
  let (low, den) := onGrid i.low unit e
  let (high, _) := onGrid i.high unit e
  if i.closed then low ≤ d * den && d * den ≤ high else low < d * den && d * den < high

/-- The decimal on the grid of `10 ^ e` that lies in the interval and is nearest to its middle. -/
def Interval.nearest? (i : Interval) (e : Int) : Option Nat :=
  let (num, den) := onGrid i.middle (2 ^ (double.unit + 2)) e
  let below := num / den
  match i.contains below e, i.contains (below + 1) e with
  | false, false => none
  | true, false => some below
  | false, true => some (below + 1)
  | true, true => some (divNearest num den)

/-- The least `p` with `value < 10 ^ p`, for a value in units of `2 ^ -1076`, searched upwards. -/
def pointFrom (value : Nat) : Nat → Int → Int
  | 0, p => p
  | fuel + 1, p =>
    let (num, den) := onGrid value (2 ^ (double.unit + 2)) p
    if num < den then p else pointFrom value fuel (p + 1)

/-- Tries grids of one digit, two digits, and so on. -/
def search (i : Interval) (point : Int) : Nat → Nat → Decimal
  | 0, _ => ⟨0, 0⟩
  | fuel + 1, count =>
    let e := point - count
    match i.nearest? e with
    | some d => ⟨d, e⟩
    | none => search i point fuel (count + 1)

/-- Moves zeros at the end of the digits into the exponent. -/
def stripZeros : Nat → Decimal → Decimal
  | 0, d => d
  | fuel + 1, d =>
    if d.digits % 10 = 0 ∧ d.digits ≠ 0 then stripZeros fuel ⟨d.digits / 10, d.exponent + 1⟩ else d

/-- The decimal with the fewest digits that lies in the interval of a positive double; seventeen
digits always suffice. -/
def shortest (x : Binary64) : Decimal :=
  let i := Interval.ofCode x.code
  -- A decimal estimate of the point, from the binary exponent, that is never too high.
  let bits : Int := (i.middle.log2 : Int) - (double.unit + 2)
  let low := Int.fdiv (bits * 30103) 100000
  stripZeros 20 (search i (pointFrom i.middle 4 low) 17 1)

end Decimal

end QueryGateway
