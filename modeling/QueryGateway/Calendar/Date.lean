/-!
# Civil dates

Dates of the proleptic Gregorian calendar.  A date is placed on the number line by counting days;
the count shifts the year to start in March, so that a leap day is the last of its year.

## Main definitions

* `Date` — a civil date; `Date.ofCivil?` makes one within the years that the gateway admits.
* `Date.toDays`, `Date.ofDays` — days since the first of January 1970.
-/

namespace QueryGateway

/-- Whether the year has a leap day. -/
def isLeapYear (year : Int) : Bool :=
  year % 4 == 0 && (year % 100 != 0 || year % 400 == 0)

/-- The number of days of a month. -/
def daysInMonth (year : Int) (month : Nat) : Nat :=
  match month with
  | 2 => if isLeapYear year then 29 else 28
  | 4 | 6 | 9 | 11 => 30
  | _ => 31

/-- A civil date. -/
structure Date where
  year : Int
  month : Nat
  day : Nat
  deriving DecidableEq, Repr

namespace Date

/-- The first year that the gateway admits. -/
def minYear : Int := -262143

/-- The last year that the gateway admits. -/
def maxYear : Int := 262142

/-- The date exists and its year is admitted. -/
def Valid (d : Date) : Prop :=
  minYear ≤ d.year ∧ d.year ≤ maxYear ∧ 1 ≤ d.month ∧ d.month ≤ 12 ∧
    1 ≤ d.day ∧ d.day ≤ daysInMonth d.year d.month

instance (d : Date) : Decidable d.Valid :=
  inferInstanceAs (Decidable (_ ∧ _))

/-- The date with a year, a month and a day, if it exists and its year is admitted. -/
def ofCivil? (year : Int) (month day : Nat) : Option Date :=
  if Valid ⟨year, month, day⟩ then some ⟨year, month, day⟩ else none

/-- Days since the first of January 1970. -/
def toDays (d : Date) : Int :=
  let y := if d.month ≤ 2 then d.year - 1 else d.year
  let m : Int := if d.month ≤ 2 then d.month + 9 else d.month - 3
  let yearOfEra := y % 400
  let dayOfYear := (153 * m + 2) / 5 + d.day - 1
  y / 400 * 146097 + (yearOfEra * 365 + yearOfEra / 4 - yearOfEra / 100 + dayOfYear) - 719468

/-- The date so many days after the first of January 1970. -/
def ofDays (days : Int) : Date :=
  let z := days + 719468
  let dayOfEra := z % 146097
  let yearOfEra := (dayOfEra - dayOfEra / 1460 + dayOfEra / 36524 - dayOfEra / 146096) / 365
  let dayOfYear := dayOfEra - (365 * yearOfEra + yearOfEra / 4 - yearOfEra / 100)
  let m := (5 * dayOfYear + 2) / 153
  let day := dayOfYear - (153 * m + 2) / 5 + 1
  let month := if m < 10 then m + 3 else m - 9
  let year := yearOfEra + z / 146097 * 400
  ⟨if month ≤ 2 then year + 1 else year, month.toNat, day.toNat⟩

/-- The first of January 2000, in days. -/
def millennium : Int := toDays ⟨2000, 1, 1⟩

@[simp] theorem millennium_eq : millennium = 10957 := by decide

/-- What `ofCivil?` makes is valid. -/
theorem valid_of_ofCivil? {year : Int} {month day : Nat} {d : Date}
    (h : ofCivil? year month day = some d) : d.Valid := by
  unfold ofCivil? at h
  split at h
  · next valid => cases h; exact valid
  · cases h

end Date

end QueryGateway
