import QueryGateway.Calendar.Date

/-!
# Instants

A point in time is a count of seconds since the start of 1970 in UTC and a count of nanoseconds.
Within a leap second the nanoseconds run from `10 ^ 9` up, on top of the second before it, so a
leap second has a written form of its own and loses nothing.

## Main definitions

* `Instant` — the type; `Instant.ofUnix?` checks a pair of counts.
* `Instant.microseconds`, `Instant.ofMicroseconds?` — microseconds since the year 2000.
* `Instant.rfc3339`, `Instant.plain` — written forms.
-/

namespace QueryGateway

/-- A point in time. -/
structure Instant where
  /-- Seconds since the start of 1970. -/
  seconds : Int
  /-- Nanoseconds; from `10 ^ 9` up within a leap second. -/
  nanos : Nat
  deriving DecidableEq, Repr

namespace Instant

/-- The start of 1970. -/
def epoch : Instant := ⟨0, 0⟩

/-- The day of an instant, in days since the start of 1970. -/
def days (t : Instant) : Int := t.seconds / 86400

/-- The second of the day. -/
def secondOfDay (t : Instant) : Nat := (t.seconds % 86400).toNat

/-- The date of an instant. -/
def date (t : Instant) : Date := Date.ofDays t.days

/-- The year of the instant is admitted. -/
def InRange (t : Instant) : Prop :=
  Date.toDays ⟨Date.minYear, 1, 1⟩ ≤ t.days ∧ t.days ≤ Date.toDays ⟨Date.maxYear, 12, 31⟩

instance (t : Instant) : Decidable t.InRange :=
  inferInstanceAs (Decidable (_ ∧ _))

/-- The instant of two counts, if its year is admitted and nanoseconds beyond a second occur only at
the end of a minute. -/
def ofUnix? (seconds : Int) (nanos : Nat) : Option Instant :=
  let t : Instant := ⟨seconds, nanos⟩
  if t.InRange ∧ (nanos < 1000000000 ∨ (nanos < 2000000000 ∧ seconds % 60 = 59)) then some t else none

/-- The instant at a time of a day. -/
def ofDay (d : Date) (second nanos : Nat) : Instant :=
  ⟨d.toDays * 86400 + second, nanos⟩

/-- Microseconds since the start of 2000, rounded toward zero. -/
def microseconds (t : Instant) : Int :=
  Int.tdiv ((t.seconds - Date.millennium * 86400) * 1000000000 + t.nanos) 1000

/-- The instant so many microseconds after the start of 2000, if its year is admitted. -/
def ofMicroseconds? (n : Int) : Option Instant :=
  let t : Instant :=
    ⟨Date.millennium * 86400 + n / 1000000, (n % 1000000).toNat * 1000⟩
  if t.InRange then some t else none

/-- A number in decimal with zeros up to a width. -/
def padded (width n : Nat) : List Char :=
  let digits := Nat.toDigits 10 n
  List.replicate (width - digits.length) '0' ++ digits

/-- A year: four digits, or a sign and at least four digits beyond them. -/
def yearChars (year : Int) : List Char :=
  if 0 ≤ year ∧ year ≤ 9999 then padded 4 year.natAbs
  else (if year < 0 then '-' else '+') :: padded 4 year.natAbs

/-- A date with dashes. -/
def dateChars (d : Date) : List Char :=
  yearChars d.year ++ '-' :: (padded 2 d.month ++ '-' :: padded 2 d.day)

/-- A fraction of a second in the fewest groups of three digits; nothing for a whole second. -/
def fractionChars (nanos : Nat) : List Char :=
  if nanos = 0 then []
  else if nanos % 1000000 = 0 then '.' :: padded 3 (nanos / 1000000)
  else if nanos % 1000 = 0 then '.' :: padded 6 (nanos / 1000)
  else '.' :: padded 9 nanos

/-- The time of day; a leap second is second 60. -/
def timeChars (t : Instant) : List Char :=
  let s := t.secondOfDay
  let leap := if t.nanos < 1000000000 then 0 else 1
  padded 2 (s / 3600) ++ ':' :: (padded 2 (s / 60 % 60) ++ ':' ::
    (padded 2 (s % 60 + leap) ++ fractionChars (t.nanos % 1000000000)))

/-- The RFC 3339 form of an instant in UTC, with a given text for the offset. -/
def rfc3339With (offset : List Char) (t : Instant) : String :=
  String.ofList (dateChars t.date ++ 'T' :: (timeChars t ++ offset))

/-- The RFC 3339 form with `Z`. -/
def rfc3339 (t : Instant) : String := rfc3339With ['Z'] t

/-- Date and time with a space between and no offset. -/
def plain (t : Instant) : String :=
  String.ofList (dateChars t.date ++ ' ' :: timeChars t)

end Instant

/-- A date with dashes. -/
def Date.text (d : Date) : String := String.ofList (Instant.dateChars d)

end QueryGateway
