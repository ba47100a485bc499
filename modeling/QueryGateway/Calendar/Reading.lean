import QueryGateway.Calendar.Instant
import QueryGateway.Decimal.Numeral
import QueryGateway.Text.Blank

/-!
# Reading dates and times

Three grammars.  RFC 3339 proper has fields of fixed width and a colon in the offset.  The relaxed
form, which job messages may use, admits blanks around the fields, fields of fewer digits, signed
years of any length and looser offsets.  Timestamps without an offset are read like the relaxed
form, up to the separator between date and time.

## Main definitions

* `Instant.ofRfc3339?`, `Instant.ofRelaxed?` — instants with an offset.
* `Instant.ofPlain?` — timestamps without one, taken as UTC.
* `Date.ofText?` — dates.
-/

namespace QueryGateway

-- Powers are those of naturals.
attribute [local instance (2000)] instPowNat

namespace Calendar

/-- What is left of the input, with the value read from its start. -/
abbrev Scan (α : Type) := List Char → Option (α × List Char)

/-- The input without leading blanks. -/
def skipBlank (cs : List Char) : List Char := cs.dropWhile Text.isBlank

/-- At least `least` and at most `most` digits, as a number. -/
def number (least : Nat) (most : Option Nat) : Scan Nat := fun cs =>
  let run := cs.takeWhile Char.isDigit
  let digits := match most with | some n => run.take n | none => run
  if digits.length < least ∨ digits = [] then none
  else some (Numeral.natOf digits, cs.drop digits.length)

/-- A given character. -/
def char (c : Char) : Scan Unit
  | d :: rest => if c = d then some ((), rest) else none
  | [] => none

/-- The separator between date and time: a space or a `T` of either case. -/
def dateTimeMark : Scan Unit
  | 'T' :: rest | 't' :: rest | ' ' :: rest => some ((), rest)
  | _ => none

/-- A fraction of a second after its point, in nanoseconds; digits after the ninth are dropped. -/
def fraction : Scan Nat := fun cs =>
  let run := cs.takeWhile Char.isDigit
  if run = [] then none
  else
    let kept := run.take 9
    some (Numeral.natOf kept * 10 ^ (9 - kept.length), cs.drop run.length)

/-- A fraction of a second with its point, or nothing. -/
def optionalFraction : Scan Nat
  | '.' :: rest => fraction rest
  | cs => some (0, cs)

/-- The sign of an offset; the typographic minus counts. -/
def offsetSign : Scan Int
  | '+' :: rest => some (1, rest)
  | '-' :: rest | '−' :: rest => some (-1, rest)
  | _ => none

/-- The blanks and colons that the relaxed form admits between hours and minutes of an offset. -/
def skipLooseColon (cs : List Char) : Option (List Char) :=
  some (cs.dropWhile fun c => c == ':' || Text.isBlank c)

/-- The one colon of RFC 3339. -/
def skipColon (cs : List Char) : Option (List Char) :=
  (char ':' cs).map Prod.snd

/-- An offset from UTC in seconds: a `Z` of either case, or a sign, hours and minutes. -/
def offset (between : List Char → Option (List Char)) : Scan Int
  | 'Z' :: rest | 'z' :: rest => some (0, rest)
  | cs => do
    let (sign, cs) ← offsetSign cs
    let (hours, cs) ← number 2 (some 2) cs
    let cs ← between cs
    let (minutes, cs) ← number 2 (some 2) cs
    if minutes < 60 then some (sign * (hours * 3600 + minutes * 60 : Nat), cs) else none

/-- A time of day: seconds, and nanoseconds that run beyond a second in second 60. -/
def timeOfDay? (hour minute second nanos : Nat) : Option (Nat × Nat) :=
  if hour < 24 ∧ minute < 60 ∧ second ≤ 60 then
    if second = 60 then some (hour * 3600 + minute * 60 + 59, 1000000000 + nanos)
    else some (hour * 3600 + minute * 60 + second, nanos)
  else none

/-- The instant of a date, a time of day and an offset, if its year is admitted there and in UTC. -/
def instant? (date : Date) (time : Nat × Nat) (offset : Int) : Option Instant :=
  let t := Instant.ofDay date time.1 time.2
  let utc : Instant := { t with seconds := t.seconds - offset }
  if utc.InRange then some utc else none

/-- The date and time fields of RFC 3339. -/
def strictFields : Scan (Date × (Nat × Nat)) := fun cs => do
  let (year, cs) ← number 4 (some 4) cs
  let (_, cs) ← char '-' cs
  let (month, cs) ← number 2 (some 2) cs
  let (_, cs) ← char '-' cs
  let (day, cs) ← number 2 (some 2) cs
  let (_, cs) ← dateTimeMark cs
  let (hour, cs) ← number 2 (some 2) cs
  let (_, cs) ← char ':' cs
  let (minute, cs) ← number 2 (some 2) cs
  let (_, cs) ← char ':' cs
  let (second, cs) ← number 2 (some 2) cs
  let (nanos, cs) ← optionalFraction cs
  let date ← Date.ofCivil? year month day
  let time ← timeOfDay? hour minute second nanos
  return ((date, time), cs)

/-- A year: up to four digits, or a sign and any number of digits. -/
def looseYear : Scan Int := fun cs =>
  match skipBlank cs with
  | '-' :: rest => (number 1 none rest).map fun (n, left) => (-(n : Int), left)
  | '+' :: rest => (number 1 none rest).map fun (n, left) => ((n : Int), left)
  | rest => (number 1 (some 4) rest).map fun (n, left) => ((n : Int), left)

/-- One or two digits after blanks. -/
def looseField : Scan Nat := fun cs => number 1 (some 2) (skipBlank cs)

/-- A date whose fields may be padded with blanks. -/
def looseDate (padded : Bool) : Scan Date := fun cs => do
  let skip := if padded then skipBlank else id
  let (year, cs) ← looseYear cs
  let (_, cs) ← char '-' (skip cs)
  let (month, cs) ← looseField cs
  let (_, cs) ← char '-' (skip cs)
  let (day, cs) ← looseField cs
  let date ← Date.ofCivil? year month day
  return (date, cs)

/-- A time of day whose fields may be padded with blanks. -/
def looseTime (padded : Bool) : Scan (Nat × Nat) := fun cs => do
  let skip := if padded then skipBlank else id
  let (hour, cs) ← looseField cs
  let (_, cs) ← char ':' (skip cs)
  let (minute, cs) ← looseField cs
  let (_, cs) ← char ':' (skip cs)
  let (second, cs) ← looseField cs
  let (nanos, cs) ← optionalFraction cs
  let time ← timeOfDay? hour minute second nanos
  return (time, cs)

/-- The offset of the relaxed form: the letters `UTC` of any case, or hours and minutes with loose
separators. -/
def looseOffset : Scan Int
  | a :: b :: c :: rest =>
    if [a, b, c].map Char.toUpper = ['U', 'T', 'C'] then some (0, rest)
    else offset skipLooseColon (a :: b :: c :: rest)
  | cs => offset skipLooseColon cs

end Calendar

open Calendar

/-- The instant that a text in RFC 3339 denotes. -/
def Instant.ofRfc3339? (text : String) : Option Instant := do
  let ((date, time), cs) ← strictFields text.toList
  let (offset, cs) ← offset skipColon cs
  if cs = [] ∧ offset.natAbs < 86400 then instant? date time offset else none

/-- The instant that a text in the relaxed form denotes. -/
def Instant.ofRelaxed? (text : String) : Option Instant := do
  let (date, cs) ← looseDate true text.toList
  let (_, cs) ← dateTimeMark cs
  let (time, cs) ← looseTime true cs
  let (offset, cs) ← looseOffset (skipBlank cs)
  if skipBlank cs = [] ∧ offset.natAbs < 86400 then instant? date time offset else none

/-- The instant that a timestamp without an offset denotes in UTC.  The separator is a `T`, or
blanks, of which there may be none. -/
def Instant.ofPlain? (mark : Option Char) (text : String) : Option Instant := do
  let (date, cs) ← looseDate false text.toList
  let cs ← match mark with
    | some c => (char c cs).map Prod.snd
    | none => some (skipBlank cs)
  let (time, cs) ← looseTime false cs
  if cs = [] then instant? date time 0 else none

/-- The date that a text writes. -/
def Date.ofText? (text : String) : Option Date := do
  let (date, cs) ← looseDate false text.toList
  if cs = [] then some date else none

end QueryGateway
