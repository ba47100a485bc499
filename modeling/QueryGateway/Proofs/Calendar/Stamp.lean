import Mathlib.Algebra.BigOperators.Intervals
import Mathlib.Data.Rat.Floor
import QueryGateway.Proofs.Calendar.Reading

/-!
# Moments that texts denote

A text in RFC 3339 writes a date, a time of day and an offset, and by these it denotes a moment.  The
date is placed by adding up the lengths of the years and months before it, and the fraction of the
second counts with all its digits.  The reader finds the same moment, up to the nanosecond.

## Main definitions

* `dayNumber` — the days up to a date, year by year and month by month.
* `Stamp`, `Stamp.Writes` — what a text in RFC 3339 says, and the characters that say so.
* `Stamp.moment` — the moment, in seconds from the start of 2000 in UTC.

## Main results

* `Date.toDays_eq` — the count of a date is that of the days up to it.
* `Stamp.exists_writes_of_ofRfc3339?`, `Stamp.admitted_of_ofRfc3339?` — what is read is written by
  the grammar, with fields that are admitted.
* `Stamp.ofRfc3339?_of_writes` — such a text is read, as the instant of its fields.
* `Stamp.microseconds_of_writes` — the moment that is read is the one that is denoted.
-/

namespace QueryGateway

-- Powers are those of naturals.
attribute [local instance (2000)] instPowNat

/-! ### Days -/

/-- The number of a day, counted from the start of the year zero. -/
def dayNumber (year month day : Nat) : Nat :=
  (∑ y ∈ Finset.range year, ∑ m ∈ Finset.Ico 1 13, daysInMonth y m) +
    ∑ m ∈ Finset.Ico 1 month, daysInMonth year m + day

namespace Date

/-- The days of a month follow its first day. -/
theorem toDays_day (year : Int) (month day : Nat) :
    toDays ⟨year, month, day⟩ = toDays ⟨year, month, 1⟩ + day - 1 := by
  unfold toDays
  dsimp only
  split <;> omega

/-- A month ends where the next begins. -/
theorem toDays_month (year : Int) {month : Nat} (h : 1 ≤ month ∧ month ≤ 11) :
    toDays ⟨year, month + 1, 1⟩ = toDays ⟨year, month, 1⟩ + daysInMonth year month := by
  have hcases : month = 1 ∨ month = 2 ∨ month = 3 ∨ month = 4 ∨ month = 5 ∨ month = 6 ∨
      month = 7 ∨ month = 8 ∨ month = 9 ∨ month = 10 ∨ month = 11 := by omega
  rcases hcases with rfl | rfl | rfl | rfl | rfl | rfl | rfl | rfl | rfl | rfl | rfl
  case inr.inl =>
    -- a leap day is the last day of February, and of the year of the count
    by_cases hleap : isLeapYear year = true
    · have hfour := isLeapYear_iff.mp hleap
      simp only [toDays, daysInMonth, Nat.reduceAdd, Nat.reduceLeDiff, Std.le_refl, ↓reduceIte,
        hleap]
      omega
    · have hfour := mt isLeapYear_iff.mpr hleap
      simp only [toDays, daysInMonth, Nat.reduceAdd, Nat.reduceLeDiff, Std.le_refl, ↓reduceIte,
        hleap, Bool.false_eq_true]
      omega
  all_goals
    simp only [toDays, daysInMonth, Nat.reduceAdd, Nat.reduceLeDiff, Std.le_refl, ↓reduceIte]
    omega

/-- A year ends where the next begins. -/
theorem toDays_december (year : Int) :
    toDays ⟨year + 1, 1, 1⟩ = toDays ⟨year, 12, 1⟩ + daysInMonth year 12 := by
  simp only [toDays, daysInMonth, Nat.reduceLeDiff, ↓reduceIte]
  omega

/-- The first day of a month follows the months before it. -/
theorem toDays_first (year : Int) {month : Nat} (h : 1 ≤ month) (hle : month ≤ 12) :
    toDays ⟨year, month, 1⟩ =
      toDays ⟨year, 1, 1⟩ + (∑ m ∈ Finset.Ico 1 month, daysInMonth year m : Nat) := by
  induction month, h using Nat.le_induction with
  | base => simp
  | succ month h ih =>
    rw [toDays_month year (by omega), ih (by omega), Finset.sum_Ico_succ_top h]
    omega

/-- The first day of a year follows the years before it. -/
theorem toDays_newYear (year : Nat) : toDays ⟨year, 1, 1⟩ =
    (∑ y ∈ Finset.range year, ∑ m ∈ Finset.Ico 1 13, daysInMonth y m : Nat) - 719528 := by
  induction year with
  | zero => decide
  | succ year ih =>
    rw [Finset.sum_range_succ, Nat.cast_succ, toDays_december,
      toDays_first year (by decide) (by decide), ih, Finset.sum_Ico_succ_top (b := 12) (by decide)]
    omega

/-- The count of a date is that of the days up to it. -/
theorem toDays_eq {year month : Nat} (day : Nat) (h : 1 ≤ month ∧ month ≤ 12) :
    toDays ⟨year, month, day⟩ = dayNumber year month day - 719529 := by
  rw [toDays_day, toDays_first year h.1 h.2, toDays_newYear]
  unfold dayNumber
  omega

/-- Years of four digits are far from the first and the last year that is admitted. -/
theorem toDays_bounds_of_year {year month day : Nat} (hyear : year < 10000)
    (hmonth : 1 ≤ month ∧ month ≤ 12) (hday : day ≤ 31) :
    -1000000 < toDays ⟨year, month, day⟩ ∧ toDays ⟨year, month, day⟩ < 3000000 := by
  unfold toDays
  dsimp only
  split
  · constructor <;> omega
  · constructor <;> omega

end Date

/-! ### What texts say -/

/-- So many decimal digits, and the number that they write. -/
structure WritesField (width : Nat) (cs : List Char) (n : Nat) : Prop where
  length_eq : cs.length = width
  isDigit : ∀ c ∈ cs, c.isDigit = true
  value_eq : Nat.ofDigitChars 10 cs 0 = n

instance (width : Nat) (cs : List Char) (n : Nat) : Decidable (WritesField width cs n) :=
  decidable_of_iff (cs.length = width ∧ cs.all Char.isDigit = true ∧ Nat.ofDigitChars 10 cs 0 = n)
    ⟨fun h => ⟨h.1, List.all_eq_true.mp h.2.1, h.2.2⟩,
      fun h => ⟨h.1, List.all_eq_true.mpr h.2, h.3⟩⟩

/-- A point with one or more decimal digits, or nothing. -/
inductive WritesFraction : List Char → List Char → Prop
  | none : WritesFraction [] []
  | point {digits : List Char} (hne : digits ≠ []) (hdigits : ∀ c ∈ digits, c.isDigit = true) :
      WritesFraction ('.' :: digits) digits

/-- The sign of an offset, and the factor that it stands for. -/
inductive WritesSign : Char → Int → Prop
  | plus : WritesSign '+' 1
  | minus : WritesSign '-' (-1)
  | typographicMinus : WritesSign '−' (-1)

/-- An offset from UTC, and its seconds. -/
inductive WritesOffset : List Char → Int → Prop
  | utc {letter : Char} (hletter : letter ∈ ['Z', 'z']) : WritesOffset [letter] 0
  | signed {sign : Char} {factor : Int} {hours minutes : List Char} {h m : Nat}
      (hsign : WritesSign sign factor) (hhours : WritesField 2 hours h)
      (hminutes : WritesField 2 minutes m) (hm : m < 60) :
      WritesOffset (sign :: (hours ++ ':' :: minutes)) (factor * (h * 3600 + m * 60 : Nat))

/-- What a text in RFC 3339 says. -/
structure Stamp where
  year : Nat
  month : Nat
  day : Nat
  hour : Nat
  minute : Nat
  second : Nat
  /-- The digits of the fraction of the second, as many as there are. -/
  fraction : List Char
  /-- The offset from UTC in seconds, positive in the east. -/
  offset : Int

namespace Stamp

/-- The characters that say so. -/
inductive Writes : List Char → Stamp → Prop
  | intro {a : Stamp} {year month day hour minute second fraction offset : List Char} {mark : Char}
      (hyear : WritesField 4 year a.year) (hmonth : WritesField 2 month a.month)
      (hday : WritesField 2 day a.day) (hmark : mark ∈ ['T', 't', ' '])
      (hhour : WritesField 2 hour a.hour) (hminute : WritesField 2 minute a.minute)
      (hsecond : WritesField 2 second a.second) (hfraction : WritesFraction fraction a.fraction)
      (hoffset : WritesOffset offset a.offset) :
      Writes (year ++ '-' :: (month ++ '-' :: (day ++ mark :: (hour ++ ':' :: (minute ++
        ':' :: (second ++ (fraction ++ offset))))))) a

/-- The date exists, and the time of day and the offset are less than a day; the last second of a
minute may be a leap second. -/
structure Admitted (a : Stamp) : Prop where
  month : 1 ≤ a.month ∧ a.month ≤ 12
  day : 1 ≤ a.day ∧ a.day ≤ daysInMonth a.year a.month
  hour : a.hour < 24
  minute : a.minute < 60
  second : a.second ≤ 60
  offset : a.offset.natAbs < 86400

/-- The whole seconds of the moment, from the start of 2000 in UTC. -/
def wholeSeconds (a : Stamp) : Int :=
  ((dayNumber a.year a.month a.day : Int) - dayNumber 2000 1 1) * 86400 + a.hour * 3600 +
    a.minute * 60 + a.second - a.offset

/-- The moment that the text denotes, in seconds from the start of 2000 in UTC. -/
def moment (a : Stamp) : ℚ :=
  a.wholeSeconds + (Nat.ofDigitChars 10 a.fraction 0 : ℚ) / 10 ^ a.fraction.length

/-- The microseconds from the start of 2000 up to a moment: its whole nanoseconds, rounded toward
zero. -/
def microsecondsOf (x : ℚ) : Int := Int.tdiv ⌊x * 1000000000⌋ 1000

end Stamp

/-! ### What is read -/

namespace Calendar

/-- The nanoseconds that the digits of a fraction are read as. -/
def keptNanos (digits : List Char) : Nat :=
  Numeral.natOf (digits.take 9) * 10 ^ (9 - (digits.take 9).length)

/-- A field is read as its number, whatever follows. -/
theorem number_of_writesField {width n : Nat} {cs : List Char} (hwidth : 0 < width)
    (h : WritesField width cs n) (rest : List Char) :
    number width (some width) (cs ++ rest) = some (n, rest) := by
  obtain ⟨hlength, hdigits, hvalue⟩ := h
  have hrun : ((cs ++ rest).takeWhile Char.isDigit).take width = cs := by
    rw [List.takeWhile_append_of_pos hdigits, ← hlength, List.take_left]
  have hne : cs ≠ [] := List.ne_nil_of_length_pos (by omega)
  have hread : ¬(cs.length < width ∨ cs = []) := by
    rw [hlength]
    exact not_or.mpr ⟨Nat.lt_irrefl width, hne⟩
  simp only [number, hrun, if_neg hread, List.drop_left, Numeral.natOf_eq_ofDigitChars, hvalue]

theorem lt_of_writesField {width n : Nat} {cs : List Char} (h : WritesField width cs n) :
    n < 10 ^ width := by
  rw [← h.value_eq, ← h.length_eq]
  exact Numeral.natOf_lt h.isDigit

/-- Where reading goes on after a field, the field was written. -/
theorem exists_writesField_of_bind {α : Type} {width : Nat} {cs : List Char}
    {next : Nat × List Char → Option α} {a : α}
    (h : (number width (some width) cs).bind next = some a) :
    ∃ field n rest, WritesField width field n ∧ cs = field ++ rest ∧ next (n, rest) = some a := by
  obtain ⟨⟨n, rest⟩, hread, h⟩ := Option.bind_eq_some_iff.mp h
  unfold number at hread
  dsimp only at hread
  split at hread
  · cases hread
  · next hlong =>
    cases hread
    have hprefix := (List.take_prefix width _).trans (List.takeWhile_prefix Char.isDigit (l := cs))
    have hdigits : ∀ c ∈ (cs.takeWhile Char.isDigit).take width, c.isDigit = true :=
      fun c hc => List.all_eq_true.mp List.all_takeWhile c (List.mem_of_mem_take hc)
    have hle := List.length_take_le width (cs.takeWhile Char.isDigit)
    exact ⟨_, _, _, ⟨by omega, hdigits, rfl⟩, (List.prefix_iff_eq_append.mp hprefix).symm, h⟩

/-- Where reading goes on after a character, it was there. -/
theorem exists_cons_of_bind_char {α : Type} {c : Char} {cs : List Char}
    {next : Unit × List Char → Option α} {a : α} (h : (char c cs).bind next = some a) :
    ∃ rest, cs = c :: rest ∧ next ((), rest) = some a := by
  cases cs with
  | nil => cases h
  | cons d rest =>
    by_cases hd : c = d
    · subst hd
      rw [char_cons] at h
      exact ⟨rest, rfl, h⟩
    · rw [char, if_neg hd] at h
      cases h

theorem dateTimeMark_cons {mark : Char} (h : mark ∈ ['T', 't', ' ']) (rest : List Char) :
    dateTimeMark (mark :: rest) = some ((), rest) := by
  simp only [List.mem_cons, List.not_mem_nil, or_false] at h
  obtain rfl | rfl | rfl := h <;> rfl

theorem exists_eq_cons_of_dateTimeMark {cs rest : List Char} {u : Unit}
    (h : dateTimeMark cs = some (u, rest)) : ∃ mark ∈ ['T', 't', ' '], cs = mark :: rest := by
  unfold dateTimeMark at h
  split at h
  case h_4 => cases h
  all_goals
    cases h
    exact ⟨_, by decide, rfl⟩

/-- A fraction is read up to its ninth digit, in front of what is neither a digit nor a point. -/
theorem optionalFraction_of_writesFraction {cs digits rest : List Char}
    (h : WritesFraction cs digits) (hrest : ∀ c ∈ rest.head?, c.isDigit = false ∧ c ≠ '.') :
    optionalFraction (cs ++ rest) = some (keptNanos digits, rest) := by
  cases h with
  | none =>
    unfold optionalFraction
    rw [List.nil_append]
    split
    · exact absurd rfl (hrest '.' rfl).2
    · rfl
  | point hne hdigits =>
    have hrun := takeWhile_digits hdigits (fun c hc => (hrest c hc).1 : EndsDigits rest)
    rw [List.cons_append, optionalFraction_point]
    simp only [fraction, hrun, if_neg hne, List.drop_left, keptNanos]

theorem exists_writesFraction {cs rest : List Char} {nanos : Nat}
    (h : optionalFraction cs = some (nanos, rest)) :
    ∃ text digits, WritesFraction text digits ∧ cs = text ++ rest := by
  unfold optionalFraction at h
  split at h
  · next after =>
    unfold fraction at h
    dsimp only at h
    split at h
    · cases h
    · next hne =>
      cases h
      have hdigits : ∀ c ∈ after.takeWhile Char.isDigit, c.isDigit = true :=
        List.all_eq_true.mp List.all_takeWhile
      have hprefix := List.takeWhile_prefix Char.isDigit (l := after)
      exact ⟨_, _, .point hne hdigits,
        congrArg ('.' :: ·) (List.prefix_iff_eq_append.mp hprefix).symm⟩
  · cases h
    exact ⟨[], [], .none, rfl⟩

/-- What an offset starts with ends a fraction. -/
theorem head_of_writesOffset {cs : List Char} {seconds : Int} (h : WritesOffset cs seconds) :
    ∀ c ∈ cs.head?, c.isDigit = false ∧ c ≠ '.' := by
  intro c hc
  cases h with
  | utc hletter =>
    obtain rfl := Option.some.inj hc
    simp only [List.mem_cons, List.not_mem_nil, or_false] at hletter
    obtain rfl | rfl := hletter <;> decide
  | signed hsign =>
    obtain rfl := Option.some.inj hc
    cases hsign <;> decide

/-- A sign is read as its factor, and no other character is a sign. -/
theorem offsetSign_eq_some_iff {cs rest : List Char} {factor : Int} :
    offsetSign cs = some (factor, rest) ↔ ∃ sign, WritesSign sign factor ∧ cs = sign :: rest := by
  constructor
  · intro h
    unfold offsetSign at h
    split at h <;> cases h
    · exact ⟨_, .plus, rfl⟩
    · exact ⟨_, .minus, rfl⟩
    · exact ⟨_, .typographicMinus, rfl⟩
  · rintro ⟨sign, hsign, rfl⟩
    cases hsign <;> rfl

/-- Hours and minutes follow a sign. -/
theorem offset_of_writesSign {sign : Char} {factor : Int} (hsign : WritesSign sign factor)
    (between : List Char → Option (List Char)) (cs : List Char) :
    offset between (sign :: cs) = (number 2 (some 2) cs).bind fun hours =>
      (between hours.2).bind fun cs => (number 2 (some 2) cs).bind fun minutes =>
        if minutes.1 < 60 then some (factor * (hours.1 * 3600 + minutes.1 * 60 : Nat), minutes.2)
        else none := by
  cases hsign <;> rfl

/-- An offset is read as its seconds. -/
theorem offset_of_writesOffset {cs : List Char} {seconds : Int} (h : WritesOffset cs seconds) :
    offset skipColon cs = some (seconds, []) := by
  cases h with
  | utc hletter =>
    simp only [List.mem_cons, List.not_mem_nil, or_false] at hletter
    obtain rfl | rfl := hletter <;> rfl
  | signed hsign hhours hminutes hm =>
    have hlast := number_of_writesField (by decide) hminutes []
    rw [List.append_nil] at hlast
    simp only [offset_of_writesSign hsign, number_of_writesField (by decide) hhours,
      Option.bind_some, skipColon, char_cons, Option.map_some, hlast, if_pos hm]

theorem exists_writesOffset {cs rest : List Char} {seconds : Int}
    (h : offset skipColon cs = some (seconds, rest)) :
    ∃ text, WritesOffset text seconds ∧ cs = text ++ rest := by
  unfold offset at h
  split at h
  case h_1 | h_2 =>
    cases h
    exact ⟨_, .utc (by decide), rfl⟩
  obtain ⟨⟨factor, _⟩, h₁, h₂⟩ := Option.bind_eq_some_iff.mp h
  obtain ⟨sign, hsign, rfl⟩ := offsetSign_eq_some_iff.mp h₁
  obtain ⟨hours, _, _, hhours, rfl, h₃⟩ := exists_writesField_of_bind h₂
  obtain ⟨_, hcolon, h₄⟩ := Option.bind_eq_some_iff.mp h₃
  rw [skipColon, Option.map_eq_bind] at hcolon
  obtain ⟨_, rfl, heq⟩ := exists_cons_of_bind_char hcolon
  obtain rfl := Option.some.inj heq
  obtain ⟨minutes, _, _, hminutes, rfl, h₅⟩ := exists_writesField_of_bind h₄
  dsimp only at h₅
  split at h₅
  · next hlt =>
    obtain ⟨rfl, rfl⟩ := Prod.mk.inj (Option.some.inj h₅)
    refine ⟨_, .signed hsign hhours hminutes hlt, ?_⟩
    rw [List.cons_append, List.append_assoc, List.cons_append]
  · cases h₅

/-- Reading goes on with what was read. -/
theorem bind_of_eq_some {α β : Type} {x : Option α} {a : α} {next : α → Option β}
    (h : x = some a) : (x >>= next) = next a := by
  subst h
  rfl

/-- The fields that are written are read. -/
theorem strictFields_of_writes {year month day hour minute second fraction rest digits : List Char}
    {y m d h i s : Nat} {mark : Char}
    (hyear : WritesField 4 year y) (hmonth : WritesField 2 month m)
    (hday : WritesField 2 day d) (hmark : mark ∈ ['T', 't', ' '])
    (hhour : WritesField 2 hour h) (hminute : WritesField 2 minute i)
    (hsecond : WritesField 2 second s) (hfraction : WritesFraction fraction digits)
    (hrest : ∀ c ∈ rest.head?, c.isDigit = false ∧ c ≠ '.') :
    strictFields (year ++ '-' :: (month ++ '-' :: (day ++ mark :: (hour ++ ':' :: (minute ++
        ':' :: (second ++ (fraction ++ rest))))))) = (Date.ofCivil? y m d).bind fun date =>
      (timeOfDay? h i s (keptNanos digits)).bind fun time => some ((date, time), rest) := by
  unfold strictFields
  refine (bind_of_eq_some (number_of_writesField (by decide) hyear _)).trans ?_
  refine (bind_of_eq_some (char_cons '-' _)).trans ?_
  refine (bind_of_eq_some (number_of_writesField (by decide) hmonth _)).trans ?_
  refine (bind_of_eq_some (char_cons '-' _)).trans ?_
  refine (bind_of_eq_some (number_of_writesField (by decide) hday _)).trans ?_
  refine (bind_of_eq_some (dateTimeMark_cons hmark _)).trans ?_
  refine (bind_of_eq_some (number_of_writesField (by decide) hhour _)).trans ?_
  refine (bind_of_eq_some (char_cons ':' _)).trans ?_
  refine (bind_of_eq_some (number_of_writesField (by decide) hminute _)).trans ?_
  refine (bind_of_eq_some (char_cons ':' _)).trans ?_
  refine (bind_of_eq_some (number_of_writesField (by decide) hsecond _)).trans ?_
  exact bind_of_eq_some (optionalFraction_of_writesFraction hfraction hrest)

end Calendar

namespace Stamp

open Calendar

/-- What is read is written by the grammar. -/
theorem exists_writes_of_ofRfc3339? {text : String} {t : Instant}
    (h : Instant.ofRfc3339? text = some t) : ∃ a, Writes text.toList a := by
  unfold Instant.ofRfc3339? at h
  generalize text.toList = cs at h ⊢
  obtain ⟨⟨⟨date, time⟩, _⟩, hfields, h⟩ := Option.bind_eq_some_iff.mp h
  obtain ⟨⟨seconds, left⟩, hlast, h⟩ := Option.bind_eq_some_iff.mp h
  dsimp only at h
  split at h
  case isFalse => cases h
  next hend =>
    obtain ⟨rfl, -⟩ := hend
    obtain ⟨offset, hoffset, rfl⟩ := exists_writesOffset hlast
    obtain ⟨year, _, _, hyear, rfl, h₁⟩ := exists_writesField_of_bind hfields
    obtain ⟨_, rfl, h₂⟩ := exists_cons_of_bind_char h₁
    obtain ⟨month, _, _, hmonth, rfl, h₃⟩ := exists_writesField_of_bind h₂
    obtain ⟨_, rfl, h₄⟩ := exists_cons_of_bind_char h₃
    obtain ⟨day, _, _, hday, rfl, h₅⟩ := exists_writesField_of_bind h₄
    obtain ⟨⟨_, _⟩, h₆, h₇⟩ := Option.bind_eq_some_iff.mp h₅
    obtain ⟨mark, hmark, rfl⟩ := exists_eq_cons_of_dateTimeMark h₆
    obtain ⟨hour, _, _, hhour, rfl, h₈⟩ := exists_writesField_of_bind h₇
    obtain ⟨_, rfl, h₉⟩ := exists_cons_of_bind_char h₈
    obtain ⟨minute, _, _, hminute, rfl, h₁₀⟩ := exists_writesField_of_bind h₉
    obtain ⟨_, rfl, h₁₁⟩ := exists_cons_of_bind_char h₁₀
    obtain ⟨second, _, _, hsecond, rfl, h₁₂⟩ := exists_writesField_of_bind h₁₁
    obtain ⟨⟨_, _⟩, h₁₃, h₁₄⟩ := Option.bind_eq_some_iff.mp h₁₂
    obtain ⟨fraction, digits, hfraction, rfl⟩ := exists_writesFraction h₁₃
    obtain ⟨civil, -, h₁₅⟩ := Option.bind_eq_some_iff.mp h₁₄
    obtain ⟨read, -, h₁₆⟩ := Option.bind_eq_some_iff.mp h₁₅
    obtain ⟨-, hrest⟩ := Prod.mk.inj (Option.some.inj h₁₆)
    rw [hrest, List.append_nil]
    exact ⟨⟨_, _, _, _, _, _, _, _⟩,
      .intro hyear hmonth hday hmark hhour hminute hsecond hfraction hoffset⟩

/-- The instant that is read.  A leap second is a second on top of the one before it. -/
def instant (a : Stamp) : Instant :=
  ⟨Date.toDays ⟨a.year, a.month, a.day⟩ * 86400 +
      (a.hour * 3600 + a.minute * 60 + min a.second 59 : Nat) - a.offset,
    (if a.second = 60 then 1000000000 else 0) + keptNanos a.fraction⟩

theorem inRange_instant {a : Stamp} (hyear : a.year < 10000) (ha : a.Admitted) :
    a.instant.InRange := by
  obtain ⟨hmonth, hday, hhour, hminute, hsecond, hoffset⟩ := ha
  have hlast := Date.daysInMonth_le a.year a.month
  have hdays := Date.toDays_bounds_of_year hyear hmonth (hday.2.trans hlast)
  have hmin : Date.toDays ⟨Date.minYear, 1, 1⟩ = -96465292 := by decide
  have hmax : Date.toDays ⟨Date.maxYear, 12, 31⟩ = 95026236 := by decide
  unfold Instant.InRange Instant.days instant
  rw [hmin, hmax]
  dsimp only
  constructor <;> omega

/-- A text with fields that are admitted is read as the instant of these. -/
theorem ofRfc3339?_of_writes {text : String} {a : Stamp} (h : Writes text.toList a)
    (ha : a.Admitted) : Instant.ofRfc3339? text = some a.instant := by
  unfold Instant.ofRfc3339?
  generalize text.toList = cs at h
  cases h with
  | intro hyear hmonth hday hmark hhour hminute hsecond hfraction hoffset =>
    have hlt := lt_of_writesField hyear
    have hcivil : Date.ofCivil? a.year a.month a.day = some ⟨a.year, a.month, a.day⟩ := by
      refine if_pos ⟨?_, ?_, ha.month.1, ha.month.2, ha.day.1, ha.day.2⟩
      · show (-262143 : Int) ≤ a.year
        omega
      · show (a.year : Int) ≤ 262142
        omega
    have htime : timeOfDay? a.hour a.minute a.second (keptNanos a.fraction) =
        some (a.hour * 3600 + a.minute * 60 + min a.second 59,
          (if a.second = 60 then 1000000000 else 0) + keptNanos a.fraction) := by
      refine (if_pos ⟨ha.hour, ha.minute, ha.second⟩).trans ?_
      split
      · next hleap => rw [hleap, Nat.min_eq_right (by decide)]
      · next hleap =>
        rw [Nat.zero_add, Nat.min_eq_left (Nat.le_of_lt_succ (Nat.lt_of_le_of_ne ha.second hleap))]
    have hinstant : instant? ⟨a.year, a.month, a.day⟩
        (a.hour * 3600 + a.minute * 60 + min a.second 59,
          (if a.second = 60 then 1000000000 else 0) + keptNanos a.fraction) a.offset =
        some a.instant :=
      if_pos (inRange_instant hlt ha)
    rw [strictFields_of_writes hyear hmonth hday hmark hhour hminute hsecond hfraction
      (head_of_writesOffset hoffset), hcivil, Option.bind_some, htime, Option.bind_some]
    refine (bind_of_eq_some rfl).trans ?_
    refine (bind_of_eq_some (offset_of_writesOffset hoffset)).trans ?_
    dsimp only
    rw [if_pos ⟨rfl, ha.offset⟩, hinstant]

/-- Only a text with fields that are admitted is read. -/
theorem admitted_of_ofRfc3339? {text : String} {a : Stamp} {t : Instant}
    (h : Writes text.toList a) (ht : Instant.ofRfc3339? text = some t) : a.Admitted := by
  unfold Instant.ofRfc3339? at ht
  generalize text.toList = cs at h ht
  cases h with
  | intro hyear hmonth hday hmark hhour hminute hsecond hfraction hoffset =>
    rw [strictFields_of_writes hyear hmonth hday hmark hhour hminute hsecond hfraction
      (head_of_writesOffset hoffset)] at ht
    obtain ⟨⟨⟨date, time⟩, rest⟩, hfields, h₁⟩ := Option.bind_eq_some_iff.mp ht
    obtain ⟨civil, hcivil, h₂⟩ := Option.bind_eq_some_iff.mp hfields
    obtain ⟨read, hread, h₃⟩ := Option.bind_eq_some_iff.mp h₂
    cases h₃
    obtain ⟨⟨seconds, left⟩, hseconds, h₄⟩ := Option.bind_eq_some_iff.mp h₁
    rw [offset_of_writesOffset hoffset] at hseconds
    cases hseconds
    dsimp only at h₄
    obtain ⟨⟨-, hday⟩, -⟩ := Option.ite_none_right_eq_some.mp h₄
    obtain ⟨⟨-, -, hm, hm', hd, hd'⟩, -⟩ := Option.ite_none_right_eq_some.mp hcivil
    obtain ⟨⟨hh, hi, hs⟩, -⟩ := Option.ite_none_right_eq_some.mp hread
    exact ⟨⟨hm, hm'⟩, ⟨hd, hd'⟩, hh, hi, hs, hday⟩

/-! ### The moment -/

theorem Writes.isDigit_fraction {cs : List Char} {a : Stamp} (h : Writes cs a) :
    ∀ c ∈ a.fraction, c.isDigit = true := by
  obtain ⟨-, -, -, -, -, -, -, hfraction, -⟩ := h
  generalize a.fraction = digits at hfraction
  cases hfraction with
  | none => nofun
  | point hne hdigits => exact hdigits

/-- The nanoseconds that are kept of a fraction are its whole ones. -/
theorem div_fraction {digits : List Char} (h : ∀ c ∈ digits, c.isDigit = true) :
    Nat.ofDigitChars 10 digits 0 * 10 ^ 9 / 10 ^ digits.length = keptNanos digits := by
  unfold keptNanos
  rcases Nat.lt_or_ge 9 digits.length with hlt | hle
  · have hkept : (digits.take 9).length = 9 := List.length_take_of_le (Nat.le_of_lt hlt)
    have hlength : digits.length = (digits.drop 9).length + 9 := by
      rw [List.length_drop]
      omega
    have hleft : Nat.ofDigitChars 10 (digits.drop 9) 0 < 10 ^ (digits.drop 9).length :=
      Numeral.natOf_lt fun c hc => h c (List.mem_of_mem_drop hc)
    have hvalue : Nat.ofDigitChars 10 digits 0 =
        10 ^ (digits.drop 9).length * Numeral.natOf (digits.take 9) +
          Nat.ofDigitChars 10 (digits.drop 9) 0 := by
      conv_lhs => rw [← List.take_append_drop 9 digits]
      rw [Nat.ofDigitChars_append, Nat.ofDigitChars_eq_ofDigitChars_zero]
      rfl
    rw [hvalue, hlength, Nat.pow_add, Nat.mul_div_mul_right _ _ (Nat.pow_pos (by decide)),
      Nat.mul_add_div (Nat.pow_pos (by decide)), Nat.div_eq_of_lt hleft, hkept, Nat.sub_self,
      Nat.pow_zero, Nat.mul_one, Nat.add_zero]
  · have hpow : 10 ^ 9 = 10 ^ (9 - digits.length) * 10 ^ digits.length := by
      rw [← Nat.pow_add, Nat.sub_add_cancel hle]
    rw [List.take_of_length_le hle, Numeral.natOf_eq_ofDigitChars, hpow, ← Nat.mul_assoc,
      Nat.mul_div_cancel _ (Nat.pow_pos (by decide))]

/-- The whole nanoseconds up to the moment. -/
theorem floor_moment {a : Stamp} (h : ∀ c ∈ a.fraction, c.isDigit = true) :
    ⌊a.moment * 1000000000⌋ = a.wholeSeconds * 1000000000 + keptNanos a.fraction := by
  have hsplit : a.moment * 1000000000 = ((a.wholeSeconds * 1000000000 : Int) : ℚ) +
      ((Nat.ofDigitChars 10 a.fraction 0 * 10 ^ 9 : Nat) : ℚ) /
        ((10 ^ a.fraction.length : Nat) : ℚ) := by
    unfold moment
    push_cast
    ring
  rw [hsplit, Int.floor_intCast_add, Rat.floor_natCast_div_natCast, ← Int.natCast_ediv,
    div_fraction h]

/-- Later moments do not have fewer microseconds. -/
theorem microsecondsOf_mono {x y : ℚ} (h : x ≤ y) : microsecondsOf x ≤ microsecondsOf y :=
  Int.tdiv_le_tdiv (by decide) (Int.floor_mono (mul_le_mul_of_nonneg_right h (by norm_num)))

/-- The microseconds of what is read are those of the moment that is denoted. -/
theorem microseconds_of_writes {text : String} {a : Stamp} {t : Instant}
    (h : Writes text.toList a) (hsecond : a.second < 60)
    (ht : Instant.ofRfc3339? text = some t) : t.microseconds = microsecondsOf a.moment := by
  have ha := admitted_of_ofRfc3339? h ht
  obtain rfl : a.instant = t := Option.some.inj ((ofRfc3339?_of_writes h ha).symm.trans ht)
  have hdays := @Date.toDays_eq a.year a.month a.day ha.month
  have hmillennium : Date.millennium = dayNumber 2000 1 1 - 719529 :=
    Date.toDays_eq 1 (by decide)
  have hseconds : a.instant.seconds - Date.millennium * 86400 = a.wholeSeconds := by
    unfold instant wholeSeconds
    dsimp only
    rw [hmillennium, hdays, Nat.min_eq_left (by omega)]
    push_cast
    ring
  have hnanos : a.instant.nanos = keptNanos a.fraction := by
    unfold instant
    rw [if_neg (by omega), Nat.zero_add]
  rw [Instant.microseconds, hseconds, hnanos, microsecondsOf, floor_moment h.isDigit_fraction]

end Stamp

end QueryGateway
