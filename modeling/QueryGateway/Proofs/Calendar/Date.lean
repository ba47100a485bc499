import QueryGateway.Calendar.Instant

/-!
# Dates and days

Counting days and finding the date of a count undo each other.  An era of four hundred years is cut
into centuries, runs of four years, years and days, each year starting in March; the divisions that
find the year of a day are exact on these parts.

## Main definitions

* `Date.EraDay` — a day of an era as centuries, runs of four years, years and days.

## Main results

* `Date.toDays_ofDays` — the date of a count has that count.
* `Date.valid_ofDays` — the date of a count exists, if its year is admitted.
-/

namespace QueryGateway
namespace Date

theorem daysInMonth_le (year : Int) (month : Nat) : daysInMonth year month ≤ 31 := by
  unfold daysInMonth
  split
  · split <;> decide
  all_goals decide

/-! ### The days of an era -/

/-- A day of an era: whole centuries, whole runs of four years, whole years and the days that are
left.  The last day of a leap year has the number 365; the last year of a century is a leap year
only in the last century. -/
structure EraDay (day century run year rest : Int) : Prop where
  century_bounds : 0 ≤ century ∧ century ≤ 3
  run_bounds : 0 ≤ run ∧ run ≤ 24
  year_bounds : 0 ≤ year ∧ year ≤ 3
  rest_nonneg : 0 ≤ rest
  rest_le : rest < 365 ∨ rest = 365 ∧ year = 3 ∧ (run < 24 ∨ run = 24 ∧ century = 3)
  eq : day = 36524 * century + 1461 * run + 365 * year + rest

theorem exists_year {day : Int} (h : 0 ≤ day ∧ day ≤ 1460) :
    ∃ year rest : Int, (0 ≤ year ∧ year ≤ 3) ∧ 0 ≤ rest ∧ (rest < 365 ∨ rest = 365 ∧ year = 3) ∧
      day = 365 * year + rest := by
  rcases Int.lt_or_le day 1460 with hday | hday
  · exact ⟨day / 365, day % 365, by omega, by omega, by omega, by omega⟩
  · exact ⟨3, 365, by omega, by omega, by omega, by omega⟩

theorem exists_century {day : Int} (h : 0 ≤ day ∧ day < 146097) :
    ∃ century rest : Int, (0 ≤ century ∧ century ≤ 3) ∧ 0 ≤ rest ∧
      (rest < 36524 ∨ rest = 36524 ∧ century = 3) ∧ day = 36524 * century + rest := by
  rcases Int.lt_or_le day 146096 with hday | hday
  · exact ⟨day / 36524, day % 36524, by omega, by omega, by omega, by omega⟩
  · exact ⟨3, 36524, by omega, by omega, by omega, by omega⟩

theorem exists_eraDay {day : Int} (h : 0 ≤ day ∧ day < 146097) :
    ∃ century run year rest, EraDay day century run year rest := by
  obtain ⟨century, left, hcentury, hleft, hlast, rfl⟩ := exists_century h
  have hyears : 0 ≤ left % 1461 ∧ left % 1461 ≤ 1460 := by omega
  obtain ⟨year, rest, hyear, hrest, hlast', hday⟩ := exists_year hyears
  refine ⟨century, left / 1461, year, rest, hcentury, by omega, hyear, hrest, ?_, by omega⟩
  rcases hlast' with hlast' | ⟨rfl, rfl⟩
  · exact Or.inl hlast'
  · exact Or.inr ⟨rfl, rfl, by omega⟩

/-- The year of an era that a day belongs to. -/
theorem EraDay.yearOfEra {day century run year rest : Int}
    (h : EraDay day century run year rest) :
    (day - day / 1460 + day / 36524 - day / 146096) / 365 = 100 * century + 4 * run + year := by
  obtain ⟨hcentury, hrun, hyear, hrest, hlast, hday⟩ := h
  -- how often the runs have pushed the day over a multiple of 1460, beyond once for each run
  obtain ⟨e, he⟩ : ∃ e, e = (24 * century + run + 365 * year + rest) / 1460 := ⟨_, rfl⟩
  have hbounds : 1460 * e ≤ 24 * century + run + 365 * year + rest ∧
      24 * century + run + 365 * year + rest < 1460 * e + 1460 := by
    clear hcentury hrun hyear hrest hlast hday
    omega
  have hquotient : day / 1460 = 25 * century + run + e :=
    ((Int.ediv_emod_unique (r := 24 * century + run + 365 * year + rest - 1460 * e)
      (by decide)).mpr ⟨by omega, by omega, by omega⟩).1
  have hcenturies : day / 36524 - day / 146096 = century := by
    rcases hlast with hlast | ⟨rfl, rfl, hlast | ⟨rfl, rfl⟩⟩
    · have hfirst : day / 36524 = century := by omega
      have hsecond : day / 146096 = 0 := by omega
      omega
    · have hfirst : day / 36524 = century := by omega
      have hsecond : day / 146096 = 0 := by omega
      omega
    · omega
  have hleft : 0 ≤ rest - e ∧ rest - e < 365 := by
    rcases hlast with hlast | ⟨rfl, rfl, -⟩ <;> omega
  exact ((Int.ediv_emod_unique (r := rest - e) (by decide)).mpr
    ⟨by omega, hleft.1, hleft.2⟩).1

/-! ### The date of a count -/

/-- The parts of the date of a count: an era, a year of it that starts in March, a month of that
year and a day of that month. -/
structure Parts (days era yearOfEra dayOfYear month : Int) : Prop where
  year_bounds : 0 ≤ yearOfEra ∧ yearOfEra < 400
  day_nonneg : 0 ≤ dayOfYear
  day_le : dayOfYear < 365 ∨
    dayOfYear = 365 ∧ (yearOfEra + 1) % 4 = 0 ∧ ((yearOfEra + 1) % 100 = 0 → yearOfEra = 399)
  month_bounds : 0 ≤ month ∧ month ≤ 11
  month_eq : 153 * month ≤ 5 * dayOfYear + 2 ∧ 5 * dayOfYear + 2 < 153 * month + 153
  eq : days =
    era * 146097 + (yearOfEra * 365 + yearOfEra / 4 - yearOfEra / 100 + dayOfYear) - 719468
  date : ofDays days =
    ⟨if month < 10 then yearOfEra + era * 400 else yearOfEra + era * 400 + 1,
      if month < 10 then (month + 3).toNat else (month - 9).toNat,
      (dayOfYear - (153 * month + 2) / 5 + 1).toNat⟩

theorem month_of_day (day : Int) :
    153 * ((5 * day + 2) / 153) ≤ 5 * day + 2 ∧
      5 * day + 2 < 153 * ((5 * day + 2) / 153) + 153 := by
  omega

theorem exists_parts (days : Int) :
    ∃ era yearOfEra dayOfYear month, Parts days era yearOfEra dayOfYear month := by
  have hera : 0 ≤ (days + 719468) % 146097 ∧ (days + 719468) % 146097 < 146097 := by omega
  obtain ⟨century, run, year, rest, h⟩ := exists_eraDay hera
  obtain ⟨hcentury, hrun, hyear, hrest, hlast, hday⟩ := id h
  obtain ⟨yearOfEra, hyoe⟩ : ∃ y, y = 100 * century + 4 * run + year := ⟨_, rfl⟩
  have hfour : yearOfEra / 4 = 25 * century + run := by omega
  have hhundred : yearOfEra / 100 = century := by omega
  have hdoy : (days + 719468) % 146097 -
      (365 * yearOfEra + yearOfEra / 4 - yearOfEra / 100) = rest := by omega
  have hdays : days = (days + 719468) / 146097 * 146097 +
      (yearOfEra * 365 + yearOfEra / 4 - yearOfEra / 100 + rest) - 719468 := by
    have := Int.ediv_mul_add_emod (days + 719468) 146097
    clear hcentury hrun hyear hrest hlast hday hyoe hfour hhundred
    omega
  have hmonth : 0 ≤ (5 * rest + 2) / 153 ∧ (5 * rest + 2) / 153 ≤ 11 := by
    have : rest ≤ 365 := by omega
    clear hcentury hrun hyear hlast hday hyoe hfour hhundred hdoy hdays
    omega
  refine ⟨(days + 719468) / 146097, yearOfEra, rest, (5 * rest + 2) / 153, by omega, hrest, ?_,
    hmonth, month_of_day rest, hdays, ?_⟩
  · rcases hlast with hlast | ⟨rfl, rfl, hlast⟩
    · exact Or.inl hlast
    · clear hday hfour hhundred hdoy hdays hmonth
      exact Or.inr ⟨rfl, by omega, by omega⟩
  · unfold ofDays
    dsimp only
    rw [h.yearOfEra, ← hyoe, hdoy]
    by_cases hlate : (5 * rest + 2) / 153 < 10
    · simp only [if_pos hlate]
      rw [if_neg (by omega)]
    · simp only [if_neg hlate]
      rw [if_pos (by omega)]

/-- The day of the month. -/
theorem Parts.dayOfMonth {days era yearOfEra dayOfYear month : Int}
    (h : Parts days era yearOfEra dayOfYear month) :
    1 ≤ dayOfYear - (153 * month + 2) / 5 + 1 ∧ dayOfYear - (153 * month + 2) / 5 + 1 ≤ 31 := by
  have := h.month_eq
  omega

/-- The date of a count has that count. -/
theorem toDays_ofDays (days : Int) : (ofDays days).toDays = days := by
  obtain ⟨era, yearOfEra, dayOfYear, month, h⟩ := exists_parts days
  have hday := h.dayOfMonth
  obtain ⟨hyear, -, -, hmonth, -, hdays, hdate⟩ := h
  have hquotient : (yearOfEra + era * 400) / 400 = era := by omega
  have hremainder : (yearOfEra + era * 400) % 400 = yearOfEra := by omega
  rw [hdate]
  unfold toDays
  dsimp only
  rw [Int.toNat_of_nonneg (by omega)]
  by_cases hlate : month < 10
  · simp only [if_pos hlate]
    rw [if_neg (by omega), if_neg (by omega), Int.toNat_of_nonneg (by omega), hquotient,
      hremainder, Int.add_sub_cancel]
    omega
  · simp only [if_neg hlate]
    rw [if_pos (by omega), if_pos (by omega), Int.toNat_of_nonneg (by omega),
      Int.add_sub_cancel, hquotient, hremainder, Int.sub_add_cancel]
    omega

theorem isLeapYear_iff {year : Int} :
    isLeapYear year = true ↔ year % 4 = 0 ∧ (year % 100 = 0 → year % 400 = 0) := by
  unfold isLeapYear
  simp only [Bool.and_eq_true, beq_iff_eq, Bool.or_eq_true, bne_iff_ne, ne_eq]
  rw [Decidable.imp_iff_not_or]

/-- The day of the month is one of that month. -/
theorem Parts.le_daysInMonth {days era yearOfEra dayOfYear month : Int}
    (h : Parts days era yearOfEra dayOfYear month) :
    (ofDays days).day ≤ daysInMonth (ofDays days).year (ofDays days).month := by
  obtain ⟨hyear, -, hle, hmonth, hmonth', -, hdate⟩ := h
  have hcases : month = 0 ∨ month = 1 ∨ month = 2 ∨ month = 3 ∨ month = 4 ∨ month = 5 ∨
      month = 6 ∨ month = 7 ∨ month = 8 ∨ month = 9 ∨ month = 10 ∨ month = 11 := by omega
  rw [hdate]
  clear hdate
  rcases hcases with rfl | rfl | rfl | rfl | rfl | rfl | rfl | rfl | rfl | rfl | rfl | rfl
  iterate 11 (show (dayOfYear - _ + 1).toNat ≤ _; simp [daysInMonth]; omega)
  -- February is the last month
  show (dayOfYear - (153 * 11 + 2) / 5 + 1).toNat ≤
    if isLeapYear (yearOfEra + era * 400 + 1) = true then 29 else 28
  rcases hle with hle | ⟨rfl, hfour, hhundred⟩
  · split <;> omega
  · have hleap : isLeapYear (yearOfEra + era * 400 + 1) = true :=
      isLeapYear_iff.mpr ⟨by omega, by omega⟩
    rw [if_pos hleap]
    decide

/-- The year of the date of a count is admitted between the first and the last admitted day. -/
theorem year_ofDays {days : Int} (hmin : toDays ⟨minYear, 1, 1⟩ ≤ days)
    (hmax : days ≤ toDays ⟨maxYear, 12, 31⟩) :
    minYear ≤ (ofDays days).year ∧ (ofDays days).year ≤ maxYear := by
  obtain ⟨era, yearOfEra, dayOfYear, month, h⟩ := exists_parts days
  obtain ⟨hyear, hnonneg, hle, hmonth, hmonth', hdays, hdate⟩ := h
  have hfirst : toDays ⟨minYear, 1, 1⟩ = -96465292 := by decide
  have hlast : toDays ⟨maxYear, 12, 31⟩ = 95026236 := by decide
  rw [hfirst] at hmin
  rw [hlast] at hmax
  rw [hdate]
  clear hfirst hlast hdate
  -- both bounds lie within an era
  have hlow : era ≤ -657 ∨ era = -656 ∨ -655 ≤ era := by omega
  have hhigh : era ≤ 654 ∨ era = 655 ∨ 656 ≤ era := by omega
  constructor
  · show -262143 ≤ if month < 10 then yearOfEra + era * 400 else yearOfEra + era * 400 + 1
    clear hhigh hmax
    rcases hlow with hlow | rfl | hlow <;> split <;> omega
  · show (if month < 10 then yearOfEra + era * 400 else yearOfEra + era * 400 + 1) ≤ 262142
    clear hlow hmin
    rcases hhigh with hhigh | rfl | hhigh <;> split <;> omega

/-- The date of a count exists, if its year is admitted. -/
theorem valid_ofDays {days : Int} (hmin : toDays ⟨minYear, 1, 1⟩ ≤ days)
    (hmax : days ≤ toDays ⟨maxYear, 12, 31⟩) : (ofDays days).Valid := by
  have hyear := year_ofDays hmin hmax
  obtain ⟨era, yearOfEra, dayOfYear, month, h⟩ := exists_parts days
  have hday := h.dayOfMonth
  have hmonth := h.month_bounds
  refine ⟨hyear.1, hyear.2, ?_, ?_, ?_, h.le_daysInMonth⟩
  · rw [h.date]
    dsimp only
    split <;> omega
  · rw [h.date]
    dsimp only
    split <;> omega
  · rw [h.date]
    dsimp only
    omega

/-- The count of a date is within a hundred million days. -/
theorem toDays_bounds {d : Date} (h : d.Valid) :
    -100000000 < d.toDays ∧ d.toDays < 100000000 := by
  obtain ⟨hmin, hmax, hmonth, hmonth', hday, hday'⟩ := h
  have hlast := daysInMonth_le d.year d.month
  have hfirst : -262143 ≤ d.year := hmin
  have hend : d.year ≤ 262142 := hmax
  unfold toDays
  dsimp only
  split
  · constructor <;> omega
  · constructor <;> omega

end Date
end QueryGateway
