import QueryGateway.Calendar.Reading
import QueryGateway.Proofs.Calendar.Date
import QueryGateway.Proofs.Decimal.Digits

/-!
# Reading back instants

The written form of an instant is read back by the relaxed grammar: fields are padded to a width
that it admits, the year has a sign just when it has more than four digits, and a leap second keeps
its second sixty.

## Main definitions

* `Instant.WellFormed` — the instants that two counts give.

## Main results

* `Calendar.number_padded` — a padded field is read as its number.
* `Instant.ofRelaxed?_rfc3339` — an instant is read back from its written form.
* `Instant.wellFormed_of_ofRelaxed?`, `Instant.wellFormed_of_ofRfc3339?`,
  `Instant.wellFormed_of_ofPlain?` — what is read is well formed.
* `Date.valid_of_ofText?` — a date that is read exists.
-/

namespace QueryGateway

-- Powers are those of naturals.
attribute [local instance (2000)] instPowNat

namespace Calendar

open Instant (padded)

/-! ### Fields -/

/-- The input does not go on with a digit. -/
def EndsDigits (rest : List Char) : Prop := ∀ c ∈ rest.head?, c.isDigit = false

theorem endsDigits_cons {c : Char} (h : c.isDigit = false) (rest : List Char) :
    EndsDigits (c :: rest) := by
  intro d hd
  obtain rfl : c = d := by simpa using hd
  exact h

theorem takeWhile_digits {digits rest : List Char} (h : ∀ c ∈ digits, c.isDigit = true)
    (hrest : EndsDigits rest) : (digits ++ rest).takeWhile Char.isDigit = digits := by
  rw [List.takeWhile_append_of_pos h]
  cases rest with
  | nil => simp
  | cons c rest =>
    have hc : c.isDigit = false := hrest c rfl
    simp [hc]

theorem isDigit_of_mem_padded {width n : Nat} {c : Char} (h : c ∈ padded width n) :
    c.isDigit = true := by
  rcases List.mem_append.mp h with h | h
  · obtain rfl := (List.mem_replicate.mp h).2
    rfl
  · exact Numeral.isDigit_of_mem_toDigits h

theorem padded_ne_nil (width n : Nat) : padded width n ≠ [] := by
  simp [padded, Nat.toDigits_ne_nil]

@[simp] theorem natOf_padded (width n : Nat) : Numeral.natOf (padded width n) = n := by
  unfold padded
  rw [Numeral.natOf_replicate_append, Numeral.natOf_toDigits]

theorem length_padded {width n : Nat} (hwidth : 0 < width) (h : n < 10 ^ width) :
    (padded width n).length = width := by
  have hlength := (Nat.length_toDigits_le_iff (by decide) hwidth).mpr h
  simp only [padded, List.length_append, List.length_replicate]
  omega

/-- A padded field that is not too wide is read as its number. -/
theorem number_padded {least width n : Nat} {most : Option Nat} {rest : List Char}
    (hleast : least ≤ (padded width n).length)
    (hmost : ∀ m ∈ most, (padded width n).length ≤ m) (hrest : EndsDigits rest) :
    number least most (padded width n ++ rest) = some (n, rest) := by
  have hdigits : ∀ c ∈ padded width n, c.isDigit = true := fun _ h => isDigit_of_mem_padded h
  have hrun := takeWhile_digits hdigits hrest
  have hread : (if (padded width n).length < least ∨ padded width n = [] then none
      else some (Numeral.natOf (padded width n),
        (padded width n ++ rest).drop (padded width n).length)) = some (n, rest) := by
    rw [if_neg (by simp [padded_ne_nil, hleast]), natOf_padded, List.drop_left]
  unfold number
  rw [hrun]
  cases most with
  | none => exact hread
  | some m =>
    simp only [List.take_of_length_le (hmost m rfl)]
    exact hread

/-- A field of two digits. -/
theorem number_two {n : Nat} (h : n < 100) {least : Nat} (hleast : least ≤ 2) {rest : List Char}
    (hrest : EndsDigits rest) : number least (some 2) (padded 2 n ++ rest) = some (n, rest) := by
  have hlength : (padded 2 n).length = 2 := length_padded (by decide) h
  refine number_padded (by omega) ?_ hrest
  rintro _ ⟨⟩
  omega

theorem isBlank_of_isDigit {c : Char} (h : c.isDigit = true) : Text.isBlank c = false := by
  simp only [Char.isDigit, Bool.and_eq_true, decide_eq_true_eq, ge_iff_le,
    UInt32.le_iff_toNat_le] at h
  have hlow : 48 ≤ c.toNat := h.1
  have hhigh : c.toNat ≤ 57 := h.2
  unfold Text.isBlank
  simp only [Bool.or_eq_false_iff, Bool.and_eq_false_iff, decide_eq_false_iff_not,
    beq_eq_false_iff_ne]
  omega

theorem skipBlank_cons {c : Char} (h : Text.isBlank c = false) (rest : List Char) :
    skipBlank (c :: rest) = c :: rest := by
  unfold skipBlank
  rw [List.dropWhile_cons, h]
  rfl

theorem skipBlank_padded (width n : Nat) (rest : List Char) :
    skipBlank (padded width n ++ rest) = padded width n ++ rest := by
  obtain ⟨c, cs, hc⟩ := List.exists_cons_of_ne_nil (padded_ne_nil width n)
  have hdigit : c.isDigit = true := isDigit_of_mem_padded (hc ▸ List.mem_cons_self)
  rw [hc]
  exact skipBlank_cons (isBlank_of_isDigit hdigit) _

theorem looseField_padded {n : Nat} (h : n < 100) {rest : List Char} (hrest : EndsDigits rest) :
    looseField (padded 2 n ++ rest) = some (n, rest) := by
  unfold looseField
  rw [skipBlank_padded]
  exact number_two h (by decide) hrest

/-- A year is read back in front of what is no digit. -/
theorem looseYear_yearChars (year : Int) {rest : List Char} (hrest : EndsDigits rest) :
    looseYear (Instant.yearChars year ++ rest) = some (year, rest) := by
  unfold Instant.yearChars
  split
  · next h =>
    have hlength : (padded 4 year.natAbs).length = 4 := length_padded (by decide) (by omega)
    have hread : number 1 (some 4) (padded 4 year.natAbs ++ rest) = some (year.natAbs, rest) := by
      refine number_padded (by omega) ?_ hrest
      rintro _ ⟨⟩
      omega
    unfold looseYear
    rw [skipBlank_padded]
    -- digits are no sign
    obtain ⟨c, cs, hc⟩ := List.exists_cons_of_ne_nil (padded_ne_nil 4 year.natAbs)
    have hdigit : c.isDigit = true := isDigit_of_mem_padded (hc ▸ List.mem_cons_self)
    rw [hc] at hread ⊢
    split
    · next heq =>
      obtain ⟨rfl, -⟩ := List.cons.inj heq
      exact absurd hdigit (by decide)
    · next heq =>
      obtain ⟨rfl, -⟩ := List.cons.inj heq
      exact absurd hdigit (by decide)
    · have hyear : (year.natAbs : Int) = year := Int.natAbs_of_nonneg h.1
      rw [hread]
      exact congrArg (fun y => some (y, rest)) hyear
  · next h =>
    have hread : number 1 none (padded 4 year.natAbs ++ rest) = some (year.natAbs, rest) := by
      refine number_padded ?_ (by simp) hrest
      exact List.length_pos_iff.mpr (padded_ne_nil 4 _)
    split
    · next hnegative =>
      show (number 1 none (padded 4 year.natAbs ++ rest)).map _ = _
      have hyear : -(year.natAbs : Int) = year := by omega
      rw [hread]
      exact congrArg (fun y => some (y, rest)) hyear
    · next hpositive =>
      show (number 1 none (padded 4 year.natAbs ++ rest)).map _ = _
      have hyear : (year.natAbs : Int) = year := by omega
      rw [hread]
      exact congrArg (fun y => some (y, rest)) hyear

theorem char_cons (c : Char) (rest : List Char) : char c (c :: rest) = some ((), rest) :=
  if_pos rfl

/-- A date is read back in front of what is no digit. -/
theorem looseDate_dateChars {d : Date} (h : d.Valid) {rest : List Char} (hrest : EndsDigits rest) :
    looseDate true (Instant.dateChars d ++ rest) = some (d, rest) := by
  have hmonth : d.month < 100 := by
    have := h.2.2.2.1
    omega
  have hday : d.day < 100 := by
    have := h.2.2.2.2.2
    have := Date.daysInMonth_le d.year d.month
    omega
  have hdash : Text.isBlank '-' = false := by decide
  have hcivil : Date.ofCivil? d.year d.month d.day = some d := if_pos h
  unfold looseDate Instant.dateChars
  simp only [if_true, List.append_assoc, List.cons_append]
  rw [looseYear_yearChars d.year (endsDigits_cons (by decide) _)]
  simp only [Option.bind_eq_bind, Option.bind_some, skipBlank_cons hdash, char_cons]
  rw [looseField_padded hmonth (endsDigits_cons (by decide) _)]
  simp only [Option.bind_some, skipBlank_cons hdash, char_cons]
  rw [looseField_padded hday hrest]
  simp only [Option.bind_some, hcivil, Option.pure_def]

theorem optionalFraction_point (rest : List Char) :
    optionalFraction ('.' :: rest) = fraction rest := rfl

/-- Up to nine digits after the point are so many decimal places of a second. -/
theorem fraction_padded {width n : Nat} (hwidth : 0 < width) (hle : width ≤ 9)
    (h : n < 10 ^ width) {rest : List Char} (hrest : EndsDigits rest) :
    fraction (padded width n ++ rest) = some (n * 10 ^ (9 - width), rest) := by
  have hdigits : ∀ c ∈ padded width n, c.isDigit = true := fun _ h => isDigit_of_mem_padded h
  have hrun := takeWhile_digits hdigits hrest
  have hlength := length_padded hwidth h
  unfold fraction
  rw [hrun]
  dsimp only
  rw [if_neg (padded_ne_nil width n), List.take_of_length_le (by omega), natOf_padded,
    List.drop_left, hlength]

/-- A fraction of a second is read back in front of what is no digit. -/
theorem optionalFraction_fractionChars {nanos : Nat} (h : nanos < 1000000000) {rest : List Char}
    (hrest : EndsDigits rest) (hpoint : ∀ r, rest ≠ '.' :: r) :
    optionalFraction (Instant.fractionChars nanos ++ rest) = some (nanos, rest) := by
  unfold Instant.fractionChars
  split
  · next hzero =>
    subst hzero
    show optionalFraction rest = _
    rw [optionalFraction]
    exact hpoint
  split
  · next hmillis =>
    rw [List.cons_append, optionalFraction_point,
      fraction_padded (by decide) (by decide) (by omega) hrest]
    congr 2
    omega
  split
  · next hmicros =>
    rw [List.cons_append, optionalFraction_point,
      fraction_padded (by decide) (by decide) (by omega) hrest]
    congr 2
    omega
  · rw [List.cons_append, optionalFraction_point,
      fraction_padded (by decide) (by decide) h hrest]
    congr 2
    omega

/-! ### Time of day -/

theorem secondOfDay_lt (t : Instant) : t.secondOfDay < 86400 := by
  unfold Instant.secondOfDay
  omega

/-- The fields of a time of day give the time of day; second sixty is a leap second. -/
theorem timeOfDay?_fields {t : Instant}
    (h : t.nanos < 1000000000 ∨ t.nanos < 2000000000 ∧ t.seconds % 60 = 59) :
    timeOfDay? (t.secondOfDay / 3600) (t.secondOfDay / 60 % 60)
        (t.secondOfDay % 60 + if t.nanos < 1000000000 then 0 else 1) (t.nanos % 1000000000) =
      some (t.secondOfDay, t.nanos) := by
  have hday := secondOfDay_lt t
  unfold timeOfDay?
  by_cases hnanos : t.nanos < 1000000000
  · rw [if_pos hnanos, if_pos (by omega), if_neg (by omega), Nat.mod_eq_of_lt hnanos]
    congr 2
    omega
  · have hlast : t.secondOfDay % 60 = 59 := by
      unfold Instant.secondOfDay
      omega
    rw [if_neg hnanos, if_pos (by omega), if_pos (by omega)]
    congr 2
    · omega
    · omega

/-- A time of day is read back in front of what is no digit and no point. -/
theorem looseTime_timeChars {t : Instant}
    (h : t.nanos < 1000000000 ∨ t.nanos < 2000000000 ∧ t.seconds % 60 = 59) {rest : List Char}
    (hrest : EndsDigits rest) (hpoint : ∀ r, rest ≠ '.' :: r) :
    looseTime true (Instant.timeChars t ++ rest) = some ((t.secondOfDay, t.nanos), rest) := by
  have hday := secondOfDay_lt t
  have hcolon : Text.isBlank ':' = false := by decide
  have hsecond : t.secondOfDay % 60 + (if t.nanos < 1000000000 then 0 else 1) < 100 := by
    split <;> omega
  have hmod : t.nanos % 1000000000 < 1000000000 := Nat.mod_lt _ (by decide)
  have hfraction := optionalFraction_fractionChars hmod hrest hpoint
  have hends : EndsDigits (Instant.fractionChars (t.nanos % 1000000000) ++ rest) := by
    unfold Instant.fractionChars
    split
    · exact hrest
    split
    · exact endsDigits_cons (by decide) _
    split <;> exact endsDigits_cons (by decide) _
  unfold looseTime Instant.timeChars
  simp only [if_true, List.append_assoc, List.cons_append]
  rw [looseField_padded (by omega) (endsDigits_cons (by decide) _)]
  simp only [Option.bind_eq_bind, Option.bind_some, skipBlank_cons hcolon, char_cons]
  rw [looseField_padded (by omega) (endsDigits_cons (by decide) _)]
  simp only [Option.bind_some, skipBlank_cons hcolon, char_cons]
  rw [looseField_padded hsecond hends]
  simp only [Option.bind_some, hfraction, timeOfDay?_fields h, Option.pure_def]

end Calendar

open Calendar

namespace Instant

/-- The instant is one of two counts: its year is admitted, and nanoseconds beyond a second occur
only at the end of a minute. -/
def WellFormed (t : Instant) : Prop := ofUnix? t.seconds t.nanos = some t

instance (t : Instant) : Decidable t.WellFormed := inferInstanceAs (Decidable (_ = _))

theorem wellFormed_iff {t : Instant} : t.WellFormed ↔
    t.InRange ∧ (t.nanos < 1000000000 ∨ t.nanos < 2000000000 ∧ t.seconds % 60 = 59) := by
  unfold WellFormed ofUnix?
  dsimp only
  split
  · next h => exact ⟨fun _ => h, fun _ => rfl⟩
  · next h => exact ⟨fun he => (nomatch he), fun hn => absurd hn h⟩

/-- An instant is its day and its time of that day. -/
theorem ofDay_date (t : Instant) : ofDay t.date t.secondOfDay t.nanos = t := by
  unfold ofDay date days secondOfDay
  rw [Date.toDays_ofDays]
  have hseconds : t.seconds / 86400 * 86400 + ((t.seconds % 86400).toNat : Int) = t.seconds := by
    omega
  rw [hseconds]

/-- An instant is read back from its written form. -/
theorem ofRelaxed?_rfc3339 {t : Instant} (h : t.WellFormed) : ofRelaxed? t.rfc3339 = some t := by
  obtain ⟨hrange, hnanos⟩ := wellFormed_iff.mp h
  have hdate : t.date.Valid := Date.valid_ofDays hrange.1 hrange.2
  have hinstant : instant? t.date (t.secondOfDay, t.nanos) 0 = some t := by
    unfold instant?
    rw [ofDay_date]
    dsimp only
    rw [Int.sub_zero, if_pos hrange]
  unfold ofRelaxed? rfc3339 rfc3339With
  rw [String.toList_ofList, looseDate_dateChars hdate (endsDigits_cons (by decide) _)]
  simp only [Option.bind_eq_bind, Option.bind_some, dateTimeMark]
  rw [looseTime_timeChars hnanos (endsDigits_cons (by decide) _) (by simp)]
  exact hinstant

end Instant

/-! ### What is read is well formed

An offset is so many whole minutes, so a leap second stays the last one of its minute. -/

namespace Calendar

theorem fraction_lt {cs rest : List Char} {nanos : Nat} (h : fraction cs = some (nanos, rest)) :
    nanos < 1000000000 := by
  unfold fraction at h
  dsimp only at h
  split at h
  · cases h
  · obtain ⟨rfl, -⟩ := Prod.mk.inj (Option.some.inj h)
    have hdigits : ∀ c ∈ (cs.takeWhile Char.isDigit).take 9, c.isDigit = true := by
      intro c hc
      exact List.all_eq_true.mp List.all_takeWhile c (List.mem_of_mem_take hc)
    have hlt := Numeral.natOf_lt hdigits
    have hlength : ((cs.takeWhile Char.isDigit).take 9).length ≤ 9 := List.length_take_le 9 _
    calc Numeral.natOf _ * 10 ^ (9 - ((cs.takeWhile Char.isDigit).take 9).length)
      _ < 10 ^ ((cs.takeWhile Char.isDigit).take 9).length *
          10 ^ (9 - ((cs.takeWhile Char.isDigit).take 9).length) :=
        Nat.mul_lt_mul_of_pos_right hlt (Nat.pow_pos (by decide))
      _ = 10 ^ 9 := by rw [← Nat.pow_add, Nat.add_sub_cancel' hlength]

theorem optionalFraction_lt {cs rest : List Char} {nanos : Nat}
    (h : optionalFraction cs = some (nanos, rest)) : nanos < 1000000000 := by
  unfold optionalFraction at h
  split at h
  · exact fraction_lt h
  · obtain ⟨rfl, -⟩ := Prod.mk.inj (Option.some.inj h)
    decide

/-- Nanoseconds beyond a second occur only in second sixty. -/
theorem leap_of_timeOfDay? {hour minute second nanos : Nat} {time : Nat × Nat}
    (hnanos : nanos < 1000000000) (h : timeOfDay? hour minute second nanos = some time) :
    time.2 < 1000000000 ∨ time.2 < 2000000000 ∧ time.1 % 60 = 59 := by
  unfold timeOfDay? at h
  split at h
  · split at h
    · obtain rfl := Option.some.inj h
      exact Or.inr ⟨by dsimp only; omega, by dsimp only; omega⟩
    · obtain rfl := Option.some.inj h
      exact Or.inl hnanos
  · cases h

theorem leap_of_strictFields {cs rest : List Char} {date : Date} {time : Nat × Nat}
    (h : strictFields cs = some ((date, time), rest)) :
    time.2 < 1000000000 ∨ time.2 < 2000000000 ∧ time.1 % 60 = 59 := by
  obtain ⟨⟨year, _⟩, -, h⟩ := Option.bind_eq_some_iff.mp h
  obtain ⟨⟨_, _⟩, -, h⟩ := Option.bind_eq_some_iff.mp h
  obtain ⟨⟨month, _⟩, -, h⟩ := Option.bind_eq_some_iff.mp h
  obtain ⟨⟨_, _⟩, -, h⟩ := Option.bind_eq_some_iff.mp h
  obtain ⟨⟨day, _⟩, -, h⟩ := Option.bind_eq_some_iff.mp h
  obtain ⟨⟨_, _⟩, -, h⟩ := Option.bind_eq_some_iff.mp h
  obtain ⟨⟨hour, _⟩, -, h⟩ := Option.bind_eq_some_iff.mp h
  obtain ⟨⟨_, _⟩, -, h⟩ := Option.bind_eq_some_iff.mp h
  obtain ⟨⟨minute, _⟩, -, h⟩ := Option.bind_eq_some_iff.mp h
  obtain ⟨⟨_, _⟩, -, h⟩ := Option.bind_eq_some_iff.mp h
  obtain ⟨⟨second, _⟩, -, h⟩ := Option.bind_eq_some_iff.mp h
  obtain ⟨⟨nanos, _⟩, hnanos, h⟩ := Option.bind_eq_some_iff.mp h
  obtain ⟨civil, -, h⟩ := Option.bind_eq_some_iff.mp h
  obtain ⟨read, hread, h⟩ := Option.bind_eq_some_iff.mp h
  obtain ⟨heq, -⟩ := Prod.mk.inj (Option.some.inj h)
  obtain ⟨-, rfl⟩ := Prod.mk.inj heq
  exact leap_of_timeOfDay? (optionalFraction_lt hnanos) hread

theorem leap_of_looseTime {padded : Bool} {cs rest : List Char} {time : Nat × Nat}
    (h : looseTime padded cs = some (time, rest)) :
    time.2 < 1000000000 ∨ time.2 < 2000000000 ∧ time.1 % 60 = 59 := by
  obtain ⟨⟨hour, _⟩, -, h⟩ := Option.bind_eq_some_iff.mp h
  obtain ⟨⟨_, _⟩, -, h⟩ := Option.bind_eq_some_iff.mp h
  obtain ⟨⟨minute, _⟩, -, h⟩ := Option.bind_eq_some_iff.mp h
  obtain ⟨⟨_, _⟩, -, h⟩ := Option.bind_eq_some_iff.mp h
  obtain ⟨⟨second, _⟩, -, h⟩ := Option.bind_eq_some_iff.mp h
  obtain ⟨⟨nanos, _⟩, hnanos, h⟩ := Option.bind_eq_some_iff.mp h
  obtain ⟨read, hread, h⟩ := Option.bind_eq_some_iff.mp h
  obtain ⟨rfl, -⟩ := Prod.mk.inj (Option.some.inj h)
  exact leap_of_timeOfDay? (optionalFraction_lt hnanos) hread

/-- An offset is so many whole minutes. -/
theorem offset_emod {between : List Char → Option (List Char)} {cs rest : List Char} {seconds : Int}
    (h : offset between cs = some (seconds, rest)) : seconds % 60 = 0 := by
  unfold offset at h
  split at h
  · obtain ⟨rfl, -⟩ := Prod.mk.inj (Option.some.inj h)
    rfl
  · obtain ⟨rfl, -⟩ := Prod.mk.inj (Option.some.inj h)
    rfl
  · obtain ⟨⟨sign, _⟩, -, h⟩ := Option.bind_eq_some_iff.mp h
    obtain ⟨⟨hours, _⟩, -, h⟩ := Option.bind_eq_some_iff.mp h
    obtain ⟨_, -, h⟩ := Option.bind_eq_some_iff.mp h
    obtain ⟨⟨minutes, _⟩, -, h⟩ := Option.bind_eq_some_iff.mp h
    dsimp only at h
    split at h
    · obtain ⟨rfl, -⟩ := Prod.mk.inj (Option.some.inj h)
      have hminutes : ((hours * 3600 + minutes * 60 : Nat) : Int) % 60 = 0 := by omega
      rw [Int.mul_emod, hminutes, Int.mul_zero, Int.zero_emod]
    · cases h

theorem looseOffset_emod {cs rest : List Char} {seconds : Int}
    (h : looseOffset cs = some (seconds, rest)) : seconds % 60 = 0 := by
  unfold looseOffset at h
  split at h
  · split at h
    · obtain ⟨rfl, -⟩ := Prod.mk.inj (Option.some.inj h)
      rfl
    · exact offset_emod h
  · exact offset_emod h

end Calendar

namespace Instant

theorem wellFormed_of_instant? {date : Date} {time : Nat × Nat} {seconds : Int} {t : Instant}
    (htime : time.2 < 1000000000 ∨ time.2 < 2000000000 ∧ time.1 % 60 = 59)
    (hoffset : seconds % 60 = 0) (h : instant? date time seconds = some t) : t.WellFormed := by
  unfold instant? at h
  dsimp only at h
  split at h
  · next hrange =>
    obtain rfl := Option.some.inj h
    refine wellFormed_iff.mpr ⟨hrange, ?_⟩
    unfold ofDay
    dsimp only
    rcases htime with htime | ⟨htime, hlast⟩
    · exact Or.inl htime
    · exact Or.inr ⟨htime, by omega⟩
  · cases h

/-- What is read in the relaxed form is well formed. -/
theorem wellFormed_of_ofRelaxed? {text : String} {t : Instant} (h : ofRelaxed? text = some t) :
    t.WellFormed := by
  obtain ⟨⟨date, _⟩, -, h⟩ := Option.bind_eq_some_iff.mp h
  obtain ⟨⟨_, _⟩, -, h⟩ := Option.bind_eq_some_iff.mp h
  obtain ⟨⟨time, _⟩, htime, h⟩ := Option.bind_eq_some_iff.mp h
  obtain ⟨⟨seconds, _⟩, hoffset, h⟩ := Option.bind_eq_some_iff.mp h
  dsimp only at h
  split at h
  · exact wellFormed_of_instant? (leap_of_looseTime htime) (looseOffset_emod hoffset) h
  · cases h

/-- What is read in the form of RFC 3339 is well formed. -/
theorem wellFormed_of_ofRfc3339? {text : String} {t : Instant} (h : ofRfc3339? text = some t) :
    t.WellFormed := by
  obtain ⟨⟨⟨date, time⟩, _⟩, htime, h⟩ := Option.bind_eq_some_iff.mp h
  obtain ⟨⟨seconds, _⟩, hoffset, h⟩ := Option.bind_eq_some_iff.mp h
  dsimp only at h
  split at h
  · exact wellFormed_of_instant? (leap_of_strictFields htime) (offset_emod hoffset) h
  · cases h

/-- What is read without an offset is well formed. -/
theorem wellFormed_of_ofPlain? {mark : Option Char} {text : String} {t : Instant}
    (h : ofPlain? mark text = some t) : t.WellFormed := by
  obtain ⟨⟨date, rest⟩, -, h⟩ := Option.bind_eq_some_iff.mp h
  -- whatever stands between the date and the time
  have htimed : ∀ {cs : List Char}, ((looseTime false cs).bind fun timed =>
      if timed.2 = [] then instant? date timed.1 0 else none) = some t → t.WellFormed := by
    intro cs h
    obtain ⟨⟨time, _⟩, htime, h⟩ := Option.bind_eq_some_iff.mp h
    dsimp only at h
    split at h
    · exact wellFormed_of_instant? (leap_of_looseTime htime) rfl h
    · cases h
  cases mark with
  | none => exact htimed h
  | some c =>
    obtain ⟨_, -, h⟩ := Option.bind_eq_some_iff.mp h
    exact htimed h

end Instant

/-- A date that is read exists. -/
theorem Date.valid_of_ofText? {text : String} {d : Date} (h : ofText? text = some d) : d.Valid := by
  obtain ⟨⟨date, _⟩, hdate, h⟩ := Option.bind_eq_some_iff.mp h
  dsimp only at h
  split at h
  · obtain rfl := Option.some.inj h
    obtain ⟨⟨year, _⟩, -, hdate⟩ := Option.bind_eq_some_iff.mp hdate
    obtain ⟨⟨_, _⟩, -, hdate⟩ := Option.bind_eq_some_iff.mp hdate
    obtain ⟨⟨month, _⟩, -, hdate⟩ := Option.bind_eq_some_iff.mp hdate
    obtain ⟨⟨_, _⟩, -, hdate⟩ := Option.bind_eq_some_iff.mp hdate
    obtain ⟨⟨day, _⟩, -, hdate⟩ := Option.bind_eq_some_iff.mp hdate
    obtain ⟨civil, hcivil, hdate⟩ := Option.bind_eq_some_iff.mp hdate
    obtain ⟨rfl, -⟩ := Prod.mk.inj (Option.some.inj hdate)
    exact valid_of_ofCivil? hcivil
  · cases h

end QueryGateway
