import Mathlib.Algebra.Order.Field.Power
import Mathlib.Tactic.FieldSimp
import Mathlib.Tactic.Linarith
import Mathlib.Tactic.NormNum
import Mathlib.Tactic.Positivity
import Mathlib.Tactic.Ring
import QueryGateway.Proofs.Decimal.Shortest

/-!
# The intervals of doubles

The reals that round to a double form an interval, and the intervals of two positive doubles have no
real in common: they follow each other in the order of the codes, and where one ends and the next
begins, only the one with the even code has the end.  Every interval is wider than the grid of
seventeen digits, so it has a decimal of that many digits.

## Main definitions

* `Decimal.toRat` — the number that a decimal writes.
* `Decimal.Interval.Has` — a number lies in an interval.

## Main results

* `Decimal.Interval.contains_iff` — the test in whole numbers says what it should.
* `Decimal.Interval.has_of_nearest?` — what is found on a grid lies in the interval.
* `Decimal.Interval.exists_nearest?` — on the grid of seventeen digits something is found.
* `Decimal.Interval.eq_of_has` — the intervals of two doubles have no number in common.
-/

namespace QueryGateway

-- Powers are those of naturals.
attribute [local instance (2000)] instPowNat

namespace Decimal

open Binary

/-- The number that a decimal writes. -/
def toRat (d : Decimal) : ℚ := d.digits * (10 : ℚ) ^ d.exponent

/-! ### Grids -/

/-- What both sides of a comparison on a grid are multiplied with. -/
def gridFactor (e : Int) : ℚ := if e < 0 then 10 ^ e.natAbs else 1

theorem gridFactor_pos (e : Int) : 0 < gridFactor e := by
  unfold gridFactor
  split <;> positivity

theorem fst_onGrid (num den : Nat) (e : Int) :
    ((onGrid num den e).1 : ℚ) = num * gridFactor e := by
  unfold onGrid gridFactor
  split
  · push_cast
    rfl
  · rw [mul_one]

theorem snd_onGrid (num den : Nat) (e : Int) :
    ((onGrid num den e).2 : ℚ) = (10 : ℚ) ^ e * den * gridFactor e := by
  unfold onGrid gridFactor
  split
  · next h =>
    obtain ⟨n, rfl⟩ : ∃ n : Nat, e = -n := ⟨e.natAbs, by omega⟩
    rw [zpow_neg, Int.natAbs_neg, Int.natAbs_natCast, zpow_natCast]
    field_simp
  · next h =>
    obtain ⟨n, rfl⟩ : ∃ n : Nat, e = n := ⟨e.natAbs, by omega⟩
    rw [Int.natAbs_natCast, zpow_natCast]
    push_cast
    ring

namespace Interval

/-- The parts into which one is divided for the bounds of an interval. -/
def scale : Nat := 2 ^ (double.unit + 2)

theorem scale_pos : 0 < scale := Nat.two_pow_pos _

/-- A number lies in an interval. -/
def Has (i : Interval) (r : ℚ) : Prop :=
  if i.closed then i.low ≤ r * scale ∧ r * scale ≤ i.high
  else i.low < r * scale ∧ r * scale < i.high

theorem Has.low_le {i : Interval} {r : ℚ} (h : i.Has r) : i.low ≤ r * scale := by
  unfold Has at h
  split at h
  · exact h.1
  · exact h.1.le

theorem Has.le_high {i : Interval} {r : ℚ} (h : i.Has r) : r * scale ≤ i.high := by
  unfold Has at h
  split at h
  · exact h.2
  · exact h.2.le

/-- The test in whole numbers says whether a decimal lies in the interval. -/
theorem contains_iff {i : Interval} {d : Nat} {e : Int} :
    i.contains d e = true ↔ i.Has (d * (10 : ℚ) ^ e) := by
  have hfactor := gridFactor_pos e
  have hden : ((d * (onGrid i.low scale e).2 : Nat) : ℚ) =
      d * (10 : ℚ) ^ e * scale * gridFactor e := by
    rw [Nat.cast_mul, snd_onGrid]
    ring
  have hlow := fst_onGrid i.low scale e
  have hhigh := fst_onGrid i.high scale e
  unfold contains Has
  show (if i.closed = true then _ else _) = true ↔ _
  split
  · rw [Bool.and_eq_true, decide_eq_true_iff, decide_eq_true_iff]
    refine and_congr ?_ ?_
    · rw [← Nat.cast_le (α := ℚ)]
      show ((onGrid i.low scale e).1 : ℚ) ≤ ((d * (onGrid i.low scale e).2 : Nat) : ℚ) ↔ _
      rw [hlow, hden, mul_le_mul_iff_left₀ hfactor]
    · rw [← Nat.cast_le (α := ℚ)]
      show ((d * (onGrid i.low scale e).2 : Nat) : ℚ) ≤ ((onGrid i.high scale e).1 : ℚ) ↔ _
      rw [hhigh, hden, mul_le_mul_iff_left₀ hfactor]
  · rw [Bool.and_eq_true, decide_eq_true_iff, decide_eq_true_iff]
    refine and_congr ?_ ?_
    · rw [← Nat.cast_lt (α := ℚ)]
      show ((onGrid i.low scale e).1 : ℚ) < ((d * (onGrid i.low scale e).2 : Nat) : ℚ) ↔ _
      rw [hlow, hden, mul_lt_mul_iff_left₀ hfactor]
    · rw [← Nat.cast_lt (α := ℚ)]
      show ((d * (onGrid i.low scale e).2 : Nat) : ℚ) < ((onGrid i.high scale e).1 : ℚ) ↔ _
      rw [hhigh, hden, mul_lt_mul_iff_left₀ hfactor]

/-! ### The nearest decimal on a grid -/

theorem divNearest_eq (num den : Nat) :
    divNearest num den = num / den ∨ divNearest num den = num / den + 1 := by
  unfold divNearest
  dsimp only
  split
  · exact Or.inl rfl
  · split
    · rcases Nat.mod_two_eq_zero_or_one (num / den) with h | h <;> rw [h]
      · exact Or.inl rfl
      · exact Or.inr rfl
    · exact Or.inr rfl

/-- What is found on a grid lies in the interval. -/
theorem has_of_nearest? {i : Interval} {d : Nat} {e : Int} (h : i.nearest? e = some d) :
    i.Has (d * (10 : ℚ) ^ e) := by
  rw [← contains_iff]
  unfold nearest? at h
  dsimp only at h
  split at h
  · cases h
  · next hbelow _ =>
    obtain rfl := Option.some.inj h
    exact hbelow
  · next _ habove =>
    obtain rfl := Option.some.inj h
    exact habove
  · next hbelow habove =>
    obtain rfl := Option.some.inj h
    rcases divNearest_eq (onGrid i.middle (2 ^ (double.unit + 2)) e).1
      (onGrid i.middle (2 ^ (double.unit + 2)) e).2 with hd | hd <;> rw [hd]
    · exact hbelow
    · exact habove

/-- A point of a grid is below an interval if it is at most the middle and does not lie in it. -/
theorem le_low_of_not_has {i : Interval} {r : ℚ} (h : ¬i.Has r) (hr : r * scale ≤ i.middle)
    (hmiddle : i.middle < i.high) : r * scale ≤ i.low := by
  have hhigh : (i.middle : ℚ) < i.high := by exact_mod_cast hmiddle
  unfold Has at h
  split at h
  all_goals
    by_contra hlow
    exact h ⟨by linarith, by linarith⟩

/-- A point of a grid is above an interval if it is at least the middle and does not lie in it. -/
theorem high_le_of_not_has {i : Interval} {r : ℚ} (h : ¬i.Has r) (hr : i.middle ≤ r * scale)
    (hmiddle : i.low < i.middle) : i.high ≤ r * scale := by
  have hlow : (i.low : ℚ) < i.middle := by exact_mod_cast hmiddle
  unfold Has at h
  split at h
  all_goals
    by_contra hhigh
    exact h ⟨by linarith, by linarith⟩

theorem not_contains_of_nearest? {i : Interval} {e : Int} {num den : Nat}
    (h : i.nearest? e = none) (hgrid : onGrid i.middle scale e = (num, den)) :
    i.contains (num / den) e = false ∧ i.contains (num / den + 1) e = false := by
  have hmiddle : onGrid i.middle (2 ^ (double.unit + 2)) e = (num, den) := hgrid
  unfold nearest? at h
  rw [hmiddle] at h
  dsimp only at h
  split at h
  · next hbelow habove => exact ⟨hbelow, habove⟩
  all_goals cases h

/-- On a grid that is finer than an interval is wide, something is found. -/
theorem exists_nearest? {i : Interval} {e : Int} (hlow : i.low < i.middle)
    (hhigh : i.middle < i.high) (hwide : (10 : ℚ) ^ e * scale < i.high - i.low) :
    ∃ d, i.nearest? e = some d := by
  have hfactor := gridFactor_pos e
  have hspacing : (0 : ℚ) < (10 : ℚ) ^ e * scale :=
    mul_pos (zpow_pos (by norm_num) e) (by exact_mod_cast scale_pos)
  obtain ⟨num, den, hgrid⟩ : ∃ num den, onGrid i.middle scale e = (num, den) := ⟨_, _, rfl⟩
  have hnum : (num : ℚ) = i.middle * gridFactor e := by
    rw [← fst_onGrid i.middle scale e, hgrid]
  have hden : (den : ℚ) = (10 : ℚ) ^ e * scale * gridFactor e := by
    rw [← snd_onGrid i.middle scale e, hgrid]
  have hpos : 0 < den := by
    rw [← Nat.cast_pos (α := ℚ), hden]
    exact mul_pos hspacing hfactor
  -- the last point of the grid up to the middle, and the next one
  have hle : ((num / den : Nat) : ℚ) * (10 : ℚ) ^ e * scale ≤ i.middle := by
    have h : ((num / den * den : Nat) : ℚ) ≤ num := Nat.cast_le.mpr (Nat.div_mul_le_self num den)
    rw [Nat.cast_mul, hnum, hden] at h
    refine le_of_mul_le_mul_right ?_ hfactor
    linarith
  have hlt : (i.middle : ℚ) < ((num / den + 1 : Nat) : ℚ) * (10 : ℚ) ^ e * scale := by
    have h : (num : ℚ) < ((den * (num / den + 1) : Nat) : ℚ) :=
      Nat.cast_lt.mpr (Nat.lt_mul_div_succ num hpos)
    rw [Nat.cast_mul, hnum, hden] at h
    refine lt_of_mul_lt_mul_right ?_ hfactor.le
    linarith
  have hnext : ((num / den + 1 : Nat) : ℚ) * (10 : ℚ) ^ e * scale =
      ((num / den : Nat) : ℚ) * (10 : ℚ) ^ e * scale + (10 : ℚ) ^ e * scale := by
    push_cast
    ring
  cases hnearest : i.nearest? e with
  | some d => exact ⟨d, rfl⟩
  | none =>
    -- with both points outside, the interval would fit between them
    obtain ⟨hbelow, habove⟩ := not_contains_of_nearest? hnearest hgrid
    rw [← Bool.not_eq_true, contains_iff] at hbelow habove
    have h₁ := le_low_of_not_has hbelow hle hhigh
    have h₂ := high_le_of_not_has habove hlt.le hlow
    exfalso
    linarith

/-! ### The intervals of doubles -/

/-- The distance of a double to the next one, in units of the least positive double. -/
def spacing (code : Nat) : Nat := 2 ^ (code / 2 ^ double.fraction - 1)

theorem spacing_pos (code : Nat) : 0 < spacing code := Nat.two_pow_pos _

/-- The next magnitude. -/
theorem magnitude_succ (code : Nat) :
    double.magnitude (code + 1) = double.magnitude code + spacing code := by
  have hF : 2 ^ double.fraction = 4503599627370496 := rfl
  unfold spacing Format.magnitude
  rw [hF]
  dsimp only
  by_cases hlast : code % 4503599627370496 + 1 = 4503599627370496
  · -- the fraction starts anew, and the exponent goes up
    have hdiv : (code + 1) / 4503599627370496 = code / 4503599627370496 + 1 := by omega
    have hmod : (code + 1) % 4503599627370496 = 0 := by omega
    have hfraction : code % 4503599627370496 = 4503599627370495 := by omega
    rw [hdiv, hmod, hfraction, if_neg (Nat.succ_ne_zero _), Nat.add_sub_cancel]
    generalize code / 4503599627370496 = exponent
    cases exponent with
    | zero => rfl
    | succ n =>
      rw [if_neg (Nat.succ_ne_zero _), Nat.add_sub_cancel]
      omega
  · have hdiv : (code + 1) / 4503599627370496 = code / 4503599627370496 := by omega
    have hmod : (code + 1) % 4503599627370496 = code % 4503599627370496 + 1 := by omega
    rw [hdiv, hmod]
    generalize code / 4503599627370496 = exponent
    split
    · next h => rw [h]
    · ring

/-- One interval ends where the next begins. -/
theorem high_eq_low (code : Nat) : (ofCode code).high = (ofCode (code + 1)).low := by
  have hF : 2 ^ double.fraction = 4503599627370496 := rfl
  have hmagnitude := magnitude_succ code
  unfold ofCode
  dsimp only
  rw [hmagnitude]
  unfold spacing
  rw [hF]
  by_cases hlast : code % 4503599627370496 + 1 = 4503599627370496
  · have hdiv : (code + 1) / 4503599627370496 = code / 4503599627370496 + 1 := by omega
    have hmod : (code + 1) % 4503599627370496 = 0 := by omega
    rw [hdiv, hmod, Nat.add_sub_cancel]
    generalize code / 4503599627370496 = exponent
    cases exponent with
    | zero =>
      rw [if_neg (by omega)]
      omega
    | succ n =>
      rw [if_pos (by omega), Nat.add_sub_cancel, pow_succ]
      omega
  · have hdiv : (code + 1) / 4503599627370496 = code / 4503599627370496 := by omega
    have hmod : (code + 1) % 4503599627370496 = code % 4503599627370496 + 1 := by omega
    rw [hdiv, hmod, if_neg (by omega)]
    omega

theorem middle_lt_high (code : Nat) : (ofCode code).middle < (ofCode code).high := by
  have := spacing_pos code
  unfold spacing at this
  unfold ofCode
  dsimp only
  omega

theorem low_lt_middle {code : Nat} (h : code ≠ 0) : (ofCode code).low < (ofCode code).middle := by
  have hspacing := spacing_pos code
  have hmagnitude := magnitude_pos h
  unfold spacing at hspacing
  unfold ofCode
  dsimp only
  split <;> omega

theorem low_lt_high (code : Nat) : (ofCode code).low < (ofCode code).high := by
  have hmiddle := middle_lt_high code
  have hlow : (ofCode code).low ≤ (ofCode code).middle := Nat.sub_le _ _
  omega

theorem strictMono_low : StrictMono fun code => (ofCode code).low :=
  strictMono_nat_of_lt_succ fun code => (high_eq_low code) ▸ low_lt_high code

/-- The intervals of two doubles have no number in common. -/
theorem eq_of_has {c d : Nat} {r : ℚ} (hc : (ofCode c).Has r) (hd : (ofCode d).Has r) : c = d := by
  -- of two doubles, the greater one has its interval above that of the other
  have hlt : ∀ {c d : Nat}, c < d → (ofCode c).Has r → (ofCode d).Has r → False := by
    intro c d hlt hc hd
    have hends : ((ofCode d).low : ℚ) ≤ (ofCode (c + 1)).low := by
      rw [← high_eq_low]
      exact hd.low_le.trans hc.le_high
    have hle : d ≤ c + 1 := strictMono_low.le_iff_le.mp (by exact_mod_cast hends)
    obtain rfl : d = c + 1 := by omega
    -- neighbours have one end in common, which belongs to only one of them
    have hhigh : ((ofCode c).high : ℚ) = (ofCode (c + 1)).low := by rw [high_eq_low]
    unfold Has at hc hd
    rcases Nat.mod_two_eq_zero_or_one c with heven | hodd
    · have hopen : ¬(ofCode (c + 1)).closed = true := by
        show ¬decide ((c + 1) % 2 = 0) = true
        rw [decide_eq_true_iff]
        omega
      rw [if_neg hopen] at hd
      have := hc
      split at this <;> linarith [this.2, hd.1]
    · have hopen : ¬(ofCode c).closed = true := by
        show ¬decide (c % 2 = 0) = true
        rw [decide_eq_true_iff]
        omega
      rw [if_neg hopen] at hc
      have := hd
      split at this <;> linarith [this.1, hc.2]
  rcases Nat.lt_trichotomy c d with h | h | h
  · exact (hlt h hc hd).elim
  · exact h
  · exact (hlt h hd hc).elim

/-- An interval is wide enough for seventeen digits. -/
theorem middle_lt_width (code : Nat) : (ofCode code).middle <
    10000000000000000 * ((ofCode code).high - (ofCode code).low) := by
  have hF : 2 ^ double.fraction = 4503599627370496 := rfl
  have hfraction := Nat.mod_lt code (show 0 < 4503599627370496 by decide)
  unfold ofCode Format.magnitude
  rw [hF]
  dsimp only
  generalize code / 4503599627370496 = exponent
  generalize code % 4503599627370496 = fraction at hfraction ⊢
  have hpos : 0 < 2 ^ (exponent - 1) := Nat.two_pow_pos _
  generalize 2 ^ (exponent - 1) = s at hpos ⊢
  by_cases hexponent : exponent = 0
  · rw [if_pos hexponent, if_neg (by omega)]
    omega
  · have hproduct : fraction * s < 4503599627370496 * s :=
      Nat.mul_lt_mul_of_pos_right hfraction hpos
    rw [if_neg hexponent, Nat.add_mul]
    by_cases hhalved : fraction = 0 ∧ 1 < exponent
    · rw [if_pos hhalved, hhalved.1, Nat.zero_mul]
      omega
    · rw [if_neg hhalved]
      omega

/-- On a grid with seventeen digits before its end, something is found. -/
theorem exists_nearest?_ofCode {code : Nat} (h : code ≠ 0) {e : Int}
    (he : (10 : ℚ) ^ e * scale * 10000000000000000 ≤ (ofCode code).middle) :
    ∃ d, (ofCode code).nearest? e = some d := by
  refine exists_nearest? (low_lt_middle h) (middle_lt_high code) ?_
  have hwidth : ((ofCode code).middle : ℚ) <
      ((10000000000000000 * ((ofCode code).high - (ofCode code).low) : Nat) : ℚ) :=
    Nat.cast_lt.mpr (middle_lt_width code)
  rw [Nat.cast_mul, Nat.cast_sub (low_lt_high code).le] at hwidth
  have hten : ((10000000000000000 : Nat) : ℚ) = 10000000000000000 := by norm_num
  rw [hten] at hwidth
  linarith

end Interval
end Decimal
end QueryGateway
