import QueryGateway.Proofs.Decimal.Interval

/-!
# Distinct doubles have distinct digits

The digits of a double are searched on finer and finer grids, the first of which has one digit
before its end.  The estimate of the point that the search starts from is never too high, so the
last grid has seventeen digits or more, and there something is found.  What is found lies in the
interval of the double, so it is found for no other double.

## Main results

* `Decimal.shortest_has` — the digits of a double name a number of its interval.
* `Decimal.code_eq_of_shortest` — doubles with digits of the same value have the same code.
-/

namespace QueryGateway

-- Powers are those of naturals.
attribute [local instance (2000)] instPowNat

namespace Decimal

open Binary

/-! ### The search -/

/-- The search gives a number of the interval if there is one on its last grid. -/
theorem search_has {i : Interval} {point : Int} (fuel : Nat) : ∀ count : Nat,
    (∃ d, i.nearest? (point - (count + fuel : Nat)) = some d) →
      i.Has (search i point (fuel + 1) count).toRat := by
  induction fuel with
  | zero =>
    rintro count ⟨d, hd⟩
    unfold search
    dsimp only
    have hlast : i.nearest? (point - count) = some d := hd
    rw [hlast]
    exact Interval.has_of_nearest? hlast
  | succ fuel ih =>
    rintro count ⟨d, hd⟩
    unfold search
    dsimp only
    split
    · next d' hd' => exact Interval.has_of_nearest? hd'
    · refine ih (count + 1) ⟨d, ?_⟩
      rw [← hd]
      congr 2
      omega

/-- Moving zeros into the exponent does not change the number. -/
theorem toRat_stripZeros (fuel : Nat) : ∀ d : Decimal, (stripZeros fuel d).toRat = d.toRat := by
  induction fuel with
  | zero => intro d; rfl
  | succ fuel ih =>
    intro d
    unfold stripZeros
    split
    · next h =>
      rw [ih]
      have hdigits : d.digits = d.digits / 10 * 10 := by omega
      unfold toRat
      rw [zpow_add_one₀ (by norm_num)]
      conv_rhs => rw [hdigits]
      push_cast
      ring
    · rfl

/-! ### The point -/

/-- The search for the point begins and stays where the value is not below the grid. -/
theorem pointFrom_le {value : Nat} (fuel : Nat) : ∀ {p : Int},
    (10 : ℚ) ^ (p - 1) * Interval.scale ≤ value →
      (10 : ℚ) ^ (pointFrom value fuel p - 1) * Interval.scale ≤ value := by
  induction fuel with
  | zero => intro p h; exact h
  | succ fuel ih =>
    intro p h
    unfold pointFrom
    dsimp only
    split
    · exact h
    · next hge =>
      refine ih ?_
      have hle : ((onGrid value Interval.scale p).2 : ℚ) ≤ (onGrid value Interval.scale p).1 :=
        Nat.cast_le.mpr (Nat.not_lt.mp hge)
      rw [fst_onGrid, snd_onGrid] at hle
      rw [add_sub_cancel_right]
      exact le_of_mul_le_mul_right hle (gridFactor_pos p)

/-- A power of ten is at most a power of two if the exponents compare by a fraction that is on the
right side of the logarithm. -/
theorem ten_zpow_le_two_zpow {b k : Int} {m n : Nat} (hn : n ≠ 0) (hk : k * n ≤ m * b)
    (hpowers : ((10 : ℚ) ^ m) ^ b ≤ ((2 : ℚ) ^ n) ^ b) : (10 : ℚ) ^ k ≤ (2 : ℚ) ^ b := by
  have h : ((10 : ℚ) ^ k) ^ n ≤ ((2 : ℚ) ^ b) ^ n :=
    calc ((10 : ℚ) ^ k) ^ n = (10 : ℚ) ^ (k * n) := by rw [zpow_mul, zpow_natCast]
      _ ≤ (10 : ℚ) ^ (m * b) := zpow_le_zpow_right₀ (by norm_num) hk
      _ = ((10 : ℚ) ^ m) ^ b := by rw [zpow_mul, zpow_natCast]
      _ ≤ ((2 : ℚ) ^ n) ^ b := hpowers
      _ = ((2 : ℚ) ^ b) ^ n := by
        rw [← zpow_natCast, ← zpow_natCast, ← zpow_mul, ← zpow_mul, mul_comm]
  exact (pow_le_pow_iff_left₀ (by positivity) (by positivity) hn).mp h

/-- The estimate of the point from the binary exponent is never too high. -/
theorem ten_zpow_estimate {b : Int} (hlow : -2000 ≤ b) (hhigh : b ≤ 2000) :
    (10 : ℚ) ^ (Int.fdiv (b * 30103) 100000 - 1) ≤ (2 : ℚ) ^ b := by
  have hdiv : Int.fdiv (b * 30103) 100000 = b * 30103 / 100000 :=
    Int.fdiv_eq_ediv_of_nonneg _ (by norm_num)
  rw [hdiv]
  rcases le_or_gt 0 b with hb | hb
  · -- 59 / 196 is a little below the logarithm
    refine ten_zpow_le_two_zpow (m := 59) (n := 196) (by norm_num) (by omega) ?_
    exact zpow_le_zpow_left₀ hb (by positivity) (by norm_num)
  · -- 28 / 93 is a little above it
    refine ten_zpow_le_two_zpow (m := 28) (n := 93) (by norm_num) (by omega) ?_
    obtain ⟨c, rfl⟩ : ∃ c : Nat, b = -c := ⟨b.natAbs, by omega⟩
    rw [zpow_neg, zpow_neg, zpow_natCast, zpow_natCast]
    exact inv_anti₀ (by positivity) (pow_le_pow_left₀ (by positivity) (by norm_num) c)

/-! ### The digits of a double -/

theorem magnitude_lt (code : Nat) :
    double.magnitude code < 2 ^ (53 + (code / 2 ^ double.fraction - 1)) := by
  have hF : 2 ^ double.fraction = 2 ^ 52 := rfl
  have hfraction : code % 2 ^ double.fraction < 2 ^ 52 := Nat.mod_lt _ (Nat.two_pow_pos _)
  have hpos := Nat.two_pow_pos (code / 2 ^ double.fraction - 1)
  rw [Nat.pow_add]
  unfold Format.magnitude
  dsimp only
  split
  · exact hfraction.trans_le (Nat.le_trans (by decide) (Nat.le_mul_of_pos_right (2 ^ 53) hpos))
  · exact Nat.mul_lt_mul_of_pos_right (by omega) hpos

theorem log2_middle_lt {code : Nat} (h : code ≠ 0) (hfinite : code < double.infinity) :
    (Interval.ofCode code).middle.log2 < 2100 := by
  have hexponent : code / 2 ^ double.fraction < double.special :=
    Nat.div_lt_of_lt_mul (Nat.mul_comm _ _ ▸ hfinite)
  have hspecial : double.special = 2047 := rfl
  have hpos := magnitude_pos h
  have hmagnitude := magnitude_lt code
  have hmiddle : (Interval.ofCode code).middle = 2 ^ 2 * double.magnitude code := rfl
  have hne : (Interval.ofCode code).middle ≠ 0 := by
    have := Nat.two_pow_pos (code / 2 ^ double.fraction - 1)
    omega
  have hlog : (Interval.ofCode code).middle.log2 <
      2 + (53 + (code / 2 ^ double.fraction - 1)) := by
    rw [Nat.log2_lt hne, hmiddle, Nat.pow_add 2 2]
    exact Nat.mul_lt_mul_of_pos_left hmagnitude (by decide)
  omega

/-- The search for the point begins where the value is not below the grid. -/
theorem estimate_le {code : Nat} (h : code ≠ 0) (hfinite : code < double.infinity) :
    (10 : ℚ) ^ (Int.fdiv ((((Interval.ofCode code).middle.log2 : Int) - (double.unit + 2)) * 30103)
      100000 - 1) * Interval.scale ≤ (Interval.ofCode code).middle := by
  have hlog := log2_middle_lt h hfinite
  have hne : (Interval.ofCode code).middle ≠ 0 := by
    have := Interval.low_lt_middle h
    omega
  generalize (Interval.ofCode code).middle = middle at hlog hne ⊢
  have hunit : (double.unit : Int) = 1074 := rfl
  have hestimate := ten_zpow_estimate (b := (middle.log2 : Int) - (double.unit + 2)) (by omega)
    (by omega)
  have hscale : (Interval.scale : ℚ) = (2 : ℚ) ^ ((double.unit : Int) + 2) := by
    unfold Interval.scale
    rw [Nat.cast_pow, ← zpow_natCast]
    push_cast
    rfl
  have hself : ((2 ^ middle.log2 : Nat) : ℚ) ≤ middle := Nat.cast_le.mpr (Nat.log2_self_le hne)
  refine (mul_le_mul_of_nonneg_right hestimate (Nat.cast_nonneg _)).trans ?_
  rw [hscale, ← zpow_add₀ (by norm_num), sub_add_cancel, zpow_natCast]
  exact_mod_cast hself

/-- The digits of a double other than zero name a number of its interval. -/
theorem shortest_has {x : Binary64} (hzero : x.isZero = false) (hfinite : x.isFinite = true) :
    (Interval.ofCode x.code).Has (shortest x).toRat := by
  have hcode : x.code ≠ 0 := beq_eq_false_iff_ne.mp hzero
  have hlt : x.code < double.infinity := of_decide_eq_true hfinite
  unfold shortest
  dsimp only
  rw [toRat_stripZeros]
  have hpoint := pointFrom_le 4 (estimate_le hcode hlt)
  generalize pointFrom _ 4 _ = point at hpoint ⊢
  refine search_has 16 1 (Interval.exists_nearest?_ofCode hcode ?_)
  -- the last grid is sixteen digits finer than the point
  have hgrid : (10 : ℚ) ^ (point - 1) =
      (10 : ℚ) ^ (point - ((1 + 16 : Nat) : Int)) * 10000000000000000 := by
    have hten : (10000000000000000 : ℚ) = (10 : ℚ) ^ (16 : Int) := by norm_num
    rw [hten, ← zpow_add₀ (by norm_num)]
    congr 1
    push_cast
    ring
  rw [hgrid] at hpoint
  linarith

/-- Doubles other than zero with digits of the same value have the same code. -/
theorem code_eq_of_shortest {x y : Binary64} (hx : x.isZero = false) (hxfinite : x.isFinite = true)
    (hy : y.isZero = false) (hyfinite : y.isFinite = true)
    (h : (shortest x).toRat = (shortest y).toRat) : x.code = y.code :=
  Interval.eq_of_has (h ▸ shortest_has hx hxfinite) (shortest_has hy hyfinite)

/-- The digits of a double other than zero name a positive number. -/
theorem toRat_shortest_pos {x : Binary64} (hzero : x.isZero = false) (hfinite : x.isFinite = true) :
    0 < (shortest x).toRat := by
  have hlow : (0 : ℚ) < (Interval.ofCode x.code).low :=
    Nat.cast_pos.mpr (Interval.low_pos (beq_eq_false_iff_ne.mp hzero))
  have hle := (shortest_has hzero hfinite).low_le
  exact pos_of_mul_pos_left (hlow.trans_le hle) (Nat.cast_nonneg _)

end Decimal
end QueryGateway
