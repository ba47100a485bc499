import QueryGateway.Decimal.Shortest

/-!
# Shortest digits are significant

The interval of a positive double lies above zero, so the digits that are found in it are not zero.
The search gives the decimal `0` only where it ends without finding any.

## Main results

* `Decimal.shortest_significant` — the digits of a double other than zero are not zero, unless the
  search found none.
-/

namespace QueryGateway

-- Powers are those of naturals.
attribute [local instance (2000)] instPowNat

namespace Decimal

open Binary

/-- The digits are not zero, or the decimal is the one that ends a search without result. -/
def Significant (d : Decimal) : Prop := d.digits ≠ 0 ∨ d = ⟨0, 0⟩

/-! ### The interval of a double -/

theorem magnitude_pos {code : Nat} (h : code ≠ 0) :
    2 ^ (code / 2 ^ double.fraction - 1) ≤ double.magnitude code := by
  unfold Format.magnitude
  dsimp only
  split
  · next hzero =>
    rw [hzero]
    have := Nat.mod_add_div code (2 ^ double.fraction)
    rw [hzero, Nat.mul_zero, Nat.add_zero] at this
    show 1 ≤ code % 2 ^ double.fraction
    omega
  · refine Nat.le_mul_of_pos_left _ ?_
    have : 0 < 2 ^ double.fraction := Nat.two_pow_pos _
    omega

/-- The interval of a double other than zero lies above zero. -/
theorem Interval.low_pos {code : Nat} (h : code ≠ 0) : 0 < (Interval.ofCode code).low := by
  have hmagnitude := magnitude_pos h
  have hspacing : 0 < 2 ^ (code / 2 ^ double.fraction - 1) := Nat.two_pow_pos _
  unfold Interval.ofCode
  dsimp only
  split <;> omega

/-! ### The search -/

theorem fst_onGrid_pos {num : Nat} (h : 0 < num) (den : Nat) (e : Int) :
    0 < (onGrid num den e).1 := by
  unfold onGrid
  split
  · exact Nat.mul_pos h (Nat.pow_pos (by decide))
  · exact h

theorem Interval.not_contains_zero {i : Interval} (h : 0 < i.low) (e : Int) :
    i.contains 0 e = false := by
  have hlow := fst_onGrid_pos h (2 ^ (double.unit + 2)) e
  unfold Interval.contains
  dsimp only
  -- zero is below the interval, with its ends or without
  split
  all_goals
    rw [Bool.and_eq_false_iff, decide_eq_false_iff_not, decide_eq_false_iff_not]
    omega

theorem le_divNearest (num den : Nat) : num / den ≤ divNearest num den := by
  unfold divNearest
  dsimp only
  split
  · exact Nat.le_refl _
  · split
    · exact Nat.le_add_right _ _
    · exact Nat.le_succ _

/-- What is found in an interval above zero is not zero. -/
theorem Interval.nearest?_ne_zero {i : Interval} (h : 0 < i.low) {e : Int} {d : Nat}
    (hd : i.nearest? e = some d) : d ≠ 0 := by
  have hzero := Interval.not_contains_zero h e
  unfold Interval.nearest? at hd
  dsimp only at hd
  split at hd
  · cases hd
  · next hbelow _ =>
    obtain rfl := Option.some.inj hd
    intro h0
    rw [h0, hzero] at hbelow
    cases hbelow
  · obtain rfl := Option.some.inj hd
    exact Nat.succ_ne_zero _
  · next hbelow _ =>
    obtain rfl := Option.some.inj hd
    intro h0
    have hle := le_divNearest (onGrid i.middle (2 ^ (double.unit + 2)) e).1
      (onGrid i.middle (2 ^ (double.unit + 2)) e).2
    rw [h0, Nat.le_zero] at hle
    rw [hle, hzero] at hbelow
    cases hbelow

theorem search_significant {i : Interval} (h : 0 < i.low) (point : Int) (fuel : Nat) :
    ∀ count, (search i point fuel count).Significant := by
  induction fuel with
  | zero => intro count; exact Or.inr rfl
  | succ fuel ih =>
    intro count
    unfold search
    dsimp only
    split
    · next d hd => exact Or.inl (Interval.nearest?_ne_zero h hd)
    · exact ih (count + 1)

theorem stripZeros_significant (fuel : Nat) : ∀ {d : Decimal}, d.Significant →
    (stripZeros fuel d).Significant := by
  induction fuel with
  | zero => intro d h; exact h
  | succ fuel ih =>
    intro d h
    unfold stripZeros
    split
    · next hstrip =>
      refine ih (Or.inl ?_)
      show d.digits / 10 ≠ 0
      omega
    · exact h

/-- The digits of a double other than zero are not zero, unless the search found none. -/
theorem shortest_significant {x : Binary64} (h : x.isZero = false) : (shortest x).Significant := by
  have hcode : x.code ≠ 0 := by
    unfold Binary64.isZero at h
    exact beq_eq_false_iff_ne.mp h
  exact stripZeros_significant _ (search_significant (Interval.low_pos hcode) _ _ _)

end Decimal
end QueryGateway
