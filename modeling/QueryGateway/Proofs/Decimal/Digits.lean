import QueryGateway.Decimal.Numeral
import QueryGateway.Decimal.Shortest

/-!
# Decimal digits

A natural number is written in digits without a zero in front, and the digits give the number back.

## Main results

* `Numeral.natOf_toDigits` — the digits of a number write that number.
* `Numeral.natOf_lt` — the number that digits write is bounded by how many they are.
* `Numeral.head_toDigits_ne_zero` — a positive number is not written with a zero in front.
-/

namespace QueryGateway

-- Powers are those of naturals.
attribute [local instance (2000)] instPowNat

namespace Numeral

theorem natOf_eq_ofDigitChars (digits : List Char) : natOf digits = Nat.ofDigitChars 10 digits 0 :=
  rfl

/-- The digits of a number write that number. -/
@[simp] theorem natOf_toDigits (n : Nat) : natOf (Nat.toDigits 10 n) = n := by
  rw [natOf_eq_ofDigitChars, Nat.ofDigitChars_ten_toDigits]

/-- Zeros in front do not count. -/
theorem natOf_replicate_append (k : Nat) (digits : List Char) :
    natOf (List.replicate k '0' ++ digits) = natOf digits := by
  induction k with
  | zero => rfl
  | succ k ih => exact ih

theorem digitValue_le {c : Char} (h : c.isDigit = true) : digitValue c ≤ 9 := by
  simp only [Char.isDigit, Bool.and_eq_true, decide_eq_true_eq, UInt32.le_iff_toNat_le] at h
  have hhigh : c.toNat ≤ 57 := h.2
  unfold digitValue
  omega

/-- Digits that go on from a number. -/
theorem foldl_digits_lt {digits : List Char} (h : ∀ c ∈ digits, c.isDigit = true) (n : Nat) :
    digits.foldl (fun n c => 10 * n + digitValue c) n < (n + 1) * 10 ^ digits.length := by
  induction digits generalizing n with
  | nil => simp
  | cons c rest ih =>
    obtain ⟨hc, hrest⟩ := List.forall_mem_cons.mp h
    have hvalue := digitValue_le hc
    have hstep : 10 * n + digitValue c + 1 ≤ (n + 1) * 10 := by omega
    calc rest.foldl _ (10 * n + digitValue c)
      _ < (10 * n + digitValue c + 1) * 10 ^ rest.length := ih hrest _
      _ ≤ (n + 1) * 10 * 10 ^ rest.length := Nat.mul_le_mul_right _ hstep
      _ = (n + 1) * 10 ^ (c :: rest).length := by
        rw [List.length_cons, Nat.pow_succ, Nat.mul_assoc, Nat.mul_comm 10]

/-- The number that digits write has no more places than there are digits. -/
theorem natOf_lt {digits : List Char} (h : ∀ c ∈ digits, c.isDigit = true) :
    natOf digits < 10 ^ digits.length := by
  have hlt := foldl_digits_lt h 0
  rw [Nat.zero_add, Nat.one_mul] at hlt
  exact hlt

theorem isDigit_of_mem_toDigits {n : Nat} {c : Char} (h : c ∈ Nat.toDigits 10 n) :
    c.isDigit = true :=
  Nat.isDigit_of_mem_toDigits (by decide) (by decide) h

/-- A positive number is not written with a zero in front. -/
theorem head_toDigits_ne_zero {n : Nat} (h : 0 < n) : (Nat.toDigits 10 n).head? ≠ some '0' := by
  induction n using Nat.strongRecOn with
  | ind n ih =>
    rcases Nat.lt_or_ge n 10 with hn | hn
    · rw [Nat.toDigits_of_lt_base hn]
      simp
      omega
    · rw [Nat.toDigits_of_base_le (by decide) hn]
      -- the digits in front are those of the quotient, and there are some
      have front := ih (n / 10) (by omega) (by omega)
      rw [List.head?_append]
      cases hd : (Nat.toDigits 10 (n / 10)).head? with
      | none => exact absurd (List.head?_eq_none_iff.mp hd) Nat.toDigits_ne_nil
      | some c => rw [hd] at front; simpa using front

end Numeral

end QueryGateway
