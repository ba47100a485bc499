import QueryGateway.Text.Case

/-!
# Two ways to ignore case

The full lower-case form does not depend on the case of ASCII letters, so texts that are equal up to
that case have the same form.  The converse holds for ASCII texts and fails beyond them.

## Main results

* `Text.lower_asciiLower` — the case of ASCII letters is lost in the full lower-case form.
* `Text.lower_eq_of_equalsIgnoringCase` — the comparison in ASCII is the finer one.
* `Text.lower_eq_iff_of_ascii` — on ASCII texts the two comparisons agree.
-/

namespace QueryGateway
namespace Text

/-! ### Characters -/

theorem toNat_toLower (c : Char) :
    c.toLower.toNat = if 65 ≤ c.toNat ∧ c.toNat ≤ 90 then c.toNat + 32 else c.toNat := by
  unfold Char.toLower
  by_cases h : 65 ≤ c.toNat ∧ c.toNat ≤ 90
  · have hc : c.val ≥ 'A'.val ∧ c.val ≤ 'Z'.val := h
    rw [dif_pos hc, if_pos h]
    show (c.val + 32).toNat = c.val.toNat + 32
    have hle : c.val.toNat ≤ 90 := h.2
    rw [UInt32.toNat_add]
    show (c.val.toNat + 32) % 2 ^ 32 = _
    omega
  · have hc : ¬(c.val ≥ 'A'.val ∧ c.val ≤ 'Z'.val) := h
    rw [dif_neg hc, if_neg h]

theorem toLower_eq_self {c : Char} (h : ¬(65 ≤ c.toNat ∧ c.toNat ≤ 90)) : c.toLower = c := by
  refine Char.toNat_inj.mp ?_
  rw [toNat_toLower, if_neg h]

@[simp] theorem toLower_toLower (c : Char) : c.toLower.toLower = c.toLower := by
  refine toLower_eq_self ?_
  rw [toNat_toLower]
  split <;> omega

/-- Only one character is turned into a character that is no lower-case letter. -/
theorem toLower_eq_iff {c d : Char} (h : ¬(97 ≤ d.toNat ∧ d.toNat ≤ 122)) :
    c.toLower = d ↔ c = d ∧ ¬(65 ≤ d.toNat ∧ d.toNat ≤ 90) := by
  rw [← Char.toNat_inj, ← Char.toNat_inj, toNat_toLower]
  split <;> omega

/-- Membership in a property does not depend on the case of ASCII letters, if no boundary separates
letters of one case and the first letter is a member in both cases or in none. -/
theorem within_toLower {bounds : List Nat}
    (h : bounds.all fun b => (b ≤ 65 || 90 < b) && (b ≤ 97 || 122 < b))
    (hfirst : within bounds 'a' = within bounds 'A') (c : Char) :
    within bounds c.toLower = within bounds c := by
  by_cases hc : 65 ≤ c.toNat ∧ c.toNat ≤ 90
  · rw [List.all_eq_true] at h
    have hupper : within bounds c = within bounds 'A' := by
      unfold within
      rw [List.countP_congr]
      intro b hb
      have := h b hb
      simp only [Bool.and_eq_true, Bool.or_eq_true, decide_eq_true_eq] at this ⊢
      show b ≤ c.toNat ↔ b ≤ 65
      omega
    have hlower : within bounds c.toLower = within bounds 'a' := by
      unfold within
      rw [List.countP_congr]
      intro b hb
      have := h b hb
      simp only [Bool.and_eq_true, Bool.or_eq_true, decide_eq_true_eq] at this ⊢
      rw [toNat_toLower, if_pos hc]
      show b ≤ c.toNat + 32 ↔ b ≤ 97
      omega
    rw [hupper, hlower, hfirst]
  · rw [toLower_eq_self hc]

theorem within_casedBounds_toLower (c : Char) :
    within casedBounds c.toLower = within casedBounds c :=
  within_toLower (by decide +kernel) (by decide +kernel) c

theorem within_caseIgnorableBounds_toLower (c : Char) :
    within caseIgnorableBounds c.toLower = within caseIgnorableBounds c :=
  within_toLower (by decide +kernel) (by decide +kernel) c

@[simp] theorem startsCased_map_toLower (cs : List Char) :
    startsCased (cs.map Char.toLower) = startsCased cs := by
  have hignored : within caseIgnorableBounds ∘ Char.toLower = within caseIgnorableBounds :=
    funext within_caseIgnorableBounds_toLower
  have hcased : within casedBounds ∘ Char.toLower = within casedBounds :=
    funext within_casedBounds_toLower
  unfold startsCased
  rw [List.dropWhile_map, hignored, List.head?_map, Option.map_map, hcased]

@[simp] theorem lowerChar_toLower (c : Char) : lowerChar c.toLower = lowerChar c := by
  by_cases hc : 65 ≤ c.toNat ∧ c.toNat ≤ 90
  · have hlower : c.toLower.toNat < 0x80 := by
      rw [toNat_toLower, if_pos hc]
      omega
    unfold lowerChar
    rw [if_pos hlower, if_pos (by omega), toLower_toLower]
  · rw [toLower_eq_self hc]

/-! ### Texts -/

theorem lowerAfter_map_toLower (before cs : List Char) :
    lowerAfter (before.map Char.toLower) (cs.map Char.toLower) = lowerAfter before cs := by
  induction cs generalizing before with
  | nil => rfl
  | cons c cs ih =>
    have hsigma : c.toLower = 'Σ' ↔ c = 'Σ' := by
      rw [toLower_eq_iff (by decide)]
      exact and_iff_left (by decide)
    have hdotted : c.toLower = 'İ' ↔ c = 'İ' := by
      rw [toLower_eq_iff (by decide)]
      exact and_iff_left (by decide)
    simp only [List.map_cons, lowerAfter, hsigma, hdotted, startsCased_map_toLower,
      lowerChar_toLower]
    rw [← List.map_cons, ih]

/-- The case of ASCII letters is lost in the full lower-case form. -/
@[simp] theorem lower_asciiLower (text : String) : lower (asciiLower text) = lower text := by
  unfold lower asciiLower
  rw [String.toList_ofList]
  exact congrArg String.ofList (lowerAfter_map_toLower [] text.toList)

theorem equalsIgnoringCase_iff {s t : String} :
    equalsIgnoringCase s t = true ↔ s.toList.map Char.toLower = t.toList.map Char.toLower := by
  unfold equalsIgnoringCase
  exact beq_iff_eq

theorem equalsIgnoringCase_iff_asciiLower {s t : String} :
    equalsIgnoringCase s t = true ↔ asciiLower s = asciiLower t := by
  rw [equalsIgnoringCase_iff]
  unfold asciiLower
  exact String.ofList_inj.symm

/-- The comparison in ASCII is the finer one. -/
theorem lower_eq_of_equalsIgnoringCase {s t : String} (h : equalsIgnoringCase s t = true) :
    lower s = lower t := by
  rw [← lower_asciiLower s, ← lower_asciiLower t, equalsIgnoringCase_iff_asciiLower.mp h]

theorem lowerAfter_of_ascii {cs : List Char} (h : ∀ c ∈ cs, c.toNat < 0x80) (before : List Char) :
    lowerAfter before cs = cs.map Char.toLower := by
  induction cs generalizing before with
  | nil => rfl
  | cons c cs ih =>
    have hc : c.toNat < 0x80 := h c List.mem_cons_self
    have hne : ∀ d : Char, 0x80 ≤ d.toNat → c ≠ d := by
      rintro d hd rfl
      omega
    rw [lowerAfter, if_neg (hne 'Σ' (by decide)), if_neg (hne 'İ' (by decide)), lowerChar,
      if_pos hc, ih fun d hd => h d (List.mem_cons_of_mem c hd)]
    rfl

/-- On ASCII texts the two comparisons agree. -/
theorem lower_eq_iff_of_ascii {s t : String} (hs : ∀ c ∈ s.toList, c.toNat < 0x80)
    (ht : ∀ c ∈ t.toList, c.toNat < 0x80) :
    lower s = lower t ↔ equalsIgnoringCase s t = true := by
  rw [equalsIgnoringCase_iff]
  unfold lower
  rw [lowerAfter_of_ascii hs, lowerAfter_of_ascii ht, String.ofList_inj]

end Text
end QueryGateway
