import QueryGateway.Decimal.Reading
import QueryGateway.Proofs.Calendar.Reading

/-!
# Integers in texts

An integer in a text is an optional sign and one or more decimal digits, as many as there are, and
there may be blanks around it.  This is what is read, and nothing else is.

## Main definitions

* `Numeral.IsSign`, `Numeral.WritesInteger` — characters that write an integer.

## Main results

* `Text.trimChars_append` — blanks around a text are taken off.
* `Numeral.integer?_eq_some_iff`, `Numeral.integer?_trim_eq_some_iff` — which integer is read from
  a text, without and with blanks around it.
-/

namespace QueryGateway

/-! ### Blanks -/

namespace Text

/-- Blanks in front of what is not blank are passed over. -/
theorem dropWhile_isBlank_append {before cs after : List Char}
    (hbefore : ∀ c ∈ before, isBlank c = true) (hne : cs ≠ [])
    (hcs : ∀ c ∈ cs, isBlank c = false) :
    (before ++ (cs ++ after)).dropWhile isBlank = cs ++ after := by
  obtain ⟨c, ds, rfl⟩ := List.exists_cons_of_ne_nil hne
  have hc : ¬isBlank c = true := by simp [hcs c List.mem_cons_self]
  rw [List.dropWhile_append_of_pos hbefore, List.cons_append, List.dropWhile_cons_of_neg hc]

/-- Blanks around what is not blank are taken off. -/
theorem trimChars_append {before cs after : List Char} (hbefore : ∀ c ∈ before, isBlank c = true)
    (hafter : ∀ c ∈ after, isBlank c = true) (hne : cs ≠ [])
    (hcs : ∀ c ∈ cs, isBlank c = false) : trimChars (before ++ cs ++ after) = cs := by
  have hback : (after.reverse ++ (cs.reverse ++ [])).dropWhile isBlank = cs.reverse ++ [] :=
    dropWhile_isBlank_append (fun c hc => hafter c (List.mem_reverse.mp hc))
      (List.reverse_ne_nil_iff.mpr hne) (fun c hc => hcs c (List.mem_reverse.mp hc))
  rw [List.append_nil] at hback
  unfold trimChars
  rw [List.append_assoc, dropWhile_isBlank_append hbefore hne hcs, List.reverse_append, hback,
    List.reverse_reverse]

/-- What is taken off is blank. -/
theorem exists_eq_append_trimChars (cs : List Char) : ∃ before after,
    cs = before ++ trimChars cs ++ after ∧ ∀ c ∈ before ++ after, isBlank c = true := by
  have hfront := List.takeWhile_append_dropWhile (p := isBlank) (l := cs)
  have hback := List.takeWhile_append_dropWhile (p := isBlank) (l := (cs.dropWhile isBlank).reverse)
  refine ⟨cs.takeWhile isBlank, ((cs.dropWhile isBlank).reverse.takeWhile isBlank).reverse, ?_, ?_⟩
  · unfold trimChars
    rw [List.append_assoc, ← List.reverse_append, hback, List.reverse_reverse, hfront]
  · intro c hc
    rcases List.mem_append.mp hc with hc | hc
    · exact List.all_eq_true.mp List.all_takeWhile c hc
    · exact List.all_eq_true.mp List.all_takeWhile c (List.mem_reverse.mp hc)

end Text

/-! ### Integers -/

namespace Numeral

/-- A sign, which may be missing, and the factor that it stands for. -/
inductive IsSign : List Char → Int → Prop
  | none : IsSign [] 1
  | plus : IsSign ['+'] 1
  | minus : IsSign ['-'] (-1)

/-- The characters are an optional sign and one or more decimal digits that write an integer. -/
def WritesInteger (cs : List Char) (n : Int) : Prop :=
  ∃ sign factor digits, cs = sign ++ digits ∧ IsSign sign factor ∧ digits ≠ [] ∧
    (∀ c ∈ digits, c.isDigit = true) ∧ n = factor * Nat.ofDigitChars 10 digits 0

/-- What follows a sign is digits. -/
theorem splitSign_append {sign digits : List Char} {factor : Int} (hsign : IsSign sign factor)
    (hdigits : ∀ c ∈ digits, c.isDigit = true) :
    splitSign (sign ++ digits) = (decide (factor = -1), digits) := by
  cases hsign with
  | none =>
    unfold splitSign
    rw [List.nil_append]
    -- digits are no sign
    split
    · exact absurd (hdigits '-' List.mem_cons_self) (by decide)
    · exact absurd (hdigits '+' List.mem_cons_self) (by decide)
    · rfl
  | plus | minus => rfl

theorem exists_isSign (cs : List Char) : ∃ sign factor,
    IsSign sign factor ∧ cs = sign ++ (splitSign cs).2 ∧
      (splitSign cs).1 = decide (factor = -1) := by
  unfold splitSign
  split
  · exact ⟨_, _, .minus, rfl, rfl⟩
  · exact ⟨_, _, .plus, rfl, rfl⟩
  · exact ⟨_, _, .none, rfl, rfl⟩

/-- The sign of an integer is its factor. -/
theorem IsSign.apply_eq {sign : List Char} {factor : Int} (h : IsSign sign factor) (n : Nat) :
    (if decide (factor = -1) = true then -(n : Int) else n) = factor * n := by
  cases h with
  | none | plus => exact (Int.one_mul _).symm
  | minus => exact (Int.neg_one_mul _).symm

/-- Which integer is read from a text. -/
theorem integer?_eq_some_iff {text : String} {n : Int} :
    integer? text = some n ↔ WritesInteger text.toList n := by
  unfold integer?
  constructor
  · intro h
    obtain ⟨sign, factor, hsign, htext, hnegative⟩ := exists_isSign text.toList
    dsimp only at h
    split at h
    · next hdigits =>
      rw [hnegative, hsign.apply_eq] at h
      exact ⟨sign, factor, _, htext, hsign, hdigits.1, List.all_eq_true.mp hdigits.2,
        (Option.some.inj h).symm⟩
    · cases h
  · rintro ⟨sign, factor, digits, htext, hsign, hne, hdigits, rfl⟩
    rw [htext, splitSign_append hsign hdigits]
    dsimp only
    rw [if_pos ⟨hne, List.all_eq_true.mpr hdigits⟩, hsign.apply_eq]
    rfl

theorem WritesInteger.ne_nil {cs : List Char} {n : Int} (h : WritesInteger cs n) : cs ≠ [] := by
  obtain ⟨sign, factor, digits, rfl, -, hne, -⟩ := h
  exact List.append_ne_nil_of_right_ne_nil sign hne

/-- There are no blanks in an integer. -/
theorem WritesInteger.not_isBlank {cs : List Char} {n : Int} (h : WritesInteger cs n) :
    ∀ c ∈ cs, Text.isBlank c = false := by
  obtain ⟨sign, factor, digits, rfl, hsign, -, hdigits, -⟩ := h
  refine List.forall_mem_append.mpr ⟨?_, fun c hc => Calendar.isBlank_of_isDigit (hdigits c hc)⟩
  cases hsign with
  | none => exact nofun
  | plus | minus => exact List.forall_mem_singleton.mpr (by decide)

/-- Which integer is read from a text that may have blanks around it. -/
theorem integer?_trim_eq_some_iff {text : String} {n : Int} :
    integer? (Text.trim text) = some n ↔ ∃ before cs after, text.toList = before ++ cs ++ after ∧
      (∀ c ∈ before ++ after, Text.isBlank c = true) ∧ WritesInteger cs n := by
  rw [integer?_eq_some_iff, Text.trim, String.toList_ofList]
  constructor
  · intro h
    obtain ⟨before, after, htext, hblank⟩ := Text.exists_eq_append_trimChars text.toList
    exact ⟨before, _, after, htext, hblank, h⟩
  · rintro ⟨before, cs, after, htext, hblank, h⟩
    obtain ⟨hbefore, hafter⟩ := List.forall_mem_append.mp hblank
    rw [htext, Text.trimChars_append hbefore hafter h.ne_nil h.not_isBlank]
    exact h

end Numeral
end QueryGateway
