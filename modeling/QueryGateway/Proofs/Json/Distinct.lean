import QueryGateway.Proofs.Decimal.Distinct
import QueryGateway.Proofs.Json.Document

/-!
# Distinct values are written distinctly

Two values with the same written form are the same value.  For texts and integers this is because
they are read back.  Doubles need not be read back, but a numeral still has a value of its own, and
the values of two doubles' numerals lie in different intervals.

## Main definitions

* `Json.Numeral.toRat` — the magnitude that a numeral writes.

## Main results

* `Json.Number.numeral_injective` — distinct numbers have distinct numerals.
* `Json.Value.bytes_injective` — distinct values have distinct written forms.
-/

namespace QueryGateway

-- Powers are those of naturals.
attribute [local instance (2000)] instPowNat

namespace Numeral

/-- Zeros at the end multiply by powers of ten. -/
theorem natOf_append_replicate (digits : List Char) (k : Nat) :
    natOf (digits ++ List.replicate k '0') = natOf digits * 10 ^ k := by
  induction k with
  | zero => simp
  | succ k ih =>
    have hlast : ∀ cs : List Char, natOf (cs ++ ['0']) = 10 * natOf cs := by
      intro cs
      unfold natOf
      rw [List.foldl_append]
      rfl
    rw [List.replicate_succ', ← List.append_assoc, hlast, ih, Nat.pow_succ]
    ring

end Numeral

namespace Json

open QueryGateway.Numeral (natOf natOf_toDigits natOf_replicate_append natOf_append_replicate)

/-! ### The values of numerals -/

namespace Numeral

/-- The exponent of a numeral, which is zero if there is none. -/
def power (n : Numeral) : Int :=
  match n.exponent with
  | none => 0
  | some (negative, digits) => if negative then -(natOf digits : Int) else natOf digits

/-- The magnitude that a numeral writes. -/
def toRat (n : Numeral) : ℚ :=
  natOf (n.whole ++ n.fraction.getD []) * (10 : ℚ) ^ (n.power - (n.fraction.getD []).length)

end Numeral

theorem toRat_plainNumeral (negative : Bool) (digits : List Char) (point : Int) :
    (plainNumeral negative digits point).toRat =
      natOf digits * (10 : ℚ) ^ (point - digits.length) := by
  unfold plainNumeral Numeral.toRat Numeral.power
  split
  · next hpoint =>
    dsimp only [Option.getD_some]
    have hdigits : natOf (['0'] ++ (List.replicate point.natAbs '0' ++ digits)) = natOf digits := by
      rw [← List.append_assoc]
      exact natOf_replicate_append (point.natAbs + 1) digits
    rw [hdigits, List.length_append, List.length_replicate]
    congr 2
    omega
  split
  · next hpoint hlength =>
    dsimp only [Option.getD_some]
    obtain ⟨k, hk⟩ : ∃ k, point.natAbs = digits.length + k :=
      ⟨point.natAbs - digits.length, by omega⟩
    have hzeros : digits ++ List.replicate (point.natAbs - digits.length) '0' ++ ['0'] =
        digits ++ List.replicate (k + 1) '0' := by
      rw [hk, Nat.add_sub_cancel_left, List.append_assoc, List.replicate_succ']
    have hexponent : point - digits.length =
        (k + 1 : Nat) + (0 - ((['0'] : List Char).length : Int)) := by
      rw [List.length_singleton]
      omega
    rw [hzeros, natOf_append_replicate, hexponent, zpow_add₀ (by norm_num), zpow_natCast,
      Nat.cast_mul, Nat.cast_pow, mul_assoc]
    rfl
  · next hpoint hlength =>
    dsimp only [Option.getD_some]
    rw [List.take_append_drop, List.length_drop]
    congr 2
    omega

theorem toRat_scientificNumeral (negative : Bool) {digits : List Char} (h : digits ≠ [])
    (point : Int) :
    (scientificNumeral negative digits point).toRat =
      natOf digits * (10 : ℚ) ^ (point - digits.length) := by
  have hlength := List.length_pos_iff.mpr h
  have hparts : digits.take 1 ++ (if digits.length ≤ 1 then none else some (digits.drop 1)).getD []
      = digits := by
    split
    · next hone => rw [Option.getD_none, List.append_nil, List.take_of_length_le hone]
    · rw [Option.getD_some, List.take_append_drop]
  have hfraction : ((if digits.length ≤ 1 then none else some (digits.drop 1)).getD []).length =
      digits.length - 1 := by
    split
    · rw [Option.getD_none, List.length_nil]
      omega
    · rw [Option.getD_some, List.length_drop]
  have hpower : (scientificNumeral negative digits point).power = point - 1 := by
    unfold scientificNumeral Numeral.power Decimal.digitsOf
    dsimp only
    rw [natOf_toDigits]
    split
    · next hnegative => have := of_decide_eq_true hnegative; omega
    · next hnegative => have := of_decide_eq_false (eq_false_of_ne_true hnegative); omega
  unfold Numeral.toRat
  rw [hpower]
  unfold scientificNumeral
  dsimp only
  rw [hparts, hfraction]
  congr 2
  omega

theorem toRat_decimalNumeral (negative : Bool) (d : Decimal) :
    (decimalNumeral negative d).toRat = d.toRat := by
  have hvalue : natOf (Decimal.digitsOf d.digits) = d.digits := natOf_toDigits d.digits
  have hdigits : Decimal.digitsOf d.digits ≠ [] := Nat.toDigits_ne_nil
  unfold decimalNumeral laidOutNumeral Decimal.toRat
  split
  · rw [toRat_plainNumeral, hvalue, add_sub_cancel_right]
  · rw [toRat_scientificNumeral negative hdigits, hvalue, add_sub_cancel_right]

/-! ### Numbers -/

/-- The numeral of a double has a fraction or an exponent. -/
theorem integer?_doubleNumeral (x : Binary64) : (doubleNumeral x).integer? = none := by
  unfold doubleNumeral
  split
  · rfl
  unfold decimalNumeral laidOutNumeral
  split
  · unfold plainNumeral
    split
    · rfl
    · split <;> rfl
  · unfold scientificNumeral Numeral.integer?
    dsimp only
    split
    · next hexponent => cases hexponent
    · rfl

theorem negative_doubleNumeral (x : Binary64) : (doubleNumeral x).negative = x.negative := by
  unfold doubleNumeral decimalNumeral laidOutNumeral plainNumeral scientificNumeral
  split
  · rfl
  split
  · split
    · rfl
    · split <;> rfl
  · rfl

theorem toRat_doubleNumeral_of_isZero {x : Binary64} (h : x.isZero = true) :
    (doubleNumeral x).toRat = 0 := by
  have hzero : natOf ['0', '0'] = 0 := rfl
  unfold doubleNumeral
  rw [if_pos h]
  show ((natOf ['0', '0'] : Nat) : ℚ) * _ = 0
  rw [hzero, Nat.cast_zero, zero_mul]

theorem toRat_doubleNumeral_pos {x : Binary64} (hzero : x.isZero = false)
    (hfinite : x.isFinite = true) : 0 < (doubleNumeral x).toRat := by
  unfold doubleNumeral
  rw [if_neg (by simp [hzero]), toRat_decimalNumeral]
  exact Decimal.toRat_shortest_pos hzero hfinite

/-- The values of the numerals of finite doubles tell their codes apart. -/
theorem code_eq_of_toRat {x y : Binary64} (hx : x.isFinite = true) (hy : y.isFinite = true)
    (h : (doubleNumeral x).toRat = (doubleNumeral y).toRat) : x.code = y.code := by
  cases hxzero : x.isZero with
  | true =>
    cases hyzero : y.isZero with
    | true => rw [beq_iff_eq.mp hxzero, beq_iff_eq.mp hyzero]
    | false =>
      have hpos := toRat_doubleNumeral_pos hyzero hy
      rw [← h, toRat_doubleNumeral_of_isZero hxzero] at hpos
      exact absurd hpos (lt_irrefl 0)
  | false =>
    cases hyzero : y.isZero with
    | true =>
      have hpos := toRat_doubleNumeral_pos hxzero hx
      rw [h, toRat_doubleNumeral_of_isZero hyzero] at hpos
      exact absurd hpos (lt_irrefl 0)
    | false =>
      unfold doubleNumeral at h
      rw [if_neg (by simp [hxzero]), if_neg (by simp [hyzero]), toRat_decimalNumeral,
        toRat_decimalNumeral] at h
      exact Decimal.code_eq_of_shortest hxzero hx hyzero hy h

/-- A double is its sign and its code. -/
theorem eq_of_negative_of_code {x y : Binary64} (hsign : x.negative = y.negative)
    (hcode : x.code = y.code) : x = y := by
  have hxlt := x.bits.toNat_lt
  have hylt := y.bits.toNat_lt
  unfold Binary64.negative at hsign
  unfold Binary64.code at hcode
  have hiff := decide_eq_decide.mp hsign
  have hbits : x.bits.toNat = y.bits.toNat := by omega
  cases x
  cases y
  exact congrArg Binary64.mk (UInt64.toNat_inj.mp hbits)

/-- Distinct numbers have distinct numerals. -/
theorem Number.numeral_injective : Function.Injective Number.numeral := by
  intro a b h
  cases a with
  | whole n hn =>
    cases b with
    | whole m hm =>
      have hinteger := integer?_whole n hn
      rw [h, integer?_whole m hm] at hinteger
      obtain rfl := Option.some.inj hinteger
      rfl
    | float y hy =>
      have hinteger := integer?_whole n hn
      rw [h] at hinteger
      exact absurd ((integer?_doubleNumeral y).symm.trans hinteger) (by simp)
  | float x hx =>
    cases b with
    | whole m hm =>
      have hinteger := integer?_whole m hm
      rw [← h] at hinteger
      exact absurd ((integer?_doubleNumeral x).symm.trans hinteger) (by simp)
    | float y hy =>
      have hdouble : doubleNumeral x = doubleNumeral y := h
      have hsign : x.negative = y.negative := by
        rw [← negative_doubleNumeral, hdouble, negative_doubleNumeral]
      have hcode := code_eq_of_toRat hx hy (congrArg Numeral.toRat hdouble)
      obtain rfl := eq_of_negative_of_code hsign hcode
      rfl

/-! ### Values -/

theorem pieces_injective : Function.Injective pieces := by
  intro s t h
  have hs := Document.text?_pieces s
  rw [h, Document.text?_pieces] at hs
  exact (Option.some.inj hs).symm

namespace Value

mutual

/-- Distinct values are distinct documents. -/
theorem eq_of_document : ∀ a b : Value, a.document = b.document → a = b
  | .null, b, h => by cases b <;> first | rfl | cases h
  | .bool x, b, h => by
    cases b with
    | bool y => obtain rfl := Document.bool.inj h; rfl
    | _ => cases h
  | .number m, b, h => by
    cases b with
    | number n => rw [Number.numeral_injective (Document.number.inj h)]
    | _ => cases h
  | .string s, b, h => by
    cases b with
    | string t => rw [pieces_injective (Document.string.inj h)]
    | _ => cases h
  | .array xs, b, h => by
    cases b with
    | array ys => rw [eq_of_documents xs ys (Document.array.inj h)]
    | _ => cases h
  | .object ms, b, h => by
    cases b with
    | object ns => rw [eq_of_memberDocuments ms ns (Document.object.inj h)]
    | _ => cases h

theorem eq_of_documents : ∀ xs ys : List Value, documents xs = documents ys → xs = ys
  | [], ys, h => by
    cases ys with
    | nil => rfl
    | cons => cases h
  | x :: xs, ys, h => by
    cases ys with
    | nil => cases h
    | cons y ys =>
      obtain ⟨hhead, htail⟩ := List.cons.inj h
      rw [eq_of_document x y hhead, eq_of_documents xs ys htail]

theorem eq_of_memberDocuments : ∀ ms ns : List (String × Value),
    memberDocuments ms = memberDocuments ns → ms = ns
  | [], ns, h => by
    cases ns with
    | nil => rfl
    | cons => cases h
  | (k, x) :: ms, ns, h => by
    cases ns with
    | nil => cases h
    | cons entry ns =>
      obtain ⟨l, y⟩ := entry
      obtain ⟨hhead, htail⟩ := List.cons.inj h
      obtain ⟨hkey, hvalue⟩ := Prod.mk.inj hhead
      rw [pieces_injective hkey, eq_of_document x y hvalue, eq_of_memberDocuments ms ns htail]

end

/-- Distinct values have distinct written forms. -/
theorem bytes_injective : Function.Injective Value.bytes := by
  intro a b h
  have ha := Document.ofBytes?_bytes a
  rw [h, Document.ofBytes?_bytes] at ha
  exact eq_of_document a b (Option.some.inj ha).symm

end Value

end Json
end QueryGateway
