import QueryGateway.Json.Printer
import QueryGateway.Json.Reading
import QueryGateway.Proofs.Decimal.Digits
import QueryGateway.Proofs.Decimal.Shortest

/-!
# Reading back numbers in JSON

Every number is written as a numeral that the reader takes back as it stands, in front of whatever
may follow a value.  For integers the numeral is the number; for doubles it need not be, because the
quick reading of decimals is not exact.

## Main definitions

* `Json.Numeral.chars` — the text of a numeral; `Json.Numeral.WellFormed` — the numerals of JSON.
* `Json.Number.numeral` — the numeral as which a number is written.
* `Json.EndsValue` — what may follow a value.

## Main results

* `Json.Document.readValue_numeral` — a numeral is read back as it stands.
* `Json.Number.chars_eq`, `Json.Number.wellFormed_numeral` — numbers are written as numerals.
* `Json.number?_whole` — integers are read back.
-/

namespace QueryGateway
namespace Json

/-! ### Numerals as they are written -/

namespace Numeral

/-- The text of a fraction, if there is one. -/
def fractionChars : Option (List Char) → List Char
  | none => []
  | some digits => '.' :: digits

/-- The text of an exponent, if there is one; a positive exponent has its sign. -/
def exponentChars : Option (Bool × List Char) → List Char
  | none => []
  | some (negative, digits) => 'e' :: (if negative then '-' else '+') :: digits

/-- The text of a numeral. -/
def chars (n : Numeral) : List Char :=
  (if n.negative then ['-'] else []) ++
    (n.whole ++ (fractionChars n.fraction ++ exponentChars n.exponent))

/-- One digit or more. -/
def IsDigits (digits : List Char) : Prop := digits ≠ [] ∧ ∀ c ∈ digits, c.isDigit = true

/-- The numeral is one of JSON: no zeros in front, and digits wherever a part is there. -/
structure WellFormed (n : Numeral) : Prop where
  whole : IsDigits n.whole
  no_zero : n.whole = ['0'] ∨ n.whole.head? ≠ some '0'
  fraction : ∀ digits ∈ n.fraction, IsDigits digits
  exponent : ∀ e ∈ n.exponent, IsDigits e.2

end Numeral

/-- What may follow a value: nothing, or what separates it from the next or closes its container. -/
def EndsValue (rest : List Glyph) : Prop :=
  ∀ g ∈ rest.head?, g = some ',' ∨ g = some ']' ∨ g = some '\x7d'

theorem endsValue_nil : EndsValue [] := by simp [EndsValue]

namespace Document

/-- The input does not go on with a digit. -/
def NoDigit (rest : List Glyph) : Prop := ∀ c, rest.head? = some (some c) → c.isDigit = false

theorem noDigit_cons {c : Char} (h : c.isDigit = false) (rest : List Glyph) :
    NoDigit (some c :: rest) := by
  intro d hd
  obtain rfl : c = d := by simpa using hd
  exact h

theorem noDigit_of_endsValue {rest : List Glyph} (h : EndsValue rest) : NoDigit rest := by
  intro c hc
  rcases h (some c) hc with h | h | h <;> obtain rfl := Option.some.inj h <;> decide

/-- Digits are read up to the first character that is none. -/
theorem spanDigits_append {digits : List Char} (h : ∀ c ∈ digits, c.isDigit = true)
    {rest : List Glyph} (hrest : NoDigit rest) :
    spanDigits (digits.map some ++ rest) = (digits, rest) := by
  induction digits with
  | nil =>
    rcases rest with _ | ⟨g, rest⟩
    · rfl
    · cases g with
      | none => rfl
      | some c =>
        have hc := hrest c rfl
        simp [spanDigits, hc]
  | cons c digits ih =>
    have hc := h c List.mem_cons_self
    have hdigits := ih fun d hd => h d (List.mem_cons_of_mem c hd)
    rw [List.map_cons, List.cons_append, spanDigits, if_pos hc, hdigits]

theorem readDigits_append {digits : List Char} (h : Numeral.IsDigits digits) {rest : List Glyph}
    (hrest : NoDigit rest) : readDigits (digits.map some ++ rest) = some (digits, rest) := by
  obtain ⟨c, cs, rfl⟩ := List.exists_cons_of_ne_nil h.1
  unfold readDigits
  rw [spanDigits_append h.2 hrest]

theorem readWhole_append {digits : List Char} (h : Numeral.IsDigits digits)
    (hzero : digits = ['0'] ∨ digits.head? ≠ some '0') {rest : List Glyph}
    (hrest : NoDigit rest) : readWhole (digits.map some ++ rest) = some (digits, rest) := by
  unfold readWhole
  rw [readDigits_append h hrest]
  dsimp only [Option.bind_eq_bind, Option.bind_some]
  split
  · next d ds =>
    rcases hzero with hzero | hzero
    · cases hzero
    · exact absurd rfl hzero
  · rfl

theorem readExponent_append {e : Option (Bool × List Char)}
    (h : ∀ x ∈ e, Numeral.IsDigits x.2) {rest : List Glyph} (hrest : EndsValue rest) :
    readExponent ((Numeral.exponentChars e).map some ++ rest) = some (e, rest) := by
  have hdigit := noDigit_of_endsValue hrest
  match e with
  | none =>
    show readExponent rest = _
    have hmark : ∀ c, rest.head? = some (some c) → c ≠ 'e' ∧ c ≠ 'E' := by
      intro c hc
      rcases hrest (some c) hc with h | h | h <;> obtain rfl := Option.some.inj h <;> decide
    rw [readExponent]
    · rintro r rfl
      exact (hmark 'e' rfl).1 rfl
    · rintro r rfl
      exact (hmark 'E' rfl).2 rfl
  | some (true, digits) =>
    show (readDigits (digits.map some ++ rest)).map _ = _
    rw [readDigits_append (h _ rfl) hdigit]
    rfl
  | some (false, digits) =>
    show (readDigits (digits.map some ++ rest)).map _ = _
    rw [readDigits_append (h _ rfl) hdigit]
    rfl

/-- What follows the whole digits of a numeral is no digit, and a point only with a fraction. -/
theorem noDigit_exponent {e : Option (Bool × List Char)} {rest : List Glyph}
    (hrest : EndsValue rest) : NoDigit ((Numeral.exponentChars e).map some ++ rest) ∧
      ∀ r, (Numeral.exponentChars e).map some ++ rest ≠ some '.' :: r := by
  match e with
  | none =>
    refine ⟨noDigit_of_endsValue hrest, ?_⟩
    rintro r (rfl : rest = _)
    rcases hrest (some '.') rfl with h | h | h <;> cases h
  | some (negative, digits) =>
    refine ⟨noDigit_cons (by decide) _, ?_⟩
    intro r h
    simp [Numeral.exponentChars] at h

theorem readFraction_append {f : Option (List Char)} (h : ∀ x ∈ f, Numeral.IsDigits x)
    {rest : List Glyph} (hdigit : NoDigit rest) (hpoint : ∀ r, rest ≠ some '.' :: r) :
    readFraction ((Numeral.fractionChars f).map some ++ rest) = some (f, rest) := by
  match f with
  | none =>
    show readFraction rest = _
    rw [readFraction]
    exact hpoint
  | some digits =>
    show (readDigits (digits.map some ++ rest)).bind _ = _
    rw [readDigits_append (h _ rfl) hdigit]
    rfl

theorem noDigit_fraction {f : Option (List Char)} {rest : List Glyph} (hrest : NoDigit rest) :
    NoDigit ((Numeral.fractionChars f).map some ++ rest) := by
  match f with
  | none => exact hrest
  | some digits => exact noDigit_cons (by decide) _

/-- A numeral after its sign is read as it stands. -/
theorem readNumeral_append {n : Numeral} (h : n.WellFormed) {rest : List Glyph}
    (hrest : EndsValue rest) :
    readNumeral n.negative ((n.whole ++ (Numeral.fractionChars n.fraction ++
      Numeral.exponentChars n.exponent)).map some ++ rest) = some (n, rest) := by
  obtain ⟨hdigit, hpoint⟩ := noDigit_exponent (e := n.exponent) hrest
  unfold readNumeral
  rw [List.map_append, List.map_append, List.append_assoc, List.append_assoc,
    readWhole_append h.whole h.no_zero (noDigit_fraction hdigit)]
  dsimp only [Option.bind_eq_bind, Option.bind_some]
  rw [readFraction_append h.fraction hdigit hpoint]
  dsimp only [Option.bind_some]
  rw [readExponent_append h.exponent hrest]
  rfl

/-- A numeral is read as it stands, in front of what may follow a value. -/
theorem readValue_numeral {n : Numeral} (h : n.WellFormed) {rest : List Glyph}
    (hrest : EndsValue rest) (fuel : Nat) :
    readValue (fuel + 1) (n.chars.map some ++ rest) = some (.number n, rest) := by
  have hread := readNumeral_append h hrest
  unfold Numeral.chars
  cases hn : n.negative with
  | true =>
    rw [hn] at hread
    show (readNumeral true ((n.whole ++ (Numeral.fractionChars n.fraction ++
      Numeral.exponentChars n.exponent)).map some ++ rest)).map _ = _
    rw [hread]
    rfl
  | false =>
    rw [hn] at hread
    obtain ⟨c, cs, hc⟩ := List.exists_cons_of_ne_nil h.whole.1
    have hfirst : ∀ {d : Char}, c = d → d.isDigit = true := by
      rintro _ rfl
      exact h.whole.2 c (hc ▸ List.mem_cons_self)
    rw [hc] at hread ⊢
    rw [if_neg (by simp), List.nil_append]
    rw [List.cons_append, List.map_cons, List.cons_append] at hread ⊢
    rw [readValue, hread]
    · rfl
    -- none of the other values begins with a digit
    all_goals
      intro _ he
      exact absurd (hfirst (Option.some.inj (List.cons.inj he).1)) (by decide)

end Document

/-! ### Numbers as numerals -/

/-- Digits with the point before, among or after them, as a numeral. -/
def plainNumeral (negative : Bool) (digits : List Char) (point : Int) : Numeral :=
  if point ≤ 0 then
    ⟨negative, ['0'], some (List.replicate point.natAbs '0' ++ digits), none⟩
  else if digits.length ≤ point.natAbs then
    ⟨negative, digits ++ List.replicate (point.natAbs - digits.length) '0', some ['0'], none⟩
  else ⟨negative, digits.take point.natAbs, some (digits.drop point.natAbs), none⟩

/-- One digit, the others after the point, and an exponent, as a numeral. -/
def scientificNumeral (negative : Bool) (digits : List Char) (point : Int) : Numeral :=
  ⟨negative, digits.take 1, if digits.length ≤ 1 then none else some (digits.drop 1),
    some (decide (point - 1 < 0), Decimal.digitsOf (point - 1).natAbs)⟩

/-- Digits with a point, in the notation that the layout of doubles has for them. -/
def laidOutNumeral (negative : Bool) (digits : List Char) (point : Int) : Numeral :=
  if doubleLayout.plainFrom ≤ point ∧ point ≤ doubleLayout.plainTo then
    plainNumeral negative digits point
  else scientificNumeral negative digits point

/-- The numeral of a decimal. -/
def decimalNumeral (negative : Bool) (d : Decimal) : Numeral :=
  laidOutNumeral negative (Decimal.digitsOf d.digits)
    (d.exponent + (Decimal.digitsOf d.digits).length)

/-- The numeral as which a double is written. -/
def doubleNumeral (x : Binary64) : Numeral :=
  if x.isZero then ⟨x.negative, ['0'], some ['0'], none⟩
  else decimalNumeral x.negative (Decimal.shortest x)

/-- The numeral as which a number is written. -/
def Number.numeral : Number → Numeral
  | .whole n _ => ⟨decide (n < 0), Decimal.digitsOf n.natAbs, none, none⟩
  | .float x _ => doubleNumeral x

theorem chars_plainNumeral (negative : Bool) (digits : List Char) (point : Int) :
    (plainNumeral negative digits point).chars =
      (if negative then ['-'] else []) ++ Decimal.plain digits point := by
  unfold plainNumeral Decimal.plain
  split
  · simp [Numeral.chars, Numeral.fractionChars, Numeral.exponentChars]
  · split <;> simp [Numeral.chars, Numeral.fractionChars, Numeral.exponentChars]

theorem chars_scientificNumeral (negative : Bool) (digits : List Char) (point : Int) :
    (scientificNumeral negative digits point).chars =
      (if negative then ['-'] else []) ++ doubleLayout.scientific digits point := by
  unfold scientificNumeral Decimal.Layout.scientific
  by_cases hlength : digits.length ≤ 1 <;> by_cases hpoint : point - 1 < 0 <;>
    simp [Numeral.chars, Numeral.fractionChars, Numeral.exponentChars, doubleLayout, hlength,
      hpoint]

theorem chars_laidOutNumeral (negative : Bool) (digits : List Char) (point : Int) :
    (laidOutNumeral negative digits point).chars = (if negative then ['-'] else []) ++
      (if doubleLayout.plainFrom ≤ point ∧ point ≤ doubleLayout.plainTo then
        Decimal.plain digits point
      else doubleLayout.scientific digits point) := by
  unfold laidOutNumeral
  split
  · exact chars_plainNumeral negative digits point
  · exact chars_scientificNumeral negative digits point

/-- A number is written as its numeral. -/
theorem Number.chars_eq (n : Number) : n.chars = n.numeral.chars := by
  cases n with
  | whole n h =>
    simp [Number.chars, integerChars, Number.numeral, Numeral.chars, Numeral.fractionChars,
      Numeral.exponentChars]
  | float x h =>
    show doubleLayout.write x = (doubleNumeral x).chars
    unfold Decimal.Layout.write doubleNumeral
    by_cases hzero : x.isZero = true
    · rw [if_pos hzero, if_pos hzero]
      simp [Numeral.chars, Numeral.fractionChars, Numeral.exponentChars]
    · rw [if_neg hzero, if_neg hzero]
      exact (chars_laidOutNumeral _ _ _).symm

/-! ### The numerals of numbers are well formed -/

theorem isDigits_toDigits (n : Nat) : Numeral.IsDigits (Nat.toDigits 10 n) :=
  ⟨Nat.toDigits_ne_nil, fun _ => QueryGateway.Numeral.isDigit_of_mem_toDigits⟩

theorem toDigits_no_zero (n : Nat) :
    Nat.toDigits 10 n = ['0'] ∨ (Nat.toDigits 10 n).head? ≠ some '0' := by
  rcases Nat.eq_zero_or_pos n with rfl | hn
  · exact Or.inl rfl
  · exact Or.inr (QueryGateway.Numeral.head_toDigits_ne_zero hn)

theorem isDigits_zero : Numeral.IsDigits ['0'] := by
  refine ⟨by simp, ?_⟩
  rintro c hc
  obtain rfl := List.mem_singleton.mp hc
  rfl

theorem isDigit_of_mem_replicate {n : Nat} {c : Char} (h : c ∈ List.replicate n '0') :
    c.isDigit = true := by
  obtain rfl := (List.mem_replicate.mp h).2
  rfl

theorem wellFormed_plainNumeral (negative : Bool) {digits : List Char} {point : Int}
    (h : Numeral.IsDigits digits)
    (hzero : digits.head? ≠ some '0' ∨ digits = ['0'] ∧ point ≤ 1) :
    (plainNumeral negative digits point).WellFormed := by
  unfold plainNumeral
  split
  · refine ⟨isDigits_zero, Or.inl rfl, ?_, by simp⟩
    rintro _ ⟨⟩
    refine ⟨by simp [h.1], fun c hc => ?_⟩
    rcases List.mem_append.mp hc with hc | hc
    · exact isDigit_of_mem_replicate hc
    · exact h.2 c hc
  split
  · next hpoint hlength =>
    refine ⟨⟨by simp [h.1], fun c hc => ?_⟩, ?_, ?_, by simp⟩
    · rcases List.mem_append.mp hc with hc | hc
      · exact h.2 c hc
      · exact isDigit_of_mem_replicate hc
    · rcases hzero with hzero | ⟨rfl, hle⟩
      · refine Or.inr ?_
        obtain ⟨c, cs, rfl⟩ := List.exists_cons_of_ne_nil h.1
        exact hzero
      · obtain rfl : point = 1 := by omega
        exact Or.inl rfl
    · rintro _ ⟨⟩
      exact isDigits_zero
  · next hpoint hlength =>
    obtain ⟨c, cs, rfl⟩ := List.exists_cons_of_ne_nil h.1
    obtain ⟨k, hk⟩ : ∃ k, point.natAbs = k + 1 := ⟨point.natAbs - 1, by omega⟩
    rw [hk]
    refine ⟨⟨by simp, fun d hd => h.2 d (List.mem_of_mem_take hd)⟩, Or.inr ?_, ?_, by simp⟩
    · rcases hzero with hzero | ⟨hzero, hle⟩
      · exact hzero
      · obtain ⟨rfl, rfl⟩ := List.cons.inj hzero
        simp at hlength
        omega
    · rintro _ ⟨⟩
      refine ⟨?_, fun d hd => h.2 d (List.mem_of_mem_drop hd)⟩
      rw [hk] at hlength
      simpa [List.drop_eq_nil_iff] using hlength

theorem wellFormed_scientificNumeral (negative : Bool) {digits : List Char} (point : Int)
    (h : Numeral.IsDigits digits) : (scientificNumeral negative digits point).WellFormed := by
  obtain ⟨c, cs, rfl⟩ := List.exists_cons_of_ne_nil h.1
  refine ⟨⟨by simp [scientificNumeral], fun d hd => h.2 d (List.mem_of_mem_take hd)⟩, ?_, ?_, ?_⟩
  · by_cases hc : c = '0'
    · exact Or.inl (by simp [scientificNumeral, hc])
    · exact Or.inr (by simp [scientificNumeral, hc])
  · intro ds hds
    unfold scientificNumeral at hds
    dsimp only at hds
    split at hds
    · cases hds
    · next hlength =>
      obtain rfl := Option.some.inj hds
      refine ⟨?_, fun d hd => h.2 d (List.mem_of_mem_drop hd)⟩
      simpa using hlength
  · rintro _ ⟨⟩
    exact isDigits_toDigits _

theorem wellFormed_decimalNumeral (negative : Bool) {d : Decimal} (h : d.Significant) :
    (decimalNumeral negative d).WellFormed := by
  have hdigits := isDigits_toDigits d.digits
  unfold decimalNumeral laidOutNumeral
  split
  · refine wellFormed_plainNumeral negative hdigits ?_
    rcases h with h | rfl
    · exact Or.inl (QueryGateway.Numeral.head_toDigits_ne_zero (Nat.pos_of_ne_zero h))
    · exact Or.inr ⟨rfl, Int.le_refl 1⟩
  · exact wellFormed_scientificNumeral negative _ hdigits

/-- The numeral of a number is one of JSON. -/
theorem Number.wellFormed_numeral (n : Number) : n.numeral.WellFormed := by
  cases n with
  | whole n _ =>
    exact ⟨isDigits_toDigits _, toDigits_no_zero _, by simp [numeral], by simp [numeral]⟩
  | float x _ =>
    show (doubleNumeral x).WellFormed
    unfold doubleNumeral
    split
    · refine ⟨isDigits_zero, Or.inl rfl, ?_, by simp⟩
      rintro _ ⟨⟩
      exact isDigits_zero
    · next hzero =>
      exact wellFormed_decimalNumeral _ (Decimal.shortest_significant (by simpa using hzero))

theorem integer?_whole (n : Int) (h : -9223372036854775808 ≤ n ∧ n < 18446744073709551616) :
    (Number.whole n h).numeral.integer? = some n := by
  unfold Numeral.integer? Number.numeral
  dsimp only
  rw [Decimal.digitsOf, QueryGateway.Numeral.natOf_toDigits]
  by_cases hn : n < 0
  · rw [if_pos (by simpa using hn), if_neg (by omega)]
    congr 1
    omega
  · rw [if_neg (by simpa using hn)]
    congr 1
    omega

/-- An integer is read back. -/
theorem number?_whole (n : Int) (h : -9223372036854775808 ≤ n ∧ n < 18446744073709551616) :
    (Number.whole n h).numeral.number? = some (.whole n h) := by
  unfold Numeral.number?
  rw [integer?_whole]
  dsimp only
  rw [dif_pos h]

end Json
end QueryGateway
