import QueryGateway.Postgres.Column
import QueryGateway.Postgres.Parameter
import QueryGateway.Proofs.Calendar.Reading
import QueryGateway.Proofs.Text.Utf8

/-!
# Binary forms

What is sent in the binary form of a type is read back from it: texts, whole numbers that fit, and
instants that are a whole number of microseconds.  The server counts microseconds and knows no leap
seconds, so an instant within one comes back as one of the second after it.

## Main definitions

* `Instant.Accepted`, `Instant.Held` — the instants that the server takes, and that it can hold.

## Main results

* `Utf8.decode?_encode`, `Bytes.toInt_ofInt` — texts and whole numbers are read back.
* `Utf8.zero_mem_encode` — which texts have a zero byte.
* `Instant.ofMicroseconds?_microseconds` — and instants that are whole.
* `Instant.fitted?_microseconds` — the microseconds of every instant can be sent.
-/

namespace QueryGateway

-- Powers are those of naturals.
attribute [local instance (2000)] instPowNat

/-- A text is read back from its bytes. -/
theorem Utf8.decode?_encode (text : String) : decode? (encode text) = some text := by
  have hmapM : ∀ cs : List Char, (cs.map some).mapM id = some cs := by
    intro cs
    induction cs with
    | nil => rfl
    | cons c cs ih => rw [List.map_cons, List.mapM_cons, ih]; rfl
  rw [decode?, scan_encode, hmapM, Option.map_some, String.ofList_toList]

/-- Only the zero character has a zero byte. -/
theorem Utf8.zero_mem_encode {text : String} (h : 0 ∈ encode text) : '\x00' ∈ text.toList := by
  have hzero : ∀ {n : Nat}, n < 256 → (0 : UInt8) = UInt8.ofNat n → n = 0 := by
    intro n hn h
    rw [← toNat_ofNat_of_lt hn, ← h]
    rfl
  obtain ⟨c, hc, hbyte⟩ := List.mem_flatMap.mp h
  have hvalue : c.val.toNat = 0 := by
    unfold String.utf8EncodeChar at hbyte
    generalize c.val.toNat = v at hbyte
    dsimp only at hbyte
    split at hbyte
    · rw [List.mem_singleton] at hbyte
      exact hzero (by omega) hbyte
    -- the bytes of longer forms have their first bit set
    split at hbyte
    · simp only [List.mem_cons, List.not_mem_nil, or_false] at hbyte
      rcases hbyte with h | h <;> have := hzero (by omega) h <;> omega
    split at hbyte
    · simp only [List.mem_cons, List.not_mem_nil, or_false] at hbyte
      rcases hbyte with h | h | h <;> have := hzero (by omega) h <;> omega
    · simp only [List.mem_cons, List.not_mem_nil, or_false] at hbyte
      rcases hbyte with h | h | h | h <;> have := hzero (by omega) h <;> omega
  have hchar : c = '\x00' := Char.ext (UInt32.toNat_inj.mp hvalue)
  exact hchar ▸ hc

/-- A text is determined by its bytes. -/
theorem Utf8.encode_beq_encode (s t : String) : (encode s == encode t) = decide (s = t) := by
  have hinj : encode s = encode t ↔ s = t := by
    refine ⟨fun h => ?_, congrArg encode⟩
    have := congrArg decode? h
    rwa [decode?_encode, decode?_encode, Option.some.injEq] at this
  rw [Bool.eq_iff_iff, beq_iff_eq, decide_eq_true_iff, hinj]

/-- A whole number that fits in so many bytes is read back from them. -/
theorem Bytes.toInt_ofInt {width : Nat} {n : Int}
    (h : -(256 ^ width : Nat) ≤ 2 * n ∧ 2 * n < (256 ^ width : Nat)) :
    toInt (ofInt width n) = n := by
  have hpos : 0 < 256 ^ width := Nat.pow_pos (by decide)
  unfold toInt
  rw [length_ofInt, ofInt, toNat_ofNat]
  generalize 256 ^ width = size at h hpos ⊢
  rcases Int.lt_or_le n 0 with hn | hn
  · -- a negative number is sent as what it lacks of the next power
    have hmod : n % (size : Int) = n + size := by
      rw [← Int.add_mul_emod_self_left n size 1, Int.mul_one]
      exact Int.emod_eq_of_lt (by omega) (by omega)
    rw [hmod, Nat.mod_eq_of_lt (by omega), if_neg (by omega)]
    omega
  · have hmod : n % (size : Int) = n := Int.emod_eq_of_lt hn (by omega)
    rw [hmod, Nat.mod_eq_of_lt (by omega), if_pos (by omega)]
    omega

namespace Instant

/-- The instant is a whole number of microseconds, and not within a leap second. -/
def Whole (t : Instant) : Prop := t.InRange ∧ t.nanos < 1000000000 ∧ t.nanos % 1000 = 0

instance (t : Instant) : Decidable t.Whole := inferInstanceAs (Decidable (_ ∧ _))

/-- The number of microseconds of the instant is one that timestamps can have. -/
def Accepted (times : Int → Prop) (t : Instant) : Prop := t.WellFormed ∧ times t.microseconds

/-- The instant is whole, and timestamps can have its number of microseconds. -/
def Held (times : Int → Prop) (t : Instant) : Prop := t.Whole ∧ times t.microseconds

theorem microseconds_eq {t : Instant} (h : t.nanos % 1000 = 0) :
    t.microseconds = (t.seconds - Date.millennium * 86400) * 1000000 + (t.nanos / 1000 : Nat) := by
  unfold microseconds
  have hwhole : (t.seconds - Date.millennium * 86400) * 1000000000 + (t.nanos : Int) =
      1000 * ((t.seconds - Date.millennium * 86400) * 1000000 + (t.nanos / 1000 : Nat)) := by
    omega
  rw [hwhole, Int.mul_tdiv_cancel_left _ (by decide)]

/-- An instant that is whole is read back from its microseconds. -/
theorem ofMicroseconds?_microseconds {t : Instant} (h : t.Whole) :
    ofMicroseconds? t.microseconds = some t := by
  obtain ⟨hrange, hnanos, hmicros⟩ := h
  have hinstant : (⟨Date.millennium * 86400 + t.microseconds / 1000000,
      (t.microseconds % 1000000).toNat * 1000⟩ : Instant) = t := by
    rw [microseconds_eq hmicros]
    obtain ⟨seconds, nanos⟩ := t
    dsimp only at hnanos hmicros ⊢
    rw [Date.millennium_eq, Instant.mk.injEq]
    constructor <;> omega
  unfold ofMicroseconds?
  rw [hinstant]
  exact if_pos hrange

theorem Held.accepted {times : Int → Prop} {t : Instant} (h : t.Held times) : t.Accepted times :=
  ⟨wellFormed_iff.mpr ⟨h.1.1, Or.inl h.1.2.1⟩, h.2⟩

/-- The microseconds of an instant fit in eight bytes. -/
theorem microseconds_bounds {t : Instant} (h : t.WellFormed) :
    -9223372036854775808 ≤ t.microseconds ∧ t.microseconds < 9223372036854775808 := by
  obtain ⟨⟨hmin, hmax⟩, hnanos⟩ := wellFormed_iff.mp h
  have hfirst : Date.toDays ⟨Date.minYear, 1, 1⟩ = -96465292 := by decide
  have hlast : Date.toDays ⟨Date.maxYear, 12, 31⟩ = 95026236 := by decide
  rw [hfirst, days] at hmin
  rw [hlast, days] at hmax
  have hsign : Int.sign 1000 = 1 := rfl
  rw [microseconds, Date.millennium_eq, Int.tdiv_eq_ediv, hsign]
  split <;> constructor <;> omega

/-- The microseconds of an instant are sent. -/
theorem fitted?_microseconds {t : Instant} (h : t.WellFormed) :
    Postgres.Parameter.fitted? 8 t.microseconds = some (.ofInt 8 t.microseconds) := by
  have hbounds := microseconds_bounds h
  have hpow : (256 ^ 8 : Nat) = 18446744073709551616 := by decide
  refine if_pos ?_
  rw [hpow]
  omega

end Instant

namespace Postgres.Column

/-- A whole number of eight bytes is read back. -/
theorem int?_ofInt {n : Int} (h : -9223372036854775808 ≤ n ∧ n < 9223372036854775808) :
    int? 8 (.ofInt 8 n) = some n := by
  have hpow : (256 ^ 8 : Nat) = 18446744073709551616 := by decide
  unfold int? sized?
  rw [if_pos (Bytes.length_ofInt 8 n), Option.map_some, Bytes.toInt_ofInt (by rw [hpow]; omega)]

/-- An instant that is whole is read back. -/
theorem timestamp?_microseconds {t : Instant} (h : t.Whole) :
    timestamp? (.ofInt 8 t.microseconds) = some t := by
  unfold timestamp?
  have hformed : t.WellFormed := Instant.wellFormed_iff.mpr ⟨h.1, Or.inl h.2.1⟩
  rw [int?_ofInt (Instant.microseconds_bounds hformed), Option.bind_some,
    Instant.ofMicroseconds?_microseconds h]

end Postgres.Column
end QueryGateway
