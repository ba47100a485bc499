import QueryGateway.Proofs.Decimal.Reading
import QueryGateway.Proofs.Postgres.Binary

/-!
# Values as parameters

A JSON value is converted to the type of its slot, and what comes of it is sent in as many bytes as
the type has.  Where a value denotes no value of the type, or an integer beyond its range, it is
refused.  What is converted can be sent: the years that dates and timestamps may have leave enough
room in the four and eight bytes that count days and microseconds.

## Main definitions

* `IntegerType`, `Parameter.Denotes`, `Parameter.Fits` — integer types, the integer of a value, and
  the range of a type.
* `Slot.width?` — how many bytes a value of a type has.

## Main results

* `Parameter.bind_integer` — which values are integers of a type, and what is sent for them.
* `Parameter.encode?_of_bind` — what is converted can be sent, in as many bytes as the type has.
-/

namespace QueryGateway

-- Powers are those of naturals.
attribute [local instance (2000)] instPowNat

/-! ### The bytes of a UUID -/

theorem Hex.length_of_decodeChars? {cs : List Char} {bytes : Bytes}
    (h : decodeChars? cs = some bytes) : cs.length = 2 * bytes.length := by
  induction cs using decodeChars?.induct generalizing bytes with
  | case1 =>
    cases h
    rfl
  | case2 => cases h
  | case3 a b rest ih =>
    rw [decodeChars?] at h
    obtain ⟨hi, -, h⟩ := Option.bind_eq_some_iff.mp h
    obtain ⟨lo, -, h⟩ := Option.bind_eq_some_iff.mp h
    obtain ⟨tail, htail, h⟩ := Option.bind_eq_some_iff.mp h
    obtain rfl := Option.some.inj h
    have hlength := ih htail
    simp only [List.length_cons]
    omega

theorem Uuid.length_of_ofHyphenated? {cs : List Char} {bytes : Bytes}
    (h : ofHyphenated? cs = some bytes) : bytes.length = 16 := by
  unfold ofHyphenated? at h
  split at h
  · next hcs =>
    have hlength := Hex.length_of_decodeChars? h
    simp only [List.length_append, List.length_take, List.length_drop, hcs.1] at hlength
    omega
  · cases h

/-- A UUID that is read has sixteen bytes. -/
theorem Uuid.length_of_ofText? {text : String} {bytes : Bytes} (h : ofText? text = some bytes) :
    bytes.length = 16 := by
  unfold ofText? at h
  dsimp only at h
  split at h
  · next hlength =>
    have := Hex.length_of_decodeChars? h
    omega
  split at h
  · exact length_of_ofHyphenated? h
  split at h
  · exact length_of_ofHyphenated? h
  split at h
  · exact length_of_ofHyphenated? h
  · cases h

namespace Postgres

open Json

/-- A type of integers that have so many bytes. -/
inductive IntegerType (type : SqlType) : Nat → Prop
  | int2 (h : type.slot = .int2) : IntegerType type 2
  | int4 (h : type.slot = .int4) : IntegerType type 4
  | int8 (h : type.slot = .int8) : IntegerType type 8

/-- How many bytes every value of a type has, if they are always as many. -/
def Slot.width? : Slot → Option Nat
  | .bool => some 1
  | .int2 => some 2
  | .int4 | .float4 | .date => some 4
  | .int8 | .float8 | .timestamp | .timestamptz => some 8
  | .uuid => some 16
  | .text | .json | .jsonb | .other => none

namespace Parameter

/-! ### Integers -/

/-- The integer that a value denotes: a number that is a signed integer of 64 bits, or a text that
writes an integer between blanks. -/
inductive Denotes : Value → Int → Prop
  | number {n : Int} (inRange : -9223372036854775808 ≤ n ∧ n < 18446744073709551616)
      (hsigned : n < 9223372036854775808) : Denotes (.number (.whole n inRange)) n
  | string {text : String} {n : Int} {before cs after : List Char}
      (htext : text.toList = before ++ cs ++ after)
      (hblank : ∀ c ∈ before ++ after, Text.isBlank c = true)
      (hcs : Numeral.WritesInteger cs n) : Denotes (.string text) n

/-- The integer is in the range of signed integers of so many bytes. -/
def Fits (width : Nat) (n : Int) : Prop :=
  -(2 ^ (8 * width - 1) : Nat) ≤ n ∧ n < (2 ^ (8 * width - 1) : Nat)

instance (width : Nat) (n : Int) : Decidable (Fits width n) := inferInstanceAs (Decidable (_ ∧ _))

theorem fits_two_iff {n : Int} : Fits 2 n ↔ -32768 ≤ n ∧ n < 32768 := Iff.rfl

theorem fits_four_iff {n : Int} : Fits 4 n ↔ -2147483648 ≤ n ∧ n < 2147483648 := Iff.rfl

theorem fits_eight_iff {n : Int} :
    Fits 8 n ↔ -9223372036854775808 ≤ n ∧ n < 9223372036854775808 := Iff.rfl

theorem Fits.doubled {width : Nat} {n : Int} (hwidth : 0 < width) (h : Fits width n) :
    -(256 ^ width : Nat) ≤ 2 * n ∧ 2 * n < (256 ^ width : Nat) := by
  have hpow : 256 ^ width = 2 * 2 ^ (8 * width - 1) := by
    rw [← Nat.pow_succ', show (256 : Nat) = 2 ^ 8 from rfl, ← Nat.pow_mul,
      Nat.succ_eq_add_one, Nat.sub_add_cancel (by omega)]
  obtain ⟨hlow, hhigh⟩ := h
  rw [hpow]
  omega

/-- The signed bytes of an integer that is in their range. -/
theorem fitted?_of_fits {width : Nat} {n : Int} (hwidth : 0 < width) (h : Fits width n) :
    fitted? width n = some (.ofInt width n) :=
  if_pos (h.doubled hwidth)

/-- The integer that is read from a value. -/
theorem integerOf?_eq_some_iff {v : Value} {n : Int} :
    integerOf? v = some n ↔ Denotes v n ∧ Fits 8 n := by
  unfold integerOf?
  rw [fits_eight_iff]
  dsimp only
  rw [Option.filter_eq_some_iff, decide_eq_true_iff]
  refine and_congr_left fun hfits => ?_
  constructor
  · intro h
    split at h
    · obtain rfl := Option.some.inj h
      exact .number _ hfits.2
    · obtain ⟨before, cs, after, htext, hblank, hcs⟩ := Numeral.integer?_trim_eq_some_iff.mp h
      exact .string htext hblank hcs
    · cases h
  · intro h
    cases h with
    | number => rfl
    | string htext hblank hcs =>
      exact Numeral.integer?_trim_eq_some_iff.mpr ⟨_, _, _, htext, hblank, hcs⟩

/-- The range of an integer type is within that of the widest. -/
theorem Fits.eight {type : SqlType} {width : Nat} (htype : IntegerType type width) {n : Int}
    (h : Fits width n) : Fits 8 n := by
  cases htype with
  | int2 =>
    rw [fits_two_iff] at h
    rw [fits_eight_iff]
    omega
  | int4 =>
    rw [fits_four_iff] at h
    rw [fits_eight_iff]
    omega
  | int8 => exact h

/-- An integer in the range of the type is converted to itself. -/
theorem exists_ofValue?_integer {type : SqlType} {width : Nat} (htype : IntegerType type width)
    {v : Value} {n : Int} (hn : integerOf? v = some n) (hfits : Fits width n) :
    ∃ p, ofValue? type.slot v = some p ∧ p ≠ .null ∧
      encode? type p = some (some (.ofInt width n)) := by
  cases htype with
  | int2 h =>
    refine ⟨.int2 (.ofInt n), ?_, nofun, ?_⟩
    · rw [h, ofValue?, hn, Option.filter_some, if_pos (decide_eq_true (fits_two_iff.mp hfits)),
        Option.map_some]
    · rw [encode?, Int16.toInt_ofInt_of_le hfits.1 hfits.2]
  | int4 h =>
    refine ⟨.int4 (.ofInt n), ?_, nofun, ?_⟩
    · rw [h, ofValue?, hn, Option.filter_some, if_pos (decide_eq_true (fits_four_iff.mp hfits)),
        Option.map_some]
    · rw [encode?, Int32.toInt_ofInt_of_le hfits.1 hfits.2]
  | int8 h =>
    refine ⟨.int8 (.ofInt n), ?_, nofun, ?_⟩
    · rw [h, ofValue?, hn, Option.map_some]
    · rw [encode?, Int64.toInt_ofInt_of_le hfits.1 hfits.2]

/-- What is converted was an integer in the range of the type. -/
theorem exists_fits_of_ofValue? {type : SqlType} {width : Nat} (htype : IntegerType type width)
    {v : Value} {p : Parameter} (h : ofValue? type.slot v = some p) :
    ∃ n, integerOf? v = some n ∧ Fits width n := by
  cases htype with
  | int2 htype | int4 htype =>
    rw [htype, ofValue?] at h
    obtain ⟨n, hn, -⟩ := Option.map_eq_some_iff.mp h
    obtain ⟨hn, hfits⟩ := Option.filter_eq_some_iff.mp hn
    exact ⟨n, hn, of_decide_eq_true hfits⟩
  | int8 htype =>
    rw [htype, ofValue?] at h
    obtain ⟨n, hn, -⟩ := Option.map_eq_some_iff.mp h
    exact ⟨n, hn, (integerOf?_eq_some_iff.mp hn).2⟩

/-- The error of a value that is not one of the type. -/
def mismatch (v : Value) (type : SqlType) : QueryError :=
  .invalidInput ("value " ++ v.text ++ " is not valid for a parameter of type " ++ type.name)

theorem bind_of_ofValue? {v : Value} {type : SqlType} {p : Parameter} (hv : v ≠ .null)
    (h : ofValue? type.slot v = some p) : bind v type = .ok p := by
  unfold bind
  rw [if_neg hv, h]

theorem bind_of_ofValue?_eq_none {v : Value} {type : SqlType} (hv : v ≠ .null)
    (h : ofValue? type.slot v = none) : bind v type = .error (mismatch v type) := by
  unfold bind
  rw [if_neg hv, h]
  rfl

/-- What is not null was converted. -/
theorem cases_of_bind {v : Value} {type : SqlType} {p : Parameter} (h : bind v type = .ok p) :
    v = .null ∧ p = .null ∨ v ≠ .null ∧ ofValue? type.slot v = some p := by
  by_cases hv : v = .null
  · unfold bind at h
    rw [if_pos hv] at h
    exact .inl ⟨hv, (Except.ok.inj h).symm⟩
  · cases hp : ofValue? type.slot v with
    | none =>
      rw [bind_of_ofValue?_eq_none hv hp] at h
      cases h
    | some q =>
      rw [bind_of_ofValue? hv hp] at h
      exact .inr ⟨hv, congrArg some (Except.ok.inj h)⟩

theorem Denotes.ne_null {v : Value} {n : Int} (h : Denotes v n) : v ≠ .null := by
  rintro rfl
  cases h

/-- A value is converted to an integer of a type just when it denotes an integer in the range of the
type; this integer is what is sent, in two's complement and in as many bytes as the type has.  All
other values but null are refused. -/
theorem bind_integer {type : SqlType} {width : Nat} (htype : IntegerType type width) (v : Value) :
    ((∃ p, bind v type = .ok p ∧ p ≠ .null) ↔ ∃ n, Denotes v n ∧ Fits width n) ∧
    (∀ n, Denotes v n → Fits width n → ∃ (p : Parameter) (bytes : Bytes),
      bind v type = .ok p ∧ p ≠ .null ∧ encode? type p = some (some bytes) ∧
        bytes.length = width ∧ bytes.toInt = n) ∧
    (v ≠ .null → (¬∃ n, Denotes v n ∧ Fits width n) → bind v type = .error (.invalidInput
      ("value " ++ v.text ++ " is not valid for a parameter of type " ++ type.name))) := by
  have hsent : ∀ n, Denotes v n → Fits width n → ∃ (p : Parameter) (bytes : Bytes),
      bind v type = .ok p ∧ p ≠ .null ∧ encode? type p = some (some bytes) ∧
        bytes.length = width ∧ bytes.toInt = n := by
    intro n hn hfits
    obtain ⟨p, hp, hne, hencode⟩ := exists_ofValue?_integer htype
      (integerOf?_eq_some_iff.mpr ⟨hn, hfits.eight htype⟩) hfits
    have hwidth : 0 < width := by cases htype <;> decide
    exact ⟨p, _, bind_of_ofValue? hn.ne_null hp, hne, hencode, Bytes.length_ofInt width n,
      Bytes.toInt_ofInt (hfits.doubled hwidth)⟩
  have hdenoted : ∀ {p}, ofValue? type.slot v = some p → ∃ n, Denotes v n ∧ Fits width n := by
    intro p hp
    obtain ⟨n, hn, hfits⟩ := exists_fits_of_ofValue? htype hp
    exact ⟨n, (integerOf?_eq_some_iff.mp hn).1, hfits⟩
  refine ⟨⟨?_, ?_⟩, hsent, fun hv hnone => ?_⟩
  · rintro ⟨p, hp, hne⟩
    rcases cases_of_bind hp with ⟨-, rfl⟩ | ⟨-, hp⟩
    · exact absurd rfl hne
    · exact hdenoted hp
  · rintro ⟨n, hn, hfits⟩
    obtain ⟨p, bytes, hp, hne, -⟩ := hsent n hn hfits
    exact ⟨p, hp, hne⟩
  · refine bind_of_ofValue?_eq_none hv (Option.eq_none_iff_forall_ne_some.mpr fun p hp => ?_)
    exact hnone (hdenoted hp)

/-- The least integer of two bytes, with zeros in front and between blanks. -/
theorem bind_integer_least : ∃ (p : Parameter) (bytes : Bytes),
    bind (.string "\u2003-0032768\n") ⟨21, "int2"⟩ = .ok p ∧ p ≠ .null ∧
      encode? ⟨21, "int2"⟩ p = some (some bytes) ∧ bytes.length = 2 ∧ bytes.toInt = -32768 := by
  have hwrites : Numeral.WritesInteger "-0032768".toList (-32768) :=
    ⟨['-'], -1, "0032768".toList, by decide, .minus, by decide, List.all_eq_true.mp (by decide),
      by decide⟩
  have hdenotes : Denotes (.string "\u2003-0032768\n") (-32768) :=
    @Denotes.string _ _ ['\u2003'] _ ['\n'] (by decide) (List.all_eq_true.mp (by decide))
      hwrites
  have htype : IntegerType ⟨21, "int2"⟩ 2 := .int2 rfl
  exact (bind_integer htype _).2.1 (-32768) hdenotes (by decide)

/-! ### What can be sent -/

/-- The days of a date from the start of 2000 fit in four bytes. -/
theorem fits_toDays {d : Date} (h : d.Valid) : Fits 4 (d.toDays - Date.millennium) := by
  have hbounds := Date.toDays_bounds h
  rw [fits_four_iff, Date.millennium_eq]
  omega

/-- The microseconds of an instant from the start of 2000 fit in eight bytes. -/
theorem fits_microseconds {t : Instant} (h : t.WellFormed) : Fits 8 t.microseconds :=
  Instant.microseconds_bounds h

theorem wellFormed_of_timeOf? {text : String} {t : Instant} (h : timeOf? text = some t) :
    t.WellFormed := by
  unfold timeOf? at h
  cases hstrict : Instant.ofRfc3339? text with
  | some t' =>
    rw [hstrict] at h
    obtain rfl : t' = t := Option.some.inj h
    exact Instant.wellFormed_of_ofRfc3339? hstrict
  | none =>
    rw [hstrict] at h
    cases hmarked : Instant.ofPlain? (some 'T') text with
    | some t' =>
      rw [hmarked] at h
      obtain rfl : t' = t := Option.some.inj h
      exact Instant.wellFormed_of_ofPlain? hmarked
    | none =>
      rw [hmarked] at h
      have hplain : Instant.ofPlain? none text = some t := h
      exact Instant.wellFormed_of_ofPlain? hplain

theorem eq_string_of_readText? {α : Type} {read : String → Option α} {v : Value} {a : α}
    (h : readText? read v = some a) : ∃ text, v = .string text ∧ read text = some a := by
  cases v with
  | string text => exact ⟨text, rfl, h⟩
  | null | bool | number | array | object => cases h

/-- What is converted can be sent in as many bytes as the type has. -/
theorem exists_encode?_of_ofValue? {type : SqlType} {v : Value} {p : Parameter}
    (h : ofValue? type.slot v = some p) : ∃ bytes : Bytes, encode? type p = some (some bytes) ∧
      ∀ width, type.slot.width? = some width → bytes.length = width := by
  have hwidth : ∀ {bytes : Bytes} {width : Nat}, bytes.length = width →
      ∀ width', some width = some width' → bytes.length = width' := by
    rintro bytes width hlength width' ⟨⟩
    exact hlength
  cases hslot : type.slot <;> rw [hslot, ofValue?] at h
  case json | jsonb =>
    obtain rfl := Option.some.inj h
    exact ⟨_, rfl, nofun⟩
  all_goals obtain ⟨a, ha, rfl⟩ := Option.map_eq_some_iff.mp h
  case text | other => exact ⟨_, rfl, nofun⟩
  case bool => exact ⟨_, rfl, hwidth rfl⟩
  case int2 | int4 | int8 => exact ⟨_, rfl, hwidth (Bytes.length_ofInt _ _)⟩
  case float4 | float8 => exact ⟨_, rfl, hwidth (Bytes.length_ofNat _ _)⟩
  case uuid =>
    obtain ⟨text, -, hread⟩ := eq_string_of_readText? ha
    exact ⟨a, rfl, hwidth (Uuid.length_of_ofText? hread)⟩
  case timestamp =>
    obtain ⟨text, -, hread⟩ := eq_string_of_readText? ha
    have hfits := fits_microseconds (wellFormed_of_timeOf? hread)
    exact ⟨_, congrArg (Option.map some) (fitted?_of_fits (by decide) hfits),
      hwidth (Bytes.length_ofInt _ _)⟩
  case timestamptz =>
    obtain ⟨text, -, hread⟩ := eq_string_of_readText? ha
    have hfits := fits_microseconds (Instant.wellFormed_of_ofRfc3339? hread)
    exact ⟨_, congrArg (Option.map some) (fitted?_of_fits (by decide) hfits),
      hwidth (Bytes.length_ofInt _ _)⟩
  case date =>
    obtain ⟨text, -, hread⟩ := eq_string_of_readText? ha
    have hfits := fits_toDays (Date.valid_of_ofText? hread)
    exact ⟨_, congrArg (Option.map some) (fitted?_of_fits (by decide) hfits),
      hwidth (Bytes.length_ofInt _ _)⟩

/-- What is converted for a type can be sent for it: null as such, and any other value in as many
bytes as the type has.  In particular every date that is read is so many days from the start of 2000
that they fit in four bytes, and every timestamp so many microseconds that they fit in eight. -/
theorem encode?_of_bind :
    (∀ (v : Value) (type : SqlType) (p : Parameter), bind v type = .ok p →
      ∃ sent, encode? type p = some sent ∧ (sent = none ↔ v = .null) ∧
        ∀ bytes, sent = some bytes → ∀ width, type.slot.width? = some width →
          bytes.length = width) ∧
    (∀ text d, Date.ofText? text = some d → Fits 4 (d.toDays - Date.millennium)) ∧
    ∀ text t, Instant.ofRfc3339? text = some t ∨ timeOf? text = some t →
      Fits 8 t.microseconds := by
  refine ⟨fun v type p h => ?_, fun text d h => fits_toDays (Date.valid_of_ofText? h),
    fun text t h => fits_microseconds ?_⟩
  · rcases cases_of_bind h with ⟨rfl, rfl⟩ | ⟨hv, hp⟩
    · exact ⟨none, rfl, iff_of_true rfl rfl, nofun⟩
    · obtain ⟨bytes, hencode, hlength⟩ := exists_encode?_of_ofValue? hp
      refine ⟨some bytes, hencode, iff_of_false nofun hv, ?_⟩
      rintro _ ⟨⟩
      exact hlength
  · exact h.elim Instant.wellFormed_of_ofRfc3339? wellFormed_of_timeOf?

/-- The first date that may be sent, and a timestamp in the last second. -/
theorem encode?_of_bind_extremes :
    bind (.string "-262143-01-01") ⟨1082, "date"⟩ = .ok (.date ⟨-262143, 1, 1⟩) ∧
    (∃ sent, encode? ⟨1082, "date"⟩ (.date ⟨-262143, 1, 1⟩) = some sent ∧
      ∀ bytes, sent = some bytes → bytes.length = 4) ∧
    Fits 4 (Date.toDays ⟨-262143, 1, 1⟩ - Date.millennium) ∧
    timeOf? "+262142-12-31 23:59:60.5" = some ⟨8210266876799, 1500000000⟩ ∧
    Fits 8 (Instant.microseconds ⟨8210266876799, 1500000000⟩) := by
  have hbind : bind (.string "-262143-01-01") ⟨1082, "date"⟩ = .ok (.date ⟨-262143, 1, 1⟩) := by rfl
  have hdate : Date.ofText? "-262143-01-01" = some ⟨-262143, 1, 1⟩ := by decide +kernel
  have htime : timeOf? "+262142-12-31 23:59:60.5" = some ⟨8210266876799, 1500000000⟩ := by
    decide +kernel
  obtain ⟨sent, hsent, -, hlength⟩ := encode?_of_bind.1 _ _ _ hbind
  exact ⟨hbind, ⟨sent, hsent, fun bytes hbytes => hlength bytes hbytes 4 rfl⟩,
    encode?_of_bind.2.1 _ _ hdate, htime, encode?_of_bind.2.2 _ _ (.inr htime)⟩

end Parameter
end Postgres
end QueryGateway
