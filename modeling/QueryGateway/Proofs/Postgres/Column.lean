import QueryGateway.Postgres.Column
import QueryGateway.Proofs.Postgres.Parameter

/-!
# Columns that are read

A column that cannot be read is reported as null, and no error tells of it.  So for every type that
has a rule of its own, the rule has to take that type and every value of it.

## Main definitions

* `Numeric` — decimal numbers as the server sends them, with `Numeric.bytes` and `Numeric.toDouble`.
* `Stores` — the bytes that stand for a value of a type, and the cell of that value.

## Main results

* `Column.numeric?_bytes` — a decimal number is read digit by digit.
* `Column.read_eq_iff` — a value that is stored is read, unless it is of the one-byte type.
-/

namespace QueryGateway.Postgres

-- Powers are those of naturals.
attribute [local instance (2000)] instPowNat

/-- A decimal number: digits to the base 10000, of which the first weighs `10000 ^ weight`. -/
structure Numeric where
  weight : Int
  /-- Zero, `0x4000` for a negative number, or a mark of what is not a finite number. -/
  sign : Nat
  /-- How many decimal places are shown. -/
  scale : Nat
  digits : List Nat

namespace Numeric

/-- The number is one that the server sends. -/
structure Valid (n : Numeric) : Prop where
  weight : Parameter.Fits 2 n.weight
  sign : n.sign ∈ [0, 0x4000, 0xC000, 0xD000, 0xF000]
  scale : n.scale < 0x4000
  /-- Up to 32768 digits weigh one or more, and up to 4096 less than one. -/
  count : n.digits.length < 0x10000
  digits : ∀ d ∈ n.digits, d < 10000

/-- The bytes of the number. -/
def bytes (n : Numeric) : Bytes :=
  Bytes.ofNat 2 n.digits.length ++ Bytes.ofInt 2 n.weight ++ Bytes.ofNat 2 n.sign ++
    Bytes.ofNat 2 n.scale ++ n.digits.flatMap (Bytes.ofNat 2)

/-- The sum of digits, from a weight down. -/
def total (weight : Int) (sum : Binary64) : List Nat → Binary64
  | [] => sum
  | d :: rest =>
    total (weight - 1) (sum.add ((Binary64.ofNat d).mul ((Binary64.ofNat 10000).pow weight))) rest

/-- The number as a double. -/
def toDouble (n : Numeric) : Binary64 :=
  if n.sign = 0 then total n.weight (.zero false) n.digits
  else if n.sign = 0x4000 then (total n.weight (.zero false) n.digits).neg
  else .nan

end Numeric

/-- The built-in types of texts. -/
def textTypes : List SqlType := [⟨1043, "varchar"⟩, ⟨25, "text"⟩, ⟨1042, "bpchar"⟩, ⟨19, "name"⟩]

/-- The bytes that stand for a value of a type, and the cell of that value. -/
inductive Stores : SqlType → Bytes → Cell → Prop
  | bool (b : Bool) : Stores ⟨16, "bool"⟩ [if b then 1 else 0] (.bool b)
  | int2 {n : Int} (h : Parameter.Fits 2 n) :
      Stores ⟨21, "int2"⟩ (Bytes.ofInt 2 n) (.int (.ofInt n))
  | int4 {n : Int} (h : Parameter.Fits 4 n) :
      Stores ⟨23, "int4"⟩ (Bytes.ofInt 4 n) (.int (.ofInt n))
  | int8 {n : Int} (h : Parameter.Fits 8 n) :
      Stores ⟨20, "int8"⟩ (Bytes.ofInt 8 n) (.int (.ofInt n))
  | oid {n : Nat} (h : n < 4294967296) : Stores ⟨26, "oid"⟩ (Bytes.ofNat 4 n) (.int (.ofInt n))
  | float4 (bits : UInt32) :
      Stores ⟨700, "float4"⟩ (Bytes.ofNat 4 bits.toNat) (.float (.ofSingle bits))
  | float8 (x : Binary64) : Stores ⟨701, "float8"⟩ (Bytes.ofNat 8 x.bits.toNat) (.float x)
  | numeric {n : Numeric} (h : n.Valid) : Stores ⟨1700, "numeric"⟩ n.bytes (.float n.toDouble)
  | text {type : SqlType} (h : type ∈ textTypes ∨ type.name = "citext") (s : String) :
      Stores type (Utf8.encode s) (.text s)
  /-- A single character of ASCII. -/
  | char {c : Char} (h : c.toNat < 128) :
      Stores ⟨18, "char"⟩ [UInt8.ofNat c.toNat] (.text (String.singleton c))
  | bytea (b : Bytes) : Stores ⟨17, "bytea"⟩ b (.bytes b)
  | uuid {b : Bytes} (h : b.length = 16) : Stores ⟨2950, "uuid"⟩ b (.uuid b)

namespace Column

theorem sized?_of_length {width : Nat} {bytes : Bytes} (h : bytes.length = width) :
    sized? width bytes = some bytes :=
  if_pos h

/-- An integer that fits is read back. -/
theorem int?_of_fits {width : Nat} {n : Int} (hwidth : 0 < width) (h : Parameter.Fits width n) :
    int? width (Bytes.ofInt width n) = some n := by
  rw [int?, sized?_of_length (Bytes.length_ofInt width n), Option.map_some,
    Bytes.toInt_ofInt (h.doubled hwidth)]

theorem ofTypes_self {oid : Nat} {name : String} (cell : Option Cell) :
    ofTypes [oid] ⟨oid, name⟩ cell = cell := by
  unfold ofTypes
  rw [if_pos (by simp)]

/-! ### Decimal numbers -/

theorem toNat_digit {d : Nat} (h : d < 65536) :
    256 * (UInt8.ofNat (d / 256)).toNat + (UInt8.ofNat d).toNat = d := by
  simp only [UInt8.toNat_ofNat']
  omega

/-- The bytes of digits are summed as these digits. -/
theorem digitSum_flatMap {digits : List Nat} (h : ∀ d ∈ digits, d < 10000) (weight : Int)
    (sum : Binary64) :
    digitSum weight sum (digits.flatMap (Bytes.ofNat 2)) = Numeric.total weight sum digits := by
  induction digits generalizing weight sum with
  | nil => rfl
  | cons d rest ih =>
    obtain ⟨hd, hrest⟩ := List.forall_mem_cons.mp h
    show digitSum weight sum
      (UInt8.ofNat (d / 256) :: UInt8.ofNat d :: rest.flatMap (Bytes.ofNat 2)) = _
    rw [digitSum, toNat_digit (by omega)]
    exact ih hrest _ _

theorem length_flatMap_ofNat (digits : List Nat) :
    (digits.flatMap (Bytes.ofNat 2)).length = 2 * digits.length := by
  induction digits with
  | nil => rfl
  | cons d rest ih =>
    rw [List.flatMap_cons, List.length_append, ih, Bytes.length_ofNat, List.length_cons]
    omega

/-- Two bytes hold a number below 65536. -/
theorem toNat_ofNat_two {n : Nat} (h : n < 65536) : Bytes.toNat (Bytes.ofNat 2 n) = n := by
  rw [Bytes.toNat_ofNat]
  exact Nat.mod_eq_of_lt h

/-- A decimal number is read digit by digit. -/
theorem numeric?_bytes {n : Numeric} (h : n.Valid) : numeric? n.bytes = some n.toDouble := by
  obtain ⟨hweight, hsign, -, hcount, hdigits⟩ := h
  have hlength : n.bytes.length = 8 + 2 * n.digits.length := by
    simp only [Numeric.bytes, List.length_append, Bytes.length_ofNat, Bytes.length_ofInt,
      length_flatMap_ofNat]
  have count : word n.bytes 0 = n.digits.length :=
    toNat_ofNat_two (by omega)
  have weight : Bytes.toInt ((n.bytes.drop 2).take 2) = n.weight :=
    Bytes.toInt_ofInt (hweight.doubled (by decide))
  have sign : word n.bytes 4 = n.sign := by
    refine toNat_ofNat_two ?_
    simp only [List.mem_cons, List.not_mem_nil, or_false] at hsign
    omega
  have sum : digitSum n.weight (.zero false) ((n.bytes.drop 8).take (2 * n.digits.length)) =
      Numeric.total n.weight (.zero false) n.digits := by
    show digitSum _ _ ((n.digits.flatMap (Bytes.ofNat 2)).take (2 * n.digits.length)) = _
    rw [← length_flatMap_ofNat, List.take_length, digitSum_flatMap hdigits]
  rw [numeric?, if_neg (by omega)]
  simp only [count, weight, sign, sum]
  rw [if_neg (show ¬n.bytes.length < 8 + 2 * n.digits.length by omega)]
  unfold Numeric.toDouble minusSign
  by_cases hzero : n.sign = 0
  · simp [hzero]
  · by_cases hminus : n.sign = 0x4000
    · simp [hminus]
    · simp [hzero, hminus]

/-! ### Values of every type -/

/-- A text is read, whatever its type, unless the type is that of one byte. -/
theorem cell?_text {type : SqlType} (h : type ∈ textTypes ∨ type.name = "citext") (s : String) :
    cell? type (Utf8.encode s) = some (.text s) := by
  have hread : (text? type (Utf8.encode s)).map Cell.text = some (.text s) := by
    have htext : isText type = true := by
      rcases h with h | h
      · exact (by decide : ∀ t ∈ textTypes, isText t = true) type h
      · simp [isText, h]
    have hversion : isVersioned type = false := by
      rcases h with h | h
      · exact (by decide : ∀ t ∈ textTypes, isVersioned t = false) type h
      · simp [isVersioned, h]
    simp [text?, htext, hversion, Utf8.decode?_encode]
  rw [← hread]
  rcases h with h | h
  · simp only [textTypes, List.mem_cons, List.not_mem_nil, or_false] at h
    obtain rfl | rfl | rfl | rfl := h <;> rfl
  · simp only [cell?, h]
    rfl

/-- A value of a type other than that of one byte is read. -/
theorem cell?_of_stores {type : SqlType} {bytes : Bytes} {cell : Cell}
    (h : Stores type bytes cell) (htype : type.name ≠ "char") :
    cell? type bytes = some cell := by
  cases h with
  | bool b => cases b <;> rfl
  | int2 h => simp only [cell?, ofTypes_self, int?_of_fits (by decide) h, Option.map_some, intCell]
  | int4 h => simp only [cell?, ofTypes_self, int?_of_fits (by decide) h, Option.map_some, intCell]
  | int8 h => simp only [cell?, ofTypes_self, int?_of_fits (by decide) h, Option.map_some, intCell]
  | oid h =>
    simp only [cell?, ofTypes_self, sized?_of_length (Bytes.length_ofNat _ _), Option.map_some,
      intCell, Bytes.toNat_ofNat, Nat.mod_eq_of_lt (show _ < 256 ^ 4 from h)]
  | float4 bits =>
    simp only [cell?, ofTypes_self, sized?_of_length (Bytes.length_ofNat _ _), Option.map_some,
      Bytes.toNat_ofNat, Nat.mod_eq_of_lt (show _ < 256 ^ 4 from bits.toNat_lt), UInt32.ofNat_toNat]
  | float8 x =>
    simp only [cell?, ofTypes_self, sized?_of_length (Bytes.length_ofNat _ _), Option.map_some,
      Bytes.toNat_ofNat, Nat.mod_eq_of_lt (show _ < 256 ^ 8 from x.bits.toNat_lt),
      UInt64.ofNat_toNat]
  | numeric h => simp only [cell?, ofTypes_self, numeric?_bytes h, Option.map_some]
  | text h s => exact cell?_text h s
  | char => exact absurd rfl htype
  | bytea => simp only [cell?, ofTypes_self]
  | uuid h => simp only [cell?, ofTypes_self, sized?_of_length h, Option.map_some]

/-- No value is stored that is to be read as null. -/
theorem ne_null_of_stores {type : SqlType} {bytes : Bytes} {cell : Cell}
    (h : Stores type bytes cell) : cell ≠ .null := by
  cases h <;> simp

/-- A value that is stored is read as what it is, and so never as null, unless it is a single
character of the one-byte type, which is read as null. -/
theorem read_eq_iff {type : SqlType} {bytes : Bytes} {cell : Cell} (h : Stores type bytes cell) :
    cell ≠ .null ∧ (read type (some bytes) = cell ↔ type.name ≠ "char") ∧
      (type.name = "char" → read type (some bytes) = .null) := by
  have hchar : type.name = "char" → read type (some bytes) = .null := by
    intro hname
    cases h with
    | char h => rfl
    | text h s =>
      rcases h with h | h
      · exact absurd hname ((by decide : ∀ t ∈ textTypes, t.name ≠ "char") type h)
      · exact absurd (h.symm.trans hname) (by decide)
    | _ => exact absurd hname (by decide)
  refine ⟨ne_null_of_stores h, ⟨fun hread hname => ?_, fun hname => ?_⟩, hchar⟩
  · exact ne_null_of_stores h (hread.symm.trans (hchar hname))
  · rw [read, Option.bind_some, cell?_of_stores h hname, Option.getD_some]

/-- The decimal number -12345.5 is read. -/
theorem read_eq_iff_numeric :
    Stores ⟨1700, "numeric"⟩ (Numeric.bytes ⟨1, 0x4000, 1, [1, 2345, 5000]⟩)
        (.float (Numeric.toDouble ⟨1, 0x4000, 1, [1, 2345, 5000]⟩)) ∧
      read ⟨1700, "numeric"⟩ (some (Numeric.bytes ⟨1, 0x4000, 1, [1, 2345, 5000]⟩)) =
        .float ⟨0xC0C81CC000000000⟩ := by
  have valid : Numeric.Valid ⟨1, 0x4000, 1, [1, 2345, 5000]⟩ :=
    ⟨by decide, by decide, by decide, by decide, by decide⟩
  have value : Numeric.toDouble ⟨1, 0x4000, 1, [1, 2345, 5000]⟩ = ⟨0xC0C81CC000000000⟩ := by
    decide +kernel
  refine ⟨.numeric valid, ?_⟩
  rw [← value]
  exact (read_eq_iff (.numeric valid)).2.1.mpr (by decide)

/-- The character `a` of the one-byte type is stored, and read as null. -/
theorem exists_char_null :
    Stores ⟨18, "char"⟩ [0x61] (.text "a") ∧ read ⟨18, "char"⟩ (some [0x61]) = .null :=
  ⟨Stores.char (by decide : 'a'.toNat < 128), rfl⟩

end Column

end QueryGateway.Postgres
