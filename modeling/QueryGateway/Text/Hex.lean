import QueryGateway.Bytes

/-!
# Hexadecimal digits

Digests, identifiers and escapes are written in lower case; either case is read.

## Main definitions

* `Hex.encode`, `Hex.decode?` — two digits for each byte.
-/

namespace QueryGateway.Hex

/-- The digit of a value below sixteen. -/
def digit (n : Nat) : Char :=
  if n < 10 then Char.ofNat (48 + n) else Char.ofNat (87 + n)

/-- The value of a digit of either case. -/
def value? (c : Char) : Option Nat :=
  if '0' ≤ c ∧ c ≤ '9' then some (c.toNat - 48)
  else if 'a' ≤ c ∧ c ≤ 'f' then some (c.toNat - 87)
  else if 'A' ≤ c ∧ c ≤ 'F' then some (c.toNat - 55)
  else none

/-- The two digits of a byte. -/
def ofByte (b : UInt8) : List Char :=
  [digit (b.toNat / 16), digit (b.toNat % 16)]

/-- A byte string in lower-case digits. -/
def encode (bytes : Bytes) : String :=
  String.ofList (bytes.flatMap ofByte)

/-- The bytes that pairs of digits stand for. -/
def decodeChars? : List Char → Option Bytes
  | [] => some []
  | [_] => none
  | a :: b :: rest => do
    let hi ← value? a
    let lo ← value? b
    return UInt8.ofNat (16 * hi + lo) :: (← decodeChars? rest)

/-- The bytes that a text of digits stands for. -/
def decode? (text : String) : Option Bytes :=
  decodeChars? text.toList

/-- A digit stands for its value. -/
theorem value?_digit {n : Nat} (h : n < 16) : value? (digit n) = some n := by
  have all : ∀ k : Fin 16, value? (digit k) = some (k : Nat) := by decide
  exact all ⟨n, h⟩

/-- Reading accepts what writing produces. -/
theorem decodeChars?_flatMap_ofByte (bytes : Bytes) :
    decodeChars? (bytes.flatMap ofByte) = some bytes := by
  induction bytes with
  | nil => rfl
  | cons b rest ih =>
    have hi : b.toNat / 16 < 16 := by have := b.toNat_lt; omega
    have lo : b.toNat % 16 < 16 := Nat.mod_lt _ (by decide)
    have sum : UInt8.ofNat (16 * (b.toNat / 16) + b.toNat % 16) = b := by
      rw [Nat.div_add_mod, UInt8.ofNat_toNat]
    simp only [List.flatMap_cons, ofByte, List.cons_append, List.nil_append, decodeChars?,
      value?_digit hi, value?_digit lo, ih, bind, Option.bind, pure, sum]

end QueryGateway.Hex
