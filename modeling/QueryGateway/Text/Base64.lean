import QueryGateway.Bytes

/-!
# Base64

The standard alphabet with padding.  Reading is strict: the length is a multiple of four, padding
is present, and the bits that padding leaves over are zero, so a byte string has one written form.

## Main definitions

* `Base64.encode`, `Base64.decode?`.
-/

namespace QueryGateway.Base64

/-- The character of a value below sixty-four. -/
def char (n : Nat) : Char :=
  if n < 26 then Char.ofNat (65 + n)
  else if n < 52 then Char.ofNat (71 + n)
  else if n < 62 then Char.ofNat (n - 4)
  else if n = 62 then '+' else '/'

/-- The value of a character of the alphabet. -/
def value? (c : Char) : Option Nat :=
  if 'A' ≤ c ∧ c ≤ 'Z' then some (c.toNat - 65)
  else if 'a' ≤ c ∧ c ≤ 'z' then some (c.toNat - 71)
  else if '0' ≤ c ∧ c ≤ '9' then some (c.toNat + 4)
  else if c = '+' then some 62
  else if c = '/' then some 63
  else none

/-- The characters of a byte string: four for each three bytes, the last group padded. -/
def encodeChars : Bytes → List Char
  | [] => []
  | [a] =>
    let n := a.toNat * 16
    [char (n / 64), char (n % 64), '=', '=']
  | [a, b] =>
    let n := (a.toNat * 256 + b.toNat) * 4
    [char (n / 4096), char (n / 64 % 64), char (n % 64), '=']
  | a :: b :: c :: rest =>
    let n := (a.toNat * 256 + b.toNat) * 256 + c.toNat
    char (n / 262144) :: char (n / 4096 % 64) :: char (n / 64 % 64) :: char (n % 64) ::
      encodeChars rest

/-- The bytes that groups of four characters stand for.  Padding is read in the last group only. -/
def decodeChars? : List Char → Option Bytes
  | [] => some []
  | [a, b, '=', '='] => do
    let n := (← value? a) * 64 + (← value? b)
    if n % 16 = 0 then some [UInt8.ofNat (n / 16)] else none
  | [a, b, c, '='] => do
    let n := ((← value? a) * 64 + (← value? b)) * 64 + (← value? c)
    if n % 4 = 0 then some [UInt8.ofNat (n / 1024), UInt8.ofNat (n / 4)] else none
  | a :: b :: c :: d :: rest => do
    let n := (((← value? a) * 64 + (← value? b)) * 64 + (← value? c)) * 64 + (← value? d)
    let tail ← decodeChars? rest
    return UInt8.ofNat (n / 65536) :: UInt8.ofNat (n / 256) :: UInt8.ofNat n :: tail
  | _ => none

/-- A byte string in Base64. -/
def encode (bytes : Bytes) : String :=
  String.ofList (encodeChars bytes)

/-- The bytes of a text in Base64. -/
def decode? (text : String) : Option Bytes :=
  decodeChars? text.toList

/-- A character of the alphabet stands for its value. -/
theorem value?_char {n : Nat} (h : n < 64) : value? (char n) = some n := by
  have all : ∀ k : Fin 64, value? (char k) = some (k : Nat) := by decide
  exact all ⟨n, h⟩

end QueryGateway.Base64
