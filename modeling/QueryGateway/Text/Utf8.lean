import QueryGateway.Bytes

/-!
# UTF-8

Bytes are read as characters one at a time.  Where they are malformed the reader gives one `none`
for each maximal run of bytes that could still have become a character, which is the division
Unicode recommends for replacement.  Strict decoding refuses any `none`; lossy decoding writes a
replacement character for each.

## Main definitions

* `Utf8.encode` — the bytes of a text.
* `Utf8.scan` — the characters of a byte string, with malformed runs marked.
* `Utf8.decode?`, `Utf8.lossy` — the two readings built on it.
-/

namespace QueryGateway.Utf8

/-- The bytes of a text. -/
def encode (text : String) : Bytes :=
  text.toList.flatMap String.utf8EncodeChar

/-- A character of which the first bytes have been read. -/
structure Pending where
  /-- How many bytes are still owed. -/
  owed : Nat
  /-- The least byte that may come next. -/
  low : UInt8
  /-- The greatest byte that may come next. -/
  high : UInt8
  /-- The bits read so far. -/
  value : Nat
  deriving DecidableEq, Repr

/-- What a byte begins when no character is pending. -/
inductive Begin
  /-- The byte is a character by itself. -/
  | char (c : Char)
  /-- The byte is the first of several. -/
  | more (p : Pending)
  /-- No character starts with the byte. -/
  | malformed
  deriving DecidableEq, Repr

/-- The role of a byte at the start of a character. -/
def begin (b : UInt8) : Begin :=
  let n := b.toNat
  if n < 0x80 then .char (Char.ofNat n)
  else if n < 0xC2 then .malformed
  else if n < 0xE0 then .more ⟨1, 0x80, 0xBF, n - 0xC0⟩
  else if n = 0xE0 then .more ⟨2, 0xA0, 0xBF, 0⟩
  else if n = 0xED then .more ⟨2, 0x80, 0x9F, 0xD⟩
  else if n < 0xF0 then .more ⟨2, 0x80, 0xBF, n - 0xE0⟩
  else if n = 0xF0 then .more ⟨3, 0x90, 0xBF, 0⟩
  else if n < 0xF4 then .more ⟨3, 0x80, 0xBF, n - 0xF0⟩
  else if n = 0xF4 then .more ⟨3, 0x80, 0x8F, 4⟩
  else .malformed

/-- What is known after one more byte of a pending character: the character, or what is pending
then. -/
def Pending.push (p : Pending) (b : UInt8) : Begin :=
  let value := 64 * p.value + b.toNat % 64
  if p.low ≤ b ∧ b ≤ p.high then
    if p.owed ≤ 1 then .char (Char.ofNat value) else .more ⟨p.owed - 1, 0x80, 0xBF, value⟩
  else .malformed

/-- Reads the bytes after a possibly pending character. -/
def scanFrom : Option Pending → Bytes → List (Option Char)
  | none, [] => []
  | some _, [] => [none]
  | none, b :: rest =>
    match begin b with
    | .char c => some c :: scanFrom none rest
    | .more p => scanFrom (some p) rest
    | .malformed => none :: scanFrom none rest
  | some p, b :: rest =>
    match p.push b with
    | .char c => some c :: scanFrom none rest
    | .more q => scanFrom (some q) rest
    | .malformed =>
      -- The pending bytes stand for nothing, and this byte is read afresh.
      match begin b with
      | .char c => none :: some c :: scanFrom none rest
      | .more q => none :: scanFrom (some q) rest
      | .malformed => none :: none :: scanFrom none rest

/-- The characters of a byte string, each malformed run given as `none`. -/
def scan (bytes : Bytes) : List (Option Char) :=
  scanFrom none bytes

/-- The text, if no byte is malformed. -/
def decode? (bytes : Bytes) : Option String :=
  ((scan bytes).mapM id).map String.ofList

/-- The text, with a replacement character for each malformed run. -/
def lossy (bytes : Bytes) : String :=
  String.ofList ((scan bytes).map (·.getD '\uFFFD'))

end QueryGateway.Utf8
