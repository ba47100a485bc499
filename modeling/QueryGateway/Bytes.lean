/-!
# Bytes

Message bodies, parameters and columns travel as byte strings.  Integers inside them are written
big endian, signed ones in two's complement.

## Main definitions

* `Bytes` — a byte string.
* `Bytes.ofNat width n`, `Bytes.toNat` — unsigned big-endian integers.
* `Bytes.ofInt width n`, `Bytes.toInt` — signed big-endian integers.
-/

namespace QueryGateway

-- Powers are those of naturals.
attribute [local instance (2000)] instPowNat

/-- A byte string. -/
abbrev Bytes := List UInt8

namespace Bytes

/-- The last `width` base-256 digits of `n`, the most significant first. -/
def ofNat : Nat → Nat → Bytes
  | 0, _ => []
  | width + 1, n => ofNat width (n / 256) ++ [UInt8.ofNat n]

/-- The number whose base-256 digits are the bytes, the most significant first. -/
def toNat (bytes : Bytes) : Nat :=
  bytes.foldl (fun n b => 256 * n + b.toNat) 0

/-- The two's complement form of `n` in `width` bytes. -/
def ofInt (width : Nat) (n : Int) : Bytes :=
  ofNat width (n % (256 ^ width : Nat)).toNat

/-- The integer whose two's complement form the bytes are. -/
def toInt (bytes : Bytes) : Int :=
  let n := bytes.toNat
  if 2 * n < 256 ^ bytes.length then (n : Int) else (n : Int) - (256 ^ bytes.length : Nat)

@[simp] theorem length_ofNat (width n : Nat) : (ofNat width n).length = width := by
  induction width generalizing n with
  | zero => rfl
  | succ width ih => simp [ofNat, ih]

@[simp] theorem length_ofInt (width : Nat) (n : Int) : (ofInt width n).length = width := by
  simp [ofInt]

/-- Digits appended at the end weigh least. -/
theorem toNat_append_singleton (bytes : Bytes) (b : UInt8) :
    toNat (bytes ++ [b]) = 256 * toNat bytes + b.toNat := by
  simp [toNat]

/-- Writing and reading keeps a number that fits. -/
theorem toNat_ofNat (width n : Nat) : toNat (ofNat width n) = n % 256 ^ width := by
  induction width generalizing n with
  | zero => simp [ofNat, toNat, Nat.mod_one]
  | succ width ih =>
    rw [ofNat, toNat_append_singleton, ih]
    have digit : (UInt8.ofNat n).toNat = n % 256 := by simp
    rw [digit, Nat.pow_succ', Nat.mod_mul]
    omega

end Bytes

end QueryGateway
