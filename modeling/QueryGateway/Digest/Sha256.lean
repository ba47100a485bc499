import QueryGateway.Bytes

/-!
# SHA-256

A message is padded to whole blocks of sixty-four bytes, each block is folded into a state of eight
words, and the last state is the digest.  A round needs only the sixteen most recent words of the
message schedule, so the schedule is a sliding window and the sixty-four rounds are a fold over the
round constants.

## Main definitions

* `Sha256.pad` — the padded message.
* `Sha256.compress` — one block.
* `Sha256.digest` — thirty-two bytes.
-/

namespace QueryGateway.Sha256

/-- The eight working words. -/
structure State where
  a : UInt32
  b : UInt32
  c : UInt32
  d : UInt32
  e : UInt32
  f : UInt32
  g : UInt32
  h : UInt32
  deriving DecidableEq, Repr

/-- The round constants: the first 32 bits of the fractional parts of the cube roots of the first
sixty-four primes. -/
def roundConstants : List UInt32 :=
  [0x428a2f98, 0x71374491, 0xb5c0fbcf, 0xe9b5dba5, 0x3956c25b, 0x59f111f1, 0x923f82a4, 0xab1c5ed5,
   0xd807aa98, 0x12835b01, 0x243185be, 0x550c7dc3, 0x72be5d74, 0x80deb1fe, 0x9bdc06a7, 0xc19bf174,
   0xe49b69c1, 0xefbe4786, 0x0fc19dc6, 0x240ca1cc, 0x2de92c6f, 0x4a7484aa, 0x5cb0a9dc, 0x76f988da,
   0x983e5152, 0xa831c66d, 0xb00327c8, 0xbf597fc7, 0xc6e00bf3, 0xd5a79147, 0x06ca6351, 0x14292967,
   0x27b70a85, 0x2e1b2138, 0x4d2c6dfc, 0x53380d13, 0x650a7354, 0x766a0abb, 0x81c2c92e, 0x92722c85,
   0xa2bfe8a1, 0xa81a664b, 0xc24b8b70, 0xc76c51a3, 0xd192e819, 0xd6990624, 0xf40e3585, 0x106aa070,
   0x19a4c116, 0x1e376c08, 0x2748774c, 0x34b0bcb5, 0x391c0cb3, 0x4ed8aa4a, 0x5b9cca4f, 0x682e6ff3,
   0x748f82ee, 0x78a5636f, 0x84c87814, 0x8cc70208, 0x90befffa, 0xa4506ceb, 0xbef9a3f7, 0xc67178f2]

/-- The first state: the first 32 bits of the fractional parts of the square roots of the first
eight primes. -/
def initial : State :=
  ⟨0x6a09e667, 0xbb67ae85, 0x3c6ef372, 0xa54ff53a,
   0x510e527f, 0x9b05688c, 0x1f83d9ab, 0x5be0cd19⟩

/-- Rotation to the right. -/
def rotate (x : UInt32) (n : UInt32) : UInt32 :=
  (x >>> n) ||| (x <<< (32 - n))

/-- One round on the working words, with a word of the schedule and a round constant. -/
def State.round (s : State) (w k : UInt32) : State :=
  let sum1 := rotate s.e 6 ^^^ rotate s.e 11 ^^^ rotate s.e 25
  let choice := (s.e &&& s.f) ^^^ (~~~s.e &&& s.g)
  let t1 := s.h + sum1 + choice + k + w
  let sum0 := rotate s.a 2 ^^^ rotate s.a 13 ^^^ rotate s.a 22
  let majority := (s.a &&& s.b) ^^^ (s.a &&& s.c) ^^^ (s.b &&& s.c)
  ⟨t1 + (sum0 + majority), s.a, s.b, s.c, s.d + t1, s.e, s.f, s.g⟩

/-- The word of the schedule that follows a window of sixteen. -/
def nextWord (window : List UInt32) : UInt32 :=
  let at' (i : Nat) := window.getD i 0
  let s0 := rotate (at' 1) 7 ^^^ rotate (at' 1) 18 ^^^ (at' 1 >>> 3)
  let s1 := rotate (at' 14) 17 ^^^ rotate (at' 14) 19 ^^^ (at' 14 >>> 10)
  at' 0 + s0 + at' 9 + s1

/-- The rounds for the given constants, on a window of the schedule. -/
def rounds : List UInt32 → List UInt32 → State → State
  | [], _, s => s
  | k :: ks, window, s =>
    rounds ks (window.drop 1 ++ [nextWord window]) (s.round (window.headD 0) k)

/-- The state after a block of sixteen words. -/
def compress (s : State) (block : List UInt32) : State :=
  let t := rounds roundConstants block s
  ⟨s.a + t.a, s.b + t.b, s.c + t.c, s.d + t.d, s.e + t.e, s.f + t.f, s.g + t.g, s.h + t.h⟩

/-- The message, a set bit, zeros up to eight bytes before a block's end, and the length in bits. -/
def pad (message : Bytes) : Bytes :=
  let zeros := (119 - message.length % 64) % 64
  message ++ 0x80 :: (List.replicate zeros 0 ++ Bytes.ofNat 8 (8 * message.length))

/-- The big-endian words of a byte string. -/
def words : Bytes → List UInt32
  | a :: b :: c :: d :: rest => UInt32.ofNat (Bytes.toNat [a, b, c, d]) :: words rest
  | _ => []

/-- The state after so many blocks of sixteen words. -/
def absorb : Nat → List UInt32 → State → State
  | 0, _, s => s
  | n + 1, ws, s => absorb n (ws.drop 16) (compress s (ws.take 16))

/-- The words of a state, as bytes. -/
def State.bytes (s : State) : Bytes :=
  [s.a, s.b, s.c, s.d, s.e, s.f, s.g, s.h].flatMap fun w => Bytes.ofNat 4 w.toNat

/-- The digest of a message. -/
def digest (message : Bytes) : Bytes :=
  let padded := pad message
  (absorb (padded.length / 64) (words padded) initial).bytes

/-- A digest has thirty-two bytes. -/
@[simp] theorem length_digest (message : Bytes) : (digest message).length = 32 := by
  simp [digest, State.bytes]

end QueryGateway.Sha256
