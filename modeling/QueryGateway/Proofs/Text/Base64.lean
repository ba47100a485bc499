import QueryGateway.Text.Base64

/-!
# Reading back Base64

What was written is read back: three bytes make a number of four digits to the base of sixty-four,
and where bytes are missing the last digits are zero.

## Main results

* `Base64.decode?_encode` — any byte string is read back.
-/

namespace QueryGateway.Base64

/-- Padding is no digit. -/
theorem char_ne_pad {n : Nat} (h : n < 64) : char n ≠ '=' := by
  have all : ∀ k : Fin 64, char k ≠ '=' := by decide
  exact all ⟨n, h⟩

theorem ofNat_eq {n : Nat} {a : UInt8} (h : n % 256 = a.toNat) : UInt8.ofNat n = a := by
  refine UInt8.toNat_inj.mp ?_
  rw [UInt8.toNat_ofNat']
  exact h

/-- The four digits of a number. -/
theorem decodeChars?_digits {n : Nat} (hn : n < 16777216) (rest : List Char) :
    decodeChars? (char (n / 262144) :: char (n / 4096 % 64) :: char (n / 64 % 64) ::
      char (n % 64) :: rest) =
      (decodeChars? rest).map fun tail =>
        UInt8.ofNat (n / 65536) :: UInt8.ofNat (n / 256) :: UInt8.ofNat n :: tail := by
  have hlast : n % 64 < 64 := Nat.mod_lt n (by decide)
  have hdigits :
      ((n / 262144 * 64 + n / 4096 % 64) * 64 + n / 64 % 64) * 64 + n % 64 = n := by omega
  rw [decodeChars?.eq_4 _ _ _ _ _ (fun _ h => absurd h (char_ne_pad hlast))
    (fun h => absurd h (char_ne_pad hlast))]
  rw [value?_char (by omega), value?_char (by omega), value?_char (by omega), value?_char hlast]
  simp only [Option.bind_eq_bind, Option.bind_some, hdigits]
  rw [Option.map_eq_bind]
  rfl

theorem decodeChars?_encodeChars (bytes : Bytes) :
    decodeChars? (encodeChars bytes) = some bytes := by
  induction bytes using encodeChars.induct with
  | case1 => rfl
  | case2 a =>
    have ha := a.toNat_lt
    have hdigits : a.toNat * 16 / 64 * 64 + a.toNat * 16 % 64 = a.toNat * 16 := by omega
    rw [encodeChars, decodeChars?, value?_char (by omega), value?_char (by omega)]
    simp only [Option.bind_eq_bind, Option.bind_some, hdigits]
    rw [if_pos (by omega), ofNat_eq (a := a) (by omega)]
  | case3 a b =>
    have ha := a.toNat_lt
    have hb := b.toNat_lt
    rw [encodeChars]
    generalize hn : (a.toNat * 256 + b.toNat) * 4 = n
    have hlast : n % 64 < 64 := Nat.mod_lt n (by decide)
    have hdigits : (n / 4096 * 64 + n / 64 % 64) * 64 + n % 64 = n := by omega
    rw [decodeChars?.eq_3 _ _ _ (char_ne_pad hlast), value?_char (by omega),
      value?_char (by omega), value?_char hlast]
    simp only [Option.bind_eq_bind, Option.bind_some, hdigits]
    rw [if_pos (by omega), ofNat_eq (a := a) (by omega), ofNat_eq (a := b) (by omega)]
  | case4 a b c rest ih =>
    have ha := a.toNat_lt
    have hb := b.toNat_lt
    have hc := c.toNat_lt
    rw [encodeChars, decodeChars?_digits (by omega), ih, Option.map_some,
      ofNat_eq (a := a) (by omega), ofNat_eq (a := b) (by omega), ofNat_eq (a := c) (by omega)]

/-- Any byte string is read back. -/
@[simp] theorem decode?_encode (bytes : Bytes) : decode? (encode bytes) = some bytes := by
  unfold decode? encode
  rw [String.toList_ofList, decodeChars?_encodeChars]

end QueryGateway.Base64
