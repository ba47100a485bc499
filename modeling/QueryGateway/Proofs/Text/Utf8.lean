import QueryGateway.Text.Utf8

/-!
# Reading back UTF-8

The bytes of a character are read as that character, whatever bytes follow.  The order of texts is
that of their bytes.

## Main results

* `Utf8.scanFrom_encodeChar` — one character.
* `Utf8.scan_encode` — the bytes of a text are read as its characters.
* `Utf8.encode_le_iff` — texts are ordered as their bytes are.
-/

namespace QueryGateway
namespace Utf8

theorem toNat_ofNat_of_lt {n : Nat} (h : n < 256) : (UInt8.ofNat n).toNat = n := by
  rw [UInt8.toNat_ofNat']
  omega

/-! ### Bytes of one character -/

theorem scanFrom_none_char {b : UInt8} {c : Char} (h : begin b = .char c) (rest : Bytes) :
    scanFrom none (b :: rest) = some c :: scanFrom none rest := by
  rw [scanFrom, h]

theorem scanFrom_none_more {b : UInt8} {p : Pending} (h : begin b = .more p) (rest : Bytes) :
    scanFrom none (b :: rest) = scanFrom (some p) rest := by
  rw [scanFrom, h]

/-- A byte within the bounds ends a character that owes one byte. -/
theorem scanFrom_last {low high : UInt8} {value n : Nat} (hn : n < 256) (hlow : low.toNat ≤ n)
    (hhigh : n ≤ high.toNat) (rest : Bytes) :
    scanFrom (some ⟨1, low, high, value⟩) (UInt8.ofNat n :: rest) =
      some (Char.ofNat (64 * value + n % 64)) :: scanFrom none rest := by
  have hpush : Pending.push ⟨1, low, high, value⟩ (UInt8.ofNat n) =
      .char (Char.ofNat (64 * value + n % 64)) := by
    unfold Pending.push
    simp only [UInt8.le_iff_toNat_le, toNat_ofNat_of_lt hn]
    rw [if_pos ⟨hlow, hhigh⟩]
    rfl
  rw [scanFrom, hpush]

/-- A byte within the bounds goes on with a character that owes more. -/
theorem scanFrom_next (owed : Nat) {value n : Nat} {low high : UInt8} (hn : n < 256)
    (hlow : low.toNat ≤ n) (hhigh : n ≤ high.toNat) (rest : Bytes) :
    scanFrom (some ⟨owed + 2, low, high, value⟩) (UInt8.ofNat n :: rest) =
      scanFrom (some ⟨owed + 1, 0x80, 0xBF, 64 * value + n % 64⟩) rest := by
  have hpush : Pending.push ⟨owed + 2, low, high, value⟩ (UInt8.ofNat n) =
      .more ⟨owed + 1, 0x80, 0xBF, 64 * value + n % 64⟩ := by
    unfold Pending.push
    simp only [UInt8.le_iff_toNat_le, toNat_ofNat_of_lt hn]
    rw [if_pos ⟨hlow, hhigh⟩, if_neg (by omega)]
    rfl
  rw [scanFrom, hpush]

/-- The first of three bytes, with the bounds of the second. -/
theorem begin_three : ∀ {n : Nat}, n < 16 → begin (UInt8.ofNat (n + 0xE0)) =
    .more ⟨2, if n = 0 then 0xA0 else 0x80, if n = 13 then 0x9F else 0xBF, n⟩ := by
  decide

/-- The first of four bytes, with the bounds of the second. -/
theorem begin_four : ∀ {n : Nat}, n < 5 → begin (UInt8.ofNat (n + 0xF0)) =
    .more ⟨3, if n = 0 then 0x90 else 0x80, if n = 4 then 0x8F else 0xBF, n⟩ := by
  decide

theorem le_continuation (n : Nat) : (0x80 : UInt8).toNat ≤ n % 0x40 + 0x80 :=
  Nat.le_add_left 0x80 _

theorem continuation_le (n : Nat) : n % 0x40 + 0x80 ≤ (0xBF : UInt8).toNat := by
  show n % 0x40 + 0x80 ≤ 0xBF
  omega

/-- The bytes of a character are read as that character. -/
theorem scanFrom_encodeChar (c : Char) (rest : Bytes) :
    scanFrom none (String.utf8EncodeChar c ++ rest) = some c :: scanFrom none rest := by
  have hvalid : c.val.toNat.isValidChar := c.valid
  have hc : Char.ofNat c.val.toNat = c := Char.ofNat_toNat c
  unfold String.utf8EncodeChar
  generalize c.val.toNat = v at hc hvalid
  have hrange : v < 0xD800 ∨ 0xDFFF < v ∧ v < 0x110000 := hvalid
  dsimp only
  split
  · -- one byte
    have hbegin : begin (UInt8.ofNat v) = .char c := by
      unfold begin
      simp only [toNat_ofNat_of_lt (show v < 256 by omega)]
      rw [if_pos (by omega), hc]
    exact scanFrom_none_char hbegin rest
  split
  · -- two bytes
    have hfirst : v / 64 % 0x20 + 0xC0 - 0xC0 = v / 64 := by omega
    have hvalue : 64 * (v / 64) + (v % 64 + 128) % 64 = v := by omega
    have hbegin : begin (UInt8.ofNat (v / 64 % 0x20 + 0xC0)) = .more ⟨1, 0x80, 0xBF, v / 64⟩ := by
      unfold begin
      simp only [toNat_ofNat_of_lt (show v / 64 % 0x20 + 0xC0 < 256 by omega)]
      rw [if_neg (by omega), if_neg (by omega), if_pos (by omega), hfirst]
    rw [List.cons_append, List.cons_append, List.nil_append, scanFrom_none_more hbegin,
      scanFrom_last (by omega) (le_continuation _) (continuation_le _), hvalue, hc]
  split
  · -- three bytes
    have hfirst : v / 4096 % 0x10 = v / 4096 := by omega
    have hvalue : 64 * (64 * (v / 4096) + (v / 64 % 64 + 128) % 64) + (v % 64 + 128) % 64 = v := by
      omega
    rw [List.cons_append, List.cons_append, List.cons_append, List.nil_append, hfirst,
      scanFrom_none_more (begin_three (by omega)),
      scanFrom_next 0 (by omega),
      scanFrom_last (by omega) (le_continuation _) (continuation_le _), hvalue, hc]
    · split
      · show 160 ≤ _
        omega
      · show 128 ≤ _
        omega
    · split
      · show _ ≤ 159
        omega
      · show _ ≤ 191
        omega
  · -- four bytes
    have hfirst : v / 262144 % 0x08 = v / 262144 := by omega
    have hvalue : 64 * (64 * (64 * (v / 262144) + (v / 4096 % 64 + 128) % 64) +
        (v / 64 % 64 + 128) % 64) + (v % 64 + 128) % 64 = v := by
      omega
    rw [List.cons_append, List.cons_append, List.cons_append, List.cons_append, List.nil_append,
      hfirst, scanFrom_none_more (begin_four (by omega)), scanFrom_next 1 (by omega),
      scanFrom_next 0 (by omega) (le_continuation _) (continuation_le _),
      scanFrom_last (by omega) (le_continuation _) (continuation_le _), hvalue, hc]
    · split
      · show 144 ≤ _
        omega
      · show 128 ≤ _
        omega
    · split
      · show _ ≤ 143
        omega
      · show _ ≤ 191
        omega

/-! ### Texts -/

/-- The bytes of a text are read as its characters. -/
theorem scan_encode (text : String) : scan (encode text) = text.toList.map some := by
  unfold scan encode
  induction text.toList with
  | nil => rfl
  | cons c cs ih => rw [List.flatMap_cons, scanFrom_encodeChar, ih, List.map_cons]

/-! ### The order of texts -/

theorem ofNat_lt_ofNat {m n : Nat} (hm : m < 256) (hn : n < 256) :
    UInt8.ofNat m < UInt8.ofNat n ↔ m < n := by
  rw [UInt8.lt_iff_toNat_lt, toNat_ofNat_of_lt hm, toNat_ofNat_of_lt hn]

theorem ofNat_eq_ofNat {m n : Nat} (hm : m < 256) (hn : n < 256) :
    UInt8.ofNat m = UInt8.ofNat n ↔ m = n := by
  rw [← UInt8.toNat_inj, toNat_ofNat_of_lt hm, toNat_ofNat_of_lt hn]

/-- The bytes of a character decide as the character does, whatever bytes follow. -/
theorem encodeChar_append_lt {c d : Char} (h : c < d) (xs ys : Bytes) :
    String.utf8EncodeChar c ++ xs < String.utf8EncodeChar d ++ ys := by
  have hlt : c.val.toNat < d.val.toNat := h
  have hvalid : d.val.toNat.isValidChar := d.valid
  unfold String.utf8EncodeChar
  generalize c.val.toNat = v at hlt
  generalize d.val.toNat = w at hlt hvalid
  have hbound : w < 0x110000 := by
    rcases hvalid with hw | ⟨-, hw⟩ <;> omega
  -- the digits to the base 64, compared from the first one on
  have hv : v / 4096 = v / 64 / 64 ∧ v / 262144 = v / 64 / 64 / 64 := by omega
  have hw : w / 4096 = w / 64 / 64 ∧ w / 262144 = w / 64 / 64 / 64 := by omega
  have hdigits : v / 64 / 64 / 64 < w / 64 / 64 / 64 ∨
      v / 64 / 64 / 64 = w / 64 / 64 / 64 ∧ (v / 64 / 64 % 64 < w / 64 / 64 % 64 ∨
        v / 64 / 64 = w / 64 / 64 ∧ (v / 64 % 64 < w / 64 % 64 ∨
          v / 64 = w / 64 ∧ v % 64 < w % 64)) := by
    omega
  dsimp only
  rw [hv.1, hv.2, hw.1, hw.2]
  clear hv hw
  -- the first byte tells how many there are, and that number grows with the character
  repeat' split
  all_goals
    simp (disch := omega) only [List.cons_append, List.nil_append, List.cons_lt_cons_iff,
      ofNat_lt_ofNat, ofNat_eq_ofNat]
    omega

theorem encodeChars_lt {cs ds : List Char} (h : cs < ds) :
    cs.flatMap String.utf8EncodeChar < ds.flatMap String.utf8EncodeChar := by
  induction cs generalizing ds with
  | nil =>
    cases ds with
    | nil => exact absurd h (List.lt_irrefl _)
    | cons d ds =>
      rw [List.flatMap_cons]
      obtain ⟨b, bs, hd⟩ := List.exists_cons_of_ne_nil (String.utf8EncodeChar_ne_nil (c := d))
      rw [hd]
      exact List.nil_lt_cons _ _
  | cons c cs ih =>
    cases ds with
    | nil => exact absurd h (List.not_lt_nil _)
    | cons d ds =>
      rw [List.flatMap_cons, List.flatMap_cons]
      rcases List.cons_lt_cons_iff.mp h with hlt | ⟨rfl, hlt⟩
      · exact encodeChar_append_lt hlt _ _
      · exact List.append_left_lt (ih hlt)

/-- Texts are ordered as their bytes are. -/
theorem encode_lt_iff {s t : String} : encode s < encode t ↔ s < t := by
  have hmono : ∀ {s t : String}, s < t → encode s < encode t := fun h => encodeChars_lt h
  refine ⟨fun h => ?_, hmono⟩
  -- not above and not equal
  refine Decidable.byContradiction fun hle => ?_
  rcases Decidable.em (t < s) with hlt | hge
  · exact List.lt_asymm h (hmono hlt)
  · rw [String.le_antisymm hge hle] at h
    exact List.lt_irrefl _ h

theorem encode_le_iff {s t : String} : encode s ≤ encode t ↔ s ≤ t := by
  have h := encode_lt_iff (s := t) (t := s)
  exact not_congr h

end Utf8
end QueryGateway
