import QueryGateway.Json.Printer
import QueryGateway.Json.Reading

/-!
# Reading back texts in JSON

A text is written between quotes, with letters or code units for the characters that must be
escaped.  What is read are these pieces, and they stand for the characters of the text.

## Main definitions

* `Json.pieceOf`, `Json.pieces` — the pieces as which a text is written.

## Main results

* `Json.Document.readString_escaped` — a written text is read as its pieces.
* `Json.Document.text?_pieces` — the pieces stand for the text.
-/

namespace QueryGateway
namespace Json

/-- The piece as which a character is written. -/
def pieceOf (c : Char) : Piece :=
  if c < ' ' ∧ c ≠ '\x08' ∧ c ≠ '\x0c' ∧ c ≠ '\n' ∧ c ≠ '\r' ∧ c ≠ '\t' then .unit c.toNat
  else .char c

/-- The pieces as which a text is written. -/
def pieces (s : String) : List Piece := s.toList.map pieceOf

namespace Document

theorem hex?_digit {n : Nat} (h : n < 16) : hex? (some (Hex.digit n)) = some n :=
  Hex.value?_digit h

/-- A backslash and a letter are the character that the letter stands for. -/
theorem readString_letter {e c : Char} (h : escape? e = some c) (rest : List Glyph) :
    readString (some '\\' :: some e :: rest) =
      (readString rest).map fun (ps, left) => (.char c :: ps, left) := by
  have he : e ≠ 'u' := by
    rintro rfl
    cases h
  rw [readString, h]
  · cases readString rest <;> rfl
  · intro _ _ _ _ _ _ hu
    exact absurd hu he

/-- A character that needs no escape stands for itself. -/
theorem readString_plain {c : Char} (hspace : ¬c < ' ') (hquote : c ≠ '"') (hslash : c ≠ '\\')
    (rest : List Glyph) :
    readString (some c :: rest) =
      (readString rest).map fun (ps, left) => (.char c :: ps, left) := by
  rw [readString, if_neg hspace]
  · cases readString rest <;> rfl
  · exact hquote
  · intro _ _ _ _ _ _
    exact hslash
  · intro _ _ _
    exact hslash
  · exact hslash

/-- Four digits are a code unit. -/
theorem readString_unit {n : Nat} (h : n < 256) (rest : List Glyph) :
    readString (some '\\' :: some 'u' :: some '0' :: some '0' :: some (Hex.digit (n / 16)) ::
        some (Hex.digit (n % 16)) :: rest) =
      (readString rest).map fun (ps, left) => (.unit n :: ps, left) := by
  have hsum : 16 * (16 * (16 * 0 + 0) + n / 16) + n % 16 = n := by omega
  rw [readString]
  show ((hex? (some (Hex.digit (n / 16)))).bind fun a => (hex? (some (Hex.digit (n % 16)))).bind
    fun b => (readString rest).bind fun p =>
      some (Piece.unit (16 * (16 * (16 * 0 + 0) + a) + b) :: p.1, p.2)) = _
  rw [hex?_digit (by omega), hex?_digit (by omega)]
  simp only [Option.bind_some, hsum]
  cases readString rest <;> rfl

/-- A written character is read as its piece. -/
theorem readString_escapedChar (c : Char) (rest : List Glyph) :
    readString ((escapedChar c).map some ++ rest) =
      (readString rest).map fun (ps, left) => (pieceOf c :: ps, left) := by
  unfold escapedChar
  split
  iterate 7 exact readString_letter rfl rest
  next hquote hslash hb hf hn hr ht =>
    split
    · next hspace =>
      have hpiece : pieceOf c = .unit c.toNat :=
        if_pos ⟨hspace, hb, hf, hn, hr, ht⟩
      rw [hpiece]
      exact readString_unit (Nat.lt_trans (Char.lt_def.mp hspace) (by decide)) rest
    · next hspace =>
      have hpiece : pieceOf c = .char c := if_neg fun h => hspace h.1
      rw [hpiece]
      exact readString_plain hspace hquote hslash rest

/-- A written text is read as its pieces, up to the closing quote. -/
theorem readString_escaped (s : String) (rest : List Glyph) :
    readString ((s.toList.flatMap escapedChar).map some ++ some '"' :: rest) =
      some (pieces s, rest) := by
  unfold pieces
  induction s.toList with
  | nil => rfl
  | cons c cs ih =>
    rw [List.flatMap_cons, List.map_append, List.append_assoc, readString_escapedChar, ih]
    rfl

/-! ### What pieces stand for -/

/-- A code unit below the surrogates stands for the character with its number. -/
theorem textOfPieces_unit {n : Nat} (h : n < 0xD800) (rest : List Piece) :
    textOfPieces (.unit n :: rest) = (textOfPieces rest).map (Char.ofNat n :: ·) := by
  rw [textOfPieces.eq_def]
  dsimp only
  rw [if_neg (by omega), if_neg (by omega)]

theorem textOfPieces_pieceOf (c : Char) (rest : List Piece) :
    textOfPieces (pieceOf c :: rest) = (textOfPieces rest).map (c :: ·) := by
  unfold pieceOf
  split
  · next h =>
    have hlt : c.toNat < 0x20 := h.1
    rw [textOfPieces_unit (by omega), Char.ofNat_toNat]
  · rw [textOfPieces]

/-- The pieces stand for the text. -/
@[simp] theorem text?_pieces (s : String) : text? (pieces s) = some s := by
  have h : ∀ cs : List Char, textOfPieces (cs.map pieceOf) = some cs := by
    intro cs
    induction cs with
    | nil => rfl
    | cons c cs ih =>
      rw [List.map_cons, textOfPieces_pieceOf, ih]
      rfl
  unfold text? pieces
  rw [h, Option.map_some, String.ofList_toList]

end Document

end Json
end QueryGateway
