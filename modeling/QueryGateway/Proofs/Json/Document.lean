import QueryGateway.Proofs.Json.Numeral
import QueryGateway.Proofs.Json.Text
import QueryGateway.Proofs.Text.Utf8

/-!
# Reading back documents

The first step of reading takes the written form of a value apart again: texts into their pieces and
numbers into their numerals, whatever they mean.  The reader bounds the nesting by the length of the
input, which is always enough.

## Main definitions

* `Json.Value.document` — the document that the written form of a value is.

## Main results

* `Json.Document.ofBytes?_bytes` — what is written is read as that document.
-/

namespace QueryGateway
namespace Json

/-! ### The document of a value -/

namespace Value

mutual

/-- The document that the written form of a value is. -/
def document : Value → Document
  | .null => .null
  | .bool b => .bool b
  | .number n => .number n.numeral
  | .string s => .string (pieces s)
  | .array items => .array (documents items)
  | .object members => .object (memberDocuments members)

/-- The documents of a list of values. -/
def documents : List Value → List Document
  | [] => []
  | v :: rest => document v :: documents rest

/-- The documents of members, each with its key. -/
def memberDocuments : List (String × Value) → List (List Piece × Document)
  | [] => []
  | (k, v) :: rest => (pieces k, document v) :: memberDocuments rest

end

end Value

namespace Document

open Value

/-! ### Values in front of what may follow them -/

theorem endsValue_moreItems (items : List Value) (rest : List Glyph) :
    EndsValue ((moreItems items).map some ++ rest) := by
  cases items <;> simp [EndsValue, moreItems]

theorem endsValue_moreMembers (members : List (String × Value)) (rest : List Glyph) :
    EndsValue ((moreMembers members).map some ++ rest) := by
  cases members with
  | nil => simp [EndsValue, moreMembers]
  | cons m members => simp [EndsValue, moreMembers]

theorem skipSpace_cons {c : Char} (h : isSpace (some c) = false) (rest : List Glyph) :
    skipSpace (some c :: rest) = some c :: rest := by
  unfold skipSpace
  rw [List.dropWhile_cons, h]
  rfl

theorem exists_cons_numeral {n : Numeral} (h : n.WellFormed) :
    ∃ c cs, n.chars = c :: cs ∧ (c = '-' ∨ c.isDigit = true) := by
  obtain ⟨c, cs, hc⟩ := List.exists_cons_of_ne_nil h.whole.1
  unfold Numeral.chars
  cases n.negative with
  | true => exact ⟨'-', _, rfl, Or.inl rfl⟩
  | false =>
    refine ⟨c, cs ++ (Numeral.fractionChars n.fraction ++ Numeral.exponentChars n.exponent), ?_,
      Or.inr (h.whole.2 c (hc ▸ List.mem_cons_self))⟩
    rw [hc]
    rfl

/-- A value does not begin with a blank or a closing bracket. -/
theorem exists_cons_chars (v : Value) :
    ∃ c cs, v.chars = c :: cs ∧ isSpace (some c) = false ∧ c ≠ ']' := by
  match v with
  | .null => exact ⟨_, _, rfl, by decide, by decide⟩
  | .bool true => exact ⟨_, _, rfl, by decide, by decide⟩
  | .bool false => exact ⟨_, _, rfl, by decide, by decide⟩
  | .string s => exact ⟨_, _, rfl, by decide, by decide⟩
  | .array [] => exact ⟨_, _, rfl, by decide, by decide⟩
  | .array (v :: items) => exact ⟨_, _, rfl, by decide, by decide⟩
  | .object [] => exact ⟨_, _, rfl, by decide, by decide⟩
  | .object ((k, v) :: members) => exact ⟨_, _, rfl, by decide, by decide⟩
  | .number n =>
    obtain ⟨c, cs, hchars, hc⟩ := exists_cons_numeral n.wellFormed_numeral
    refine ⟨c, cs, n.chars_eq.trans hchars, ?_⟩
    rcases hc with rfl | hc
    · decide
    · have hne : ∀ d : Char, d.isDigit = false → c ≠ d := by
        rintro d hd rfl
        rw [hd] at hc
        cases hc
      refine ⟨?_, hne ']' (by decide)⟩
      simp [isSpace, hne ' ' (by decide), hne '\t' (by decide), hne '\n' (by decide),
        hne '\r' (by decide)]

/-- The reader finds a value where it skips blanks. -/
theorem skipSpace_chars (v : Value) (rest : List Glyph) :
    skipSpace (v.chars.map some ++ rest) = v.chars.map some ++ rest := by
  obtain ⟨c, cs, hc, hspace, -⟩ := exists_cons_chars v
  rw [hc]
  exact skipSpace_cons hspace _

theorem quotedChars_append (s : String) (rest : List Glyph) :
    (quotedChars s).map some ++ rest =
      some '"' :: ((s.toList.flatMap escapedChar).map some ++ some '"' :: rest) := by
  simp [quotedChars]

theorem readValue_quotedChars (s : String) (fuel : Nat) (rest : List Glyph) :
    readValue (fuel + 1) ((quotedChars s).map some ++ rest) =
      some (.string (pieces s), rest) := by
  rw [quotedChars_append]
  show (readString _).bind _ = _
  rw [readString_escaped]
  rfl

/-- After an opening bracket that is not closed at once come items. -/
theorem readValue_array {fuel : Nat} {start : List Glyph} (hspace : skipSpace start = start)
    (hclose : ∀ r, start ≠ some ']' :: r) :
    readValue (fuel + 1) (some '[' :: start) =
      (readItems fuel start).map fun (items, left) => (.array items, left) := by
  rw [readValue, hspace]
  split
  · exact absurd rfl (hclose _)
  · cases readItems fuel start <;> rfl

/-- After an opening brace that is not closed at once come members. -/
theorem readValue_object {fuel : Nat} {start : List Glyph} (hspace : skipSpace start = start)
    (hclose : ∀ r, start ≠ some '\x7d' :: r) :
    readValue (fuel + 1) (some '\x7b' :: start) =
      (readMembers fuel start).map fun (members, left) => (.object members, left) := by
  rw [readValue, hspace]
  split
  · exact absurd rfl (hclose _)
  · cases readMembers fuel start <;> rfl

theorem member_append (k : String) (text : List Char) (rest : List Glyph) :
    (quotedChars k ++ ':' :: text).map some ++ rest =
      some '"' :: ((k.toList.flatMap escapedChar).map some ++
        some '"' :: some ':' :: (text.map some ++ rest)) := by
  simp [quotedChars]

/-- A member whose value is followed by the closing brace is the last. -/
theorem readMembers_last {k : String} {text : List Char} {fuel : Nat} {rest left : List Glyph}
    {doc : Document} (hspace : skipSpace (text.map some ++ rest) = text.map some ++ rest)
    (h : readValue fuel (text.map some ++ rest) = some (doc, some '\x7d' :: left)) :
    readMembers (fuel + 1) ((quotedChars k ++ ':' :: text).map some ++ rest) =
      some ([(pieces k, doc)], left) := by
  rw [member_append, readMembers, readString_escaped]
  show (readValue fuel (skipSpace (text.map some ++ rest))).bind _ = _
  rw [hspace, h]
  rfl

/-- A member whose value is followed by a comma has others after it. -/
theorem readMembers_more {k : String} {text : List Char} {fuel : Nat} {rest left : List Glyph}
    {doc : Document} (hspace : skipSpace (text.map some ++ rest) = text.map some ++ rest)
    (h : readValue fuel (text.map some ++ rest) = some (doc, some ',' :: left)) :
    readMembers (fuel + 1) ((quotedChars k ++ ':' :: text).map some ++ rest) =
      (readMembers fuel (skipSpace left)).map fun (members, left) =>
        ((pieces k, doc) :: members, left) := by
  rw [member_append, readMembers, readString_escaped]
  show (readValue fuel (skipSpace (text.map some ++ rest))).bind _ = _
  rw [hspace, h]
  show (readMembers fuel (skipSpace left)).bind _ = _
  cases readMembers fuel (skipSpace left) <;> rfl

theorem skipSpace_value (v : Value) (text : List Char) (rest : List Glyph) :
    skipSpace ((v.chars ++ text).map some ++ rest) = (v.chars ++ text).map some ++ rest := by
  rw [List.map_append, List.append_assoc]
  exact skipSpace_chars v _

theorem skipSpace_quotedChars (k : String) (text : List Char) (rest : List Glyph) :
    skipSpace ((quotedChars k ++ text).map some ++ rest) =
      (quotedChars k ++ text).map some ++ rest :=
  skipSpace_cons (by decide) _

theorem length_le_of_member {k : String} {v : Value} {members : List (String × Value)} {fuel : Nat}
    (h : (quotedChars k ++ ':' :: (chars v ++ moreMembers members)).length ≤ fuel + 1) :
    v.chars.length + (moreMembers members).length ≤ fuel := by
  simp only [List.length_append, List.length_cons] at h
  omega

/-! ### Reading what is written

The induction is on the value.  The fuel is at least the length of what is still to be read, which
every nested call finds shorter by the character that was read before it. -/

mutual

theorem readValue_chars : ∀ (v : Value) (fuel : Nat) (rest : List Glyph),
    v.chars.length ≤ fuel → EndsValue rest →
      readValue fuel (v.chars.map some ++ rest) = some (v.document, rest)
  | .null, fuel + 1, rest, _, _ => rfl
  | .bool true, fuel + 1, rest, _, _ => rfl
  | .bool false, fuel + 1, rest, _, _ => rfl
  | .number n, fuel + 1, rest, _, hrest => by
    show readValue (fuel + 1) (n.chars.map some ++ rest) = _
    rw [n.chars_eq]
    exact readValue_numeral n.wellFormed_numeral hrest fuel
  | .string s, fuel + 1, rest, _, _ => readValue_quotedChars s fuel rest
  | .array [], fuel + 1, rest, _, _ => rfl
  | .array (v :: items), fuel + 1, rest, h, _ => by
    have hitems := readItems_chars v items fuel rest (by simpa [chars] using h)
    obtain ⟨c, cs, hc, hspace, hclose⟩ := exists_cons_chars v
    show readValue (fuel + 1) (some '[' :: ((chars v ++ moreItems items).map some ++ rest)) = _
    rw [readValue_array, hitems]
    · rfl
    · rw [hc]
      exact skipSpace_cons hspace _
    · intro r hr
      rw [hc] at hr
      exact hclose (Option.some.inj (List.cons.inj hr).1)
  | .object [], fuel + 1, rest, _, _ => rfl
  | .object ((k, v) :: members), fuel + 1, rest, h, _ => by
    have hmembers := readMembers_chars k v members fuel rest (by simpa [chars] using h)
    show readValue (fuel + 1) (some '\x7b' ::
      ((quotedChars k ++ ':' :: (chars v ++ moreMembers members)).map some ++ rest)) = _
    rw [readValue_object, hmembers]
    · rfl
    · exact skipSpace_cons (by decide) _
    · intro r hr
      exact absurd (Option.some.inj (List.cons.inj hr).1) (by decide)
  | v, 0, _, h, _ => by
    obtain ⟨c, cs, hc, -⟩ := exists_cons_chars v
    rw [hc] at h
    exact absurd h (Nat.not_succ_le_zero _)

theorem readItems_chars : ∀ (v : Value) (items : List Value) (fuel : Nat) (rest : List Glyph),
    (chars v ++ moreItems items).length ≤ fuel →
      readItems fuel ((chars v ++ moreItems items).map some ++ rest) =
        some (documents (v :: items), rest)
  | v, items, 0, rest, h => by
    obtain ⟨c, cs, hc, -⟩ := exists_cons_chars v
    rw [hc] at h
    exact absurd h (Nat.not_succ_le_zero _)
  | v, [], fuel + 1, rest, h => by
    have hv := readValue_chars v fuel (some ']' :: rest)
      (by simpa [moreItems] using h) (endsValue_moreItems [] rest)
    have htext : (chars v ++ moreItems []).map some ++ rest =
        v.chars.map some ++ some ']' :: rest := by
      simp [moreItems]
    rw [htext, readItems, hv]
    rfl
  | v, w :: items, fuel + 1, rest, h => by
    have hlength : v.chars.length + (1 + (chars w ++ moreItems items).length) ≤ fuel + 1 := by
      simpa [moreItems, Nat.add_comm, Nat.add_assoc, Nat.add_left_comm] using h
    have hv := readValue_chars v fuel (some ',' :: ((chars w ++ moreItems items).map some ++ rest))
      (by omega) (endsValue_moreItems (w :: items) rest)
    obtain ⟨c, cs, hc, -⟩ := exists_cons_chars v
    have hpos : 0 < v.chars.length := by
      rw [hc]
      exact Nat.succ_pos _
    have hitems := readItems_chars w items fuel rest (by omega)
    have htext : (chars v ++ moreItems (w :: items)).map some ++ rest =
        v.chars.map some ++ some ',' :: ((chars w ++ moreItems items).map some ++ rest) := by
      simp [moreItems]
    rw [htext, readItems, hv]
    show (readItems fuel (skipSpace _)).bind _ = _
    rw [skipSpace_value, hitems]
    rfl

theorem readMembers_chars : ∀ (k : String) (v : Value) (members : List (String × Value))
    (fuel : Nat) (rest : List Glyph),
    (quotedChars k ++ ':' :: (chars v ++ moreMembers members)).length ≤ fuel →
      readMembers fuel
          ((quotedChars k ++ ':' :: (chars v ++ moreMembers members)).map some ++ rest) =
        some (memberDocuments ((k, v) :: members), rest)
  | k, v, members, 0, rest, h => by
    exact absurd h (Nat.not_succ_le_zero _)
  | k, v, [], fuel + 1, rest, h => by
    have hlength := length_le_of_member h
    have hv := readValue_chars v fuel (some '\x7d' :: rest) (by omega)
      (endsValue_moreMembers [] rest)
    have htext : (chars v ++ moreMembers []).map some ++ rest =
        v.chars.map some ++ some '\x7d' :: rest := by
      simp [moreMembers]
    rw [← htext] at hv
    exact readMembers_last (skipSpace_value v _ rest) hv
  | k, v, (l, w) :: members, fuel + 1, rest, h => by
    have hlength := length_le_of_member h
    have hv := readValue_chars v fuel
      (some ',' :: ((quotedChars l ++ ':' :: (chars w ++ moreMembers members)).map some ++ rest))
      (by omega) (endsValue_moreMembers ((l, w) :: members) rest)
    have hmembers := readMembers_chars l w members fuel rest (by
      have : (moreMembers ((l, w) :: members)).length =
          (quotedChars l ++ ':' :: (chars w ++ moreMembers members)).length + 1 := rfl
      omega)
    have htext : (chars v ++ moreMembers ((l, w) :: members)).map some ++ rest =
        v.chars.map some ++
          some ',' :: ((quotedChars l ++ ':' :: (chars w ++ moreMembers members)).map some ++
            rest) := by
      simp [moreMembers]
    rw [← htext] at hv
    rw [readMembers_more (skipSpace_value v _ rest) hv, skipSpace_quotedChars, hmembers]
    rfl

end

/-- What is written is read as the document of the value. -/
theorem ofBytes?_bytes (v : Value) : ofBytes? v.bytes = some v.document := by
  have hread := readValue_chars v (2 * (v.chars.map some).length + 2) [] (by simp; omega)
    endsValue_nil
  have hscan : Utf8.scan v.bytes = v.chars.map some := by
    unfold Value.bytes Value.text
    rw [Utf8.scan_encode, String.toList_ofList]
  have hskip := skipSpace_chars v []
  rw [List.append_nil] at hread hskip
  unfold ofBytes? ofGlyphs?
  rw [hscan, hskip, hread]
  rfl

end Document

end Json
end QueryGateway
