import QueryGateway.Proofs.Sql.Token

/-!
# Where a quoted name ends

A quoted name goes on until its first undoubled quote.  Quotes stand in rows: along a row they are
taken in pairs from the left, so that a quote is undoubled if it is the last of its row and an even
number of quotes stands before it in the row.  Doubling the quotes of a name makes all of its rows
even.  The closing quote lengthens the row at the end of the name by one and so ends the only odd
row, provided that what follows does not begin with one more quote.

## Main definitions

* `Sql.quotedName?` — reads a quoted name at the start of a text.
* `Sql.quotesAtEnd` — the length of the row of quotes at the end of a text.
* `Sql.Undoubled`, `Sql.EndsBefore` — undoubled quotes, and the first of them.

## Main results

* `Sql.readQuoted_eq_some_iff` — what is read is what doubling the quotes writes.
* `Sql.endsBefore_of_readQuoted` — reading stops at the first undoubled quote.
* `Sql.quoteIdentifier_read_exactly` — a name is read back exactly, whatever quotes it contains.
-/

namespace QueryGateway
namespace Sql

/-- Reads a quoted name at the start of a text: the name, and the text after its closing quote. -/
def quotedName? (text : String) : Option (String × String) :=
  match text.toList with
  | '"' :: cs => (readQuoted cs).map fun (name, rest) => (String.ofList name, String.ofList rest)
  | _ => none

/-- The length of the row of quotes at the end of a text. -/
def quotesAtEnd (cs : List Char) : Nat := (cs.reverse.takeWhile (· == '"')).length

/-- A quote between two parts of a text is undoubled: no quote follows it, and those that stand
before it in its row come in pairs. -/
structure Undoubled (before after : List Char) : Prop where
  paired : 2 ∣ quotesAtEnd before
  last : after.head? ≠ some '"'

/-- The first undoubled quote of a text stands right in front of the rest. -/
structure EndsBefore (cs rest : List Char) : Prop where
  ends : ∃ before, cs = before ++ '"' :: rest ∧ Undoubled before rest
  first : ∀ before after, cs = before ++ '"' :: after → Undoubled before after → after <:+ rest

/-! ### Rows of quotes -/

@[simp] theorem quotesAtEnd_nil : quotesAtEnd [] = 0 := rfl

/-- A character other than a quote at the start does not touch the row at the end. -/
@[simp] theorem quotesAtEnd_cons_of_ne {c : Char} (hc : c ≠ '"') (cs : List Char) :
    quotesAtEnd (c :: cs) = quotesAtEnd cs := by
  unfold quotesAtEnd
  rw [List.reverse_cons, List.takeWhile_append]
  split
  · next hall =>
    rw [List.takeWhile_cons_of_neg (by simpa using hc), List.append_nil, hall]
  · rfl

/-- Two quotes at the start leave the row at the end even or odd. -/
theorem two_dvd_quotesAtEnd_pair (cs : List Char) :
    2 ∣ quotesAtEnd ('"' :: '"' :: cs) ↔ 2 ∣ quotesAtEnd cs := by
  have hreverse : ('"' :: '"' :: cs).reverse = cs.reverse ++ ['"', '"'] := by simp
  unfold quotesAtEnd
  rw [hreverse, List.takeWhile_append]
  split
  · next hall =>
    -- nothing but quotes, so that the row at the end takes in the two at the start
    have htwo : ['"', '"'].takeWhile (· == '"') = ['"', '"'] := rfl
    rw [List.length_append, htwo, hall]
    exact Nat.dvd_add_left ⟨1, rfl⟩
  · rfl

/-- Doubling makes rows even. -/
theorem two_dvd_quotesAtEnd_doubleQuotes (name : List Char) :
    2 ∣ quotesAtEnd (doubleQuotes name) := by
  induction name with
  | nil => simp
  | cons c name ih =>
    by_cases hc : c = '"'
    · subst hc
      rw [doubleQuotes_quote]
      exact (two_dvd_quotesAtEnd_pair _).mpr ih
    · rw [doubleQuotes_cons_of_ne hc, quotesAtEnd_cons_of_ne hc]
      exact ih

/-- No quote of a name whose quotes are doubled is undoubled: what follows an undoubled quote is
part of what follows the closing quote. -/
theorem suffix_of_undoubled {name rest before after : List Char}
    (h : doubleQuotes name ++ '"' :: rest = before ++ '"' :: after)
    (hquote : Undoubled before after) : after <:+ rest := by
  induction name generalizing before with
  | nil =>
    cases before with
    | nil =>
      obtain ⟨-, rfl⟩ := List.cons.inj h
      exact List.suffix_refl rest
    | cons b before =>
      obtain ⟨-, rfl⟩ := List.cons.inj h
      exact (List.suffix_cons '"' after).trans (List.suffix_append before ('"' :: after))
  | cons c name ih =>
    by_cases hc : c = '"'
    · subst hc
      rw [doubleQuotes_quote, List.cons_append, List.cons_append] at h
      -- the undoubled quote is the first of the pair, the second one, or comes after both
      match before with
      | [] =>
        obtain ⟨-, rfl⟩ := List.cons.inj h
        exact absurd rfl hquote.last
      | [b] =>
        obtain ⟨rfl, -⟩ := List.cons.inj h
        exact absurd hquote.paired (by decide)
      | b :: b' :: before =>
        obtain ⟨rfl, hsecond⟩ := List.cons.inj h
        obtain ⟨rfl, htail⟩ := List.cons.inj hsecond
        exact ih htail ⟨(two_dvd_quotesAtEnd_pair before).mp hquote.paired, hquote.last⟩
    · rw [doubleQuotes_cons_of_ne hc, List.cons_append] at h
      cases before with
      | nil => exact absurd (List.cons.inj h).1 hc
      | cons b before =>
        obtain ⟨rfl, htail⟩ := List.cons.inj h
        have hpaired := hquote.paired
        rw [quotesAtEnd_cons_of_ne hc] at hpaired
        exact ih htail ⟨hpaired, hquote.last⟩

/-- The closing quote of a name is its first undoubled quote. -/
theorem endsBefore_doubleQuotes (name : List Char) {rest : List Char}
    (h : rest.head? ≠ some '"') : EndsBefore (doubleQuotes name ++ '"' :: rest) rest where
  ends := ⟨doubleQuotes name, rfl, two_dvd_quotesAtEnd_doubleQuotes name, h⟩
  first := fun _ _ => suffix_of_undoubled

/-! ### Reading -/

/-- Only what doubling the quotes of a name writes is read as that name. -/
theorem eq_doubleQuotes_of_readQuoted {cs name rest : List Char}
    (h : readQuoted cs = some (name, rest)) :
    cs = doubleQuotes name ++ '"' :: rest ∧ rest.head? ≠ some '"' := by
  fun_induction readQuoted cs generalizing name rest with
  | case1 => cases h
  | case2 cs ih =>
    obtain ⟨⟨name', rest'⟩, hread, he⟩ := Option.map_eq_some_iff.mp h
    obtain ⟨rfl, rfl⟩ := Prod.mk.inj he
    obtain ⟨rfl, hrest⟩ := ih hread
    exact ⟨rfl, hrest⟩
  | case3 cs hsingle =>
    obtain ⟨rfl, rfl⟩ := Prod.mk.inj (Option.some.inj h)
    refine ⟨rfl, fun hquote => ?_⟩
    obtain ⟨cs', hcs⟩ := List.head?_eq_some_iff.mp hquote
    exact hsingle cs' hcs
  | case4 c cs hpair hquote ih =>
    obtain ⟨⟨name', rest'⟩, hread, he⟩ := Option.map_eq_some_iff.mp h
    obtain ⟨rfl, rfl⟩ := Prod.mk.inj he
    obtain ⟨rfl, hrest⟩ := ih hread
    rw [doubleQuotes_cons_of_ne hquote]
    exact ⟨rfl, hrest⟩

theorem readQuoted_eq_some_iff {cs name rest : List Char} :
    readQuoted cs = some (name, rest) ↔
      cs = doubleQuotes name ++ '"' :: rest ∧ rest.head? ≠ some '"' := by
  refine ⟨eq_doubleQuotes_of_readQuoted, ?_⟩
  rintro ⟨rfl, hrest⟩
  exact readQuoted_doubleQuotes name hrest

/-- Reading stops at the first undoubled quote, whatever the text. -/
theorem endsBefore_of_readQuoted {cs name rest : List Char}
    (h : readQuoted cs = some (name, rest)) : EndsBefore cs rest := by
  obtain ⟨rfl, hrest⟩ := readQuoted_eq_some_iff.mp h
  exact endsBefore_doubleQuotes name hrest

/-! ### Quoted names -/

theorem toList_quoteIdentifier (name : String) :
    (quoteIdentifier name).toList = '"' :: (doubleQuotes name.toList ++ ['"']) :=
  String.toList_ofList

/-- After the opening quote stand the name with its quotes doubled, the closing quote and the
rest. -/
theorem toList_quoteIdentifier_append (name rest : String) :
    (quoteIdentifier name ++ rest).toList =
      '"' :: (doubleQuotes name.toList ++ '"' :: rest.toList) := by
  rw [String.toList_append, toList_quoteIdentifier, List.cons_append, List.append_assoc,
    List.singleton_append]

/-- A quoted name is read back, and the reader stops after it. -/
theorem quotedName?_append (name : String) {rest : String} (h : rest.toList.head? ≠ some '"') :
    quotedName? (quoteIdentifier name ++ rest) = some (name, rest) := by
  unfold quotedName?
  rw [toList_quoteIdentifier_append]
  simp only [readQuoted_doubleQuotes _ h, Option.map_some, String.ofList_toList]

theorem quoteIdentifier_injective : Function.Injective quoteIdentifier := by
  intro a b hab
  have hempty : "".toList.head? ≠ some '"' := by decide
  have ha := quotedName?_append a hempty
  rw [hab, quotedName?_append b hempty] at ha
  exact (Prod.mk.inj (Option.some.inj ha)).1.symm

/-- A quoted name in front of anything but a quote is read back exactly, and the reader stops at
what follows.  Different names are quoted differently, and whatever quotes a name contains, its
closing quote is the first undoubled one after the opening quote. -/
theorem quoteIdentifier_read_exactly (name rest : String) (h : rest.toList.head? ≠ some '"') :
    quotedName? (quoteIdentifier name ++ rest) = some (name, rest) ∧
      Function.Injective quoteIdentifier ∧
      ∃ cs, (quoteIdentifier name ++ rest).toList = '"' :: cs ∧ EndsBefore cs rest.toList := by
  have htext := toList_quoteIdentifier_append name rest
  have hread := readQuoted_doubleQuotes name.toList h
  exact ⟨quotedName?_append name h, quoteIdentifier_injective,
    _, htext, endsBefore_of_readQuoted hread⟩

/-- A name with rows of one, two and three quotes, in front of a dot. -/
theorem quoteIdentifier_read_exactly_rows :
    ".id".toList.head? ≠ some '"' ∧
      quoteIdentifier "\"a\"\"b\"\"\"" = "\"\"\"a\"\"\"\"b\"\"\"\"\"\"\"" ∧
      quotedName? (quoteIdentifier "\"a\"\"b\"\"\"" ++ ".id") =
        some ("\"a\"\"b\"\"\"", ".id") ∧
      Function.Injective quoteIdentifier ∧
      ∃ cs, (quoteIdentifier "\"a\"\"b\"\"\"" ++ ".id").toList = '"' :: cs ∧
        EndsBefore cs ".id".toList :=
  have hrest : ".id".toList.head? ≠ some '"' := by decide
  ⟨hrest, by decide, quoteIdentifier_read_exactly _ ".id" hrest⟩

end Sql
end QueryGateway
