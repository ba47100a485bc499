import QueryGateway.Identifier
import QueryGateway.Request
import QueryGateway.Proofs.Decimal.Digits

/-!
# Tokens of SQL statements

A reader that knows nothing of how statements are put together: it takes a text apart into quoted
names, words, placeholders, numbers, operators and marks, as a database does before it looks at the
grammar.  A quote inside a quoted name is written twice, a placeholder is a dollar sign with digits,
and of two operators the longer one is taken.

## Main definitions

* `Sql.Token` — the tokens.
* `Sql.readQuoted` — a quoted name after its opening quote.
* `Sql.token?`, `Sql.tokens?` — the first token of a text, and all of them.
* `Sql.Reads` — a text that reads as some tokens wherever it stands in front of a boundary.

## Main results

* `Sql.readQuoted_doubleQuotes` — a name with its quotes doubled is read up to the closing quote.
* `Sql.reads_name`, `Sql.reads_word`, `Sql.reads_placeholder`, `Sql.reads_operator` — the pieces.
* `Sql.Reads.append_space`, `Sql.Reads.append_mark`, `Sql.reads_intercalate` — putting texts
  together.
-/

namespace QueryGateway
namespace Sql

/-- A token of a statement. -/
inductive Token
  /-- A name between double quotes. -/
  | name (text : String)
  /-- A run of letters outside quotes. -/
  | word (text : String)
  /-- The parameter with a number. -/
  | placeholder (n : Nat)
  | number (n : Nat)
  | operator (c : Comparison)
  /-- A single character that stands for itself. -/
  | mark (c : Char)
  deriving DecidableEq, Repr

/-- Reads a quoted name after its opening quote: the name, and the input after the closing quote. -/
def readQuoted : List Char → Option (List Char × List Char)
  | [] => none
  | '"' :: '"' :: rest => (readQuoted rest).map fun (cs, left) => ('"' :: cs, left)
  | '"' :: rest => some ([], rest)
  | c :: rest => (readQuoted rest).map fun (cs, left) => (c :: cs, left)

/-- The characters that are tokens by themselves. -/
def isMark (c : Char) : Bool := c == ',' || c == '.' || c == '*' || c == '(' || c == ')'

/-- An operator, the longer one where two begin alike. -/
def operator? : List Char → Option (Comparison × List Char)
  | '=' :: rest => some (.eq, rest)
  | '>' :: '=' :: rest => some (.ge, rest)
  | '>' :: rest => some (.gt, rest)
  | '<' :: '=' :: rest => some (.le, rest)
  | '<' :: rest => some (.lt, rest)
  | _ => none

/-- The token at the start of a text, and the text after it. -/
def token? : List Char → Option (Token × List Char)
  | [] => none
  | c :: rest =>
    if c = '"' then (readQuoted rest).map fun (cs, left) => (.name (String.ofList cs), left)
    else if c = '$' then
      if rest.takeWhile Char.isDigit = [] then none
      else
        some (.placeholder (Numeral.natOf (rest.takeWhile Char.isDigit)),
          rest.dropWhile Char.isDigit)
    else if isMark c then some (.mark c, rest)
    else if c.isAlpha then
      some (.word (String.ofList (c :: rest.takeWhile Char.isAlpha)), rest.dropWhile Char.isAlpha)
    else if c.isDigit then
      some (.number (Numeral.natOf (c :: rest.takeWhile Char.isDigit)), rest.dropWhile Char.isDigit)
    else (operator? (c :: rest)).map fun (op, left) => (.operator op, left)

/-- The text after its leading spaces. -/
def skipSpaces (cs : List Char) : List Char := cs.dropWhile (· == ' ')

theorem length_readQuoted {cs name left : List Char} (h : readQuoted cs = some (name, left)) :
    left.length < cs.length := by
  fun_induction readQuoted cs generalizing name left with
  | case1 => simp at h
  | case2 rest ih =>
    obtain ⟨⟨name', left'⟩, hr, he⟩ := Option.map_eq_some_iff.mp h
    obtain ⟨rfl, rfl⟩ := Prod.mk.inj he
    have := ih hr
    simp only [List.length_cons]
    omega
  | case3 rest =>
    obtain ⟨rfl, rfl⟩ := Prod.mk.inj (Option.some.inj h)
    simp
  | case4 c rest _ _ ih =>
    obtain ⟨⟨name', left'⟩, hr, he⟩ := Option.map_eq_some_iff.mp h
    obtain ⟨rfl, rfl⟩ := Prod.mk.inj he
    have := ih hr
    simp only [List.length_cons]
    omega

theorem length_dropWhile_le {α : Type} (p : α → Bool) (l : List α) :
    (l.dropWhile p).length ≤ l.length :=
  (List.dropWhile_sublist p).length_le

theorem length_operator? {cs left : List Char} {op : Comparison}
    (h : operator? cs = some (op, left)) : left.length < cs.length := by
  unfold operator? at h
  split at h <;> cases h <;> simp only [List.length_cons] <;> omega

/-- A token takes at least one character. -/
theorem length_token? {cs left : List Char} {t : Token} (h : token? cs = some (t, left)) :
    left.length < cs.length := by
  cases cs with
  | nil => simp [token?] at h
  | cons c rest =>
    have lt_cons : ∀ p : Char → Bool, (rest.dropWhile p).length < (c :: rest).length := fun p =>
      Nat.lt_succ_of_le (length_dropWhile_le p rest)
    simp only [token?] at h
    split at h
    · obtain ⟨⟨name, left'⟩, hr, he⟩ := Option.map_eq_some_iff.mp h
      obtain ⟨rfl, rfl⟩ := Prod.mk.inj he
      exact Nat.lt_succ_of_lt (length_readQuoted hr)
    split at h
    · split at h
      · simp at h
      · obtain ⟨rfl, rfl⟩ := Prod.mk.inj (Option.some.inj h)
        exact lt_cons _
    split at h
    · obtain ⟨rfl, rfl⟩ := Prod.mk.inj (Option.some.inj h)
      simp
    split at h
    · obtain ⟨rfl, rfl⟩ := Prod.mk.inj (Option.some.inj h)
      exact lt_cons _
    split at h
    · obtain ⟨rfl, rfl⟩ := Prod.mk.inj (Option.some.inj h)
      exact lt_cons _
    · obtain ⟨⟨op, left'⟩, hr, he⟩ := Option.map_eq_some_iff.mp h
      obtain ⟨rfl, rfl⟩ := Prod.mk.inj he
      exact length_operator? hr

/-- All tokens of a text. -/
def tokens? (cs : List Char) : Option (List Token) :=
  match _ : skipSpaces cs with
  | [] => some []
  | c :: rest =>
    match _ : token? (c :: rest) with
    | none => none
    | some (t, left) => (tokens? left).map (t :: ·)
termination_by cs.length
decreasing_by
  rename_i hs ht
  have hle : (skipSpaces cs).length ≤ cs.length := length_dropWhile_le _ _
  have hlt := length_token? ht
  rw [hs] at hle
  omega

/-! ### One token at a time -/

@[simp] theorem tokens?_nil : tokens? [] = some [] := by
  unfold tokens?
  rfl

@[simp] theorem tokens?_space (cs : List Char) : tokens? (' ' :: cs) = tokens? cs := by
  have h : skipSpaces (' ' :: cs) = skipSpaces cs := rfl
  unfold tokens?
  rw [h]

/-- A text that begins with a token has the tokens of the rest after it. -/
theorem tokens?_of_token? {c : Char} {cs left : List Char} {t : Token} (hc : c ≠ ' ')
    (h : token? (c :: cs) = some (t, left)) :
    tokens? (c :: cs) = (tokens? left).map (t :: ·) := by
  have hskip : skipSpaces (c :: cs) = c :: cs := by
    unfold skipSpaces
    rw [List.dropWhile_cons, if_neg (by simpa using hc)]
  -- the two matches carry equations for termination, so they are opened one at a time
  rw [tokens?]
  split
  · next hs => rw [hskip] at hs; cases hs
  · next hs =>
    rw [hskip] at hs
    cases hs
    split
    · next hn => rw [h] at hn; cases hn
    · next hn => rw [h] at hn; cases hn; rfl

/-! ### Texts that read as tokens -/

/-- The text is over or goes on with a space or a mark, so that no token can run on into it. -/
def AtBoundary (cs : List Char) : Prop := ∀ c ∈ cs.head?, c = ' ' ∨ isMark c = true

/-- The text reads as the tokens wherever it stands in front of a boundary. -/
def Reads (text : List Char) (ts : List Token) : Prop :=
  ∀ rest, AtBoundary rest → tokens? (text ++ rest) = (tokens? rest).map (ts ++ ·)

theorem atBoundary_nil : AtBoundary [] := by simp [AtBoundary]

theorem atBoundary_space (cs : List Char) : AtBoundary (' ' :: cs) := by simp [AtBoundary]

theorem atBoundary_mark {m : Char} (hm : isMark m = true) (cs : List Char) :
    AtBoundary (m :: cs) := by
  simp [AtBoundary, hm]

theorem not_isBoundary {c : Char} (h : c = ' ' ∨ isMark c = true) :
    c.isAlpha = false ∧ c.isDigit = false ∧ c ≠ '"' ∧ c ≠ '=' := by
  rcases h with rfl | h
  · decide
  · simp only [isMark, Bool.or_eq_true, beq_iff_eq] at h
    rcases h with (((rfl | rfl) | rfl) | rfl) | rfl <;> decide

/-- A character of a class is none of the characters outside of it. -/
theorem ne_of_class {p : Char → Bool} {c d : Char} (hc : p c = true) (hd : p d = false) :
    c ≠ d := by
  rintro rfl
  rw [hc] at hd
  cases hd

theorem isMark_eq_false {c : Char} (h : c.isAlpha = true ∨ c.isDigit = true) :
    isMark c = false := by
  rw [Bool.eq_false_iff]
  intro hmark
  obtain ⟨halpha, hdigit, -⟩ := not_isBoundary (Or.inr hmark)
  rw [halpha, hdigit] at h
  simp at h

/-- A run of characters that no boundary belongs to ends at a boundary. -/
theorem span_atBoundary {p : Char → Bool} (hp : ∀ c, c = ' ' ∨ isMark c = true → p c = false)
    {cs rest : List Char} (hcs : ∀ c ∈ cs, p c = true) (h : AtBoundary rest) :
    (cs ++ rest).takeWhile p = cs ∧ (cs ++ rest).dropWhile p = rest := by
  rw [List.takeWhile_append_of_pos hcs, List.dropWhile_append_of_pos hcs]
  cases rest with
  | nil => simp
  | cons c rest =>
    -- the run stops at the first character of what follows
    have hc : p c = false := hp c (h c (by simp))
    simp [hc]

/-- A name with its quotes doubled is read up to the closing quote. -/
theorem readQuoted_doubleQuotes (name : List Char) {rest : List Char}
    (h : rest.head? ≠ some '"') :
    readQuoted (doubleQuotes name ++ '"' :: rest) = some (name, rest) := by
  induction name with
  | nil =>
    cases rest with
    | nil => rfl
    | cons c rest =>
      have hc : c ≠ '"' := by simpa using h
      simp [doubleQuotes, readQuoted, hc]
  | cons c name ih =>
    unfold doubleQuotes
    split
    · next hc =>
      subst hc
      rw [List.cons_append, List.cons_append, readQuoted, ih]
      rfl
    · next hc =>
      rw [List.cons_append, readQuoted]
      · rw [ih]
        rfl
      · rintro _ rfl
        exact absurd rfl hc
      · rintro rfl
        exact absurd rfl hc

/-- A text whose first token it is alone reads as that token. -/
theorem reads_of_token? {c : Char} {cs : List Char} {t : Token} (hc : c ≠ ' ')
    (h : ∀ rest, AtBoundary rest → token? (c :: (cs ++ rest)) = some (t, rest)) :
    Reads (c :: cs) [t] := by
  intro rest hrest
  rw [List.cons_append, tokens?_of_token? hc (h rest hrest)]
  rfl

theorem reads_name (name : String) : Reads (quoteIdentifier name).toList [.name name] := by
  unfold quoteIdentifier
  rw [String.toList_ofList]
  refine reads_of_token? (by decide) ?_
  intro rest hrest
  have hhead : rest.head? ≠ some '"' := by
    intro hq
    exact (not_isBoundary (hrest '"' hq)).2.2.1 rfl
  rw [List.append_assoc, List.singleton_append, token?, if_pos rfl,
    readQuoted_doubleQuotes _ hhead]
  simp

theorem reads_word {c : Char} {cs : List Char} (h : ∀ a ∈ c :: cs, a.isAlpha = true) :
    Reads (c :: cs) [.word (String.ofList (c :: cs))] := by
  have hc : c.isAlpha = true := h c List.mem_cons_self
  refine reads_of_token? (ne_of_class hc (by decide)) ?_
  intro rest hrest
  obtain ⟨htake, hdrop⟩ := span_atBoundary (fun c h => (not_isBoundary h).1)
    (fun a ha => h a (List.mem_cons_of_mem c ha)) hrest
  rw [token?, if_neg (ne_of_class hc (by decide)), if_neg (ne_of_class hc (by decide)),
    isMark_eq_false (Or.inl hc), if_neg (by simp), if_pos hc, htake, hdrop]

theorem reads_keyword (text : String)
    (h : text.toList ≠ [] ∧ text.toList.all Char.isAlpha = true) :
    Reads text.toList [.word text] := by
  obtain ⟨c, cs, hc⟩ := List.exists_cons_of_ne_nil h.1
  have halpha : ∀ a ∈ c :: cs, a.isAlpha = true := by
    rw [← hc]
    exact List.all_eq_true.mp h.2
  have hword := reads_word halpha
  rwa [← hc, String.ofList_toList] at hword

theorem not_isAlpha_of_isDigit {c : Char} (h : c.isDigit = true) : c.isAlpha = false := by
  have hle : c.val.toNat ≤ 57 := (Char.isDigit_iff_toNat.mp h).2
  have hupper : c.isUpper = false := by
    refine decide_eq_false ?_
    intro hletter
    have : 65 ≤ c.val.toNat := UInt32.le_iff_toNat_le.mp hletter.1
    omega
  have hlower : c.isLower = false := by
    refine Bool.and_eq_false_iff.mpr (Or.inl (decide_eq_false fun hletter => ?_))
    have : 97 ≤ c.val.toNat := UInt32.le_iff_toNat_le.mp hletter
    omega
  exact Bool.or_eq_false_iff.mpr ⟨hupper, hlower⟩

theorem reads_number (n : Nat) : Reads (Nat.toDigits 10 n) [.number n] := by
  have hdigit : ∀ a ∈ Nat.toDigits 10 n, a.isDigit = true :=
    fun _ => Numeral.isDigit_of_mem_toDigits
  obtain ⟨c, cs, hc⟩ := List.exists_cons_of_ne_nil (Nat.toDigits_ne_nil (b := 10) (n := n))
  rw [hc] at hdigit ⊢
  have hfirst : c.isDigit = true := hdigit c List.mem_cons_self
  refine reads_of_token? (ne_of_class hfirst (by decide)) ?_
  intro rest hrest
  obtain ⟨htake, hdrop⟩ := span_atBoundary (fun c h => (not_isBoundary h).2.1)
    (fun a ha => hdigit a (List.mem_cons_of_mem c ha)) hrest
  rw [token?, if_neg (ne_of_class hfirst (by decide)), if_neg (ne_of_class hfirst (by decide)),
    isMark_eq_false (Or.inr hfirst), if_neg (by simp), not_isAlpha_of_isDigit hfirst,
    if_neg (by simp), if_pos hfirst, htake, hdrop, ← hc, Numeral.natOf_toDigits]

theorem reads_placeholder (n : Nat) : Reads ('$' :: Nat.toDigits 10 n) [.placeholder n] := by
  refine reads_of_token? (by decide) ?_
  intro rest hrest
  obtain ⟨htake, hdrop⟩ := span_atBoundary (fun c h => (not_isBoundary h).2.1)
    (fun _ => Numeral.isDigit_of_mem_toDigits (n := n)) hrest
  rw [token?, if_neg (by decide), if_pos rfl, htake, hdrop, if_neg Nat.toDigits_ne_nil,
    Numeral.natOf_toDigits]

theorem reads_operator (c : Comparison) : Reads c.symbol.toList [.operator c] := by
  have follows : ∀ rest, AtBoundary rest → ∀ r, rest ≠ '=' :: r := by
    rintro _ hrest r rfl
    exact (not_isBoundary (hrest '=' rfl)).2.2.2 rfl
  cases c with
  | eq => exact reads_of_token? (by decide) fun rest _ => rfl
  | ge => exact reads_of_token? (by decide) fun rest _ => rfl
  | le => exact reads_of_token? (by decide) fun rest _ => rfl
  | gt =>
    refine reads_of_token? (by decide) ?_
    intro rest hrest
    show (operator? ('>' :: rest)).map _ = _
    rw [operator?]
    · rfl
    · exact follows rest hrest
  | lt =>
    refine reads_of_token? (by decide) ?_
    intro rest hrest
    show (operator? ('<' :: rest)).map _ = _
    rw [operator?]
    · rfl
    · exact follows rest hrest

/-! ### Putting texts together -/

theorem reads_nil : Reads [] [] := by
  intro rest _
  simp

theorem Reads.space {text : List Char} {ts : List Token} (h : Reads text ts) :
    Reads (' ' :: text) ts := by
  intro rest hrest
  rw [List.cons_append, tokens?_space, h rest hrest]

theorem Reads.append_space {a b : List Char} {ts us : List Token} (ha : Reads a ts)
    (hb : Reads b us) : Reads (a ++ ' ' :: b) (ts ++ us) := by
  intro rest hrest
  rw [List.append_assoc, List.cons_append, ha _ (atBoundary_space _), tokens?_space, hb rest hrest,
    Option.map_map]
  simp [Function.comp_def, List.append_assoc]

theorem Reads.append_mark {a b : List Char} {ts us : List Token} {m : Char}
    (hm : isMark m = true) (ha : Reads a ts) (hb : Reads b us) :
    Reads (a ++ m :: b) (ts ++ .mark m :: us) := by
  have hne : m ≠ ' ' ∧ m ≠ '"' ∧ m ≠ '$' := by
    simp only [isMark, Bool.or_eq_true, beq_iff_eq] at hm
    rcases hm with (((rfl | rfl) | rfl) | rfl) | rfl <;> decide
  intro rest hrest
  have htoken : token? (m :: (b ++ rest)) = some (.mark m, b ++ rest) := by
    rw [token?, if_neg hne.2.1, if_neg hne.2.2, if_pos hm]
  rw [List.append_assoc, List.cons_append, ha _ (atBoundary_mark hm _),
    tokens?_of_token? hne.1 htoken, hb rest hrest, Option.map_map, Option.map_map]
  simp [Function.comp_def, List.append_assoc]

/-- Texts with a separator between them read as their tokens with the tokens of the separator
between them, if that is so for two texts. -/
theorem reads_intercalate {α : Type} {sep : List Char} {mark : List Token}
    (hsep : ∀ {a b : List Char} {ts us : List Token}, Reads a ts → Reads b us →
      Reads (a ++ (sep ++ b)) (ts ++ (mark ++ us)))
    (text : α → List Char) (ts : α → List Token) (xs : List α)
    (h : ∀ x ∈ xs, Reads (text x) (ts x)) :
    Reads (sep.intercalate (xs.map text)) (mark.intercalate (xs.map ts)) := by
  induction xs with
  | nil => exact reads_nil
  | cons x xs ih =>
    have hx := h x List.mem_cons_self
    have hxs := ih fun y hy => h y (List.mem_cons_of_mem x hy)
    cases xs with
    | nil => simpa using hx
    | cons y ys =>
      rw [List.map_cons, List.map_cons, List.intercalate_cons_cons, List.map_cons, List.map_cons,
        List.intercalate_cons_cons, List.append_assoc, List.append_assoc]
      exact hsep hx hxs

theorem Reads.append_comma {a b : List Char} {ts us : List Token} (ha : Reads a ts)
    (hb : Reads b us) : Reads (a ++ ([',', ' '] ++ b)) (ts ++ ([.mark ','] ++ us)) :=
  ha.append_mark (by decide) hb.space

/-- A whole text that reads as tokens has these tokens. -/
theorem Reads.tokens?_eq {text : List Char} {ts : List Token} (h : Reads text ts) :
    tokens? text = some ts := by
  have := h [] atBoundary_nil
  simpa using this

end Sql
end QueryGateway
