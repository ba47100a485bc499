import Mathlib.Data.List.SplitBy
import QueryGateway.Job.Table
import QueryGateway.Proofs.Sql.Token

/-!
# Commands on one table

A second reader of SQL, for statements with names outside quotes: those that make a table, add a row
to it, or change or read the rows with a key.  Such a name is a run of letters, digits and
underscores; capitals count as small letters.  What stands between the words that open the clauses
is a list with commas, whose parts are read one by one.  Texts that the reader does not know are
not commands.

## Main definitions

* `Sql.lex?` — the tokens of a text.
* `Sql.Operand`, `Sql.Command` — commands; `Sql.Command.ofText?` reads one.
* `Sql.ColumnDefinition`, `Sql.TableDefinition` — tables; `Sql.TableDefinition.ofText?` reads one.
* `Sql.Lexes` — a text has given tokens.

## Main results

* `Sql.Lexes.append`, `Sql.lexes_intercalate` — the tokens of texts that are put together.
* `Sql.listOf?_intercalate` — a list with commas is read part by part.
-/

namespace QueryGateway
namespace Sql

open QueryGateway.Sql.Token

/-! ### Tokens -/

/-- Whether a character can stand within a word or the mark of a parameter. -/
def isWordChar (c : Char) : Bool := c.isAlphanum || c == '_' || c == '$'

/-- Whether a character only separates. -/
def isGap (c : Char) : Bool := c == ' ' || c == '\n'

/-- The runs of characters that belong together, without those that only separate. -/
def lexemes (cs : List Char) : List (List Char) :=
  (cs.splitBy fun a b => isWordChar a && isWordChar b).filter fun run => !run.all isGap

/-- The token that a run of characters is. -/
def lexeme? : List Char → Option Token
  | [] => none
  | c :: cs =>
    if c = '$' then
      if cs ≠ [] ∧ cs.all Char.isDigit then some (placeholder (Numeral.natOf cs)) else none
    else if c.isAlpha || c == '_' then some (word (String.ofList ((c :: cs).map Char.toLower)))
    else if cs = [] ∧ (c = ',' ∨ c = '(' ∨ c = ')' ∨ c = '=') then some (mark c)
    else none

/-- The tokens of a text. -/
def lex? (cs : List Char) : Option (List Token) := (lexemes cs).mapM lexeme?

/-! ### Commands -/

/-- What a column is given. -/
inductive Operand
  | parameter (n : Nat)
  | null
  deriving DecidableEq, Repr

/-- A column that must equal a parameter. -/
structure Key where
  column : String
  parameter : Nat
  deriving DecidableEq, Repr

/-- A command on a table. -/
inductive Command
  | insert (table : String) (columns : List String) (operands : List Operand)
  | update (table : String) (changes : List (String × Operand)) (key : Key)
      (returning : List String)
  | select (columns : List String) (table : String) (key : Key)
  deriving DecidableEq, Repr

/-- A column of a table. -/
structure ColumnDefinition where
  name : String
  type : JobTable.ColumnType
  /-- The column is the primary key. -/
  isKey : Bool
  isNullable : Bool
  deriving DecidableEq, Repr

/-- A table. -/
structure TableDefinition where
  name : String
  columns : List ColumnDefinition
  deriving DecidableEq, Repr

/-! ### Reading -/

/-- Words that are not names where commands have names. -/
def reserved : List String :=
  ["create", "from", "into", "not", "null", "primary", "returning", "select", "table", "where"]

/-- The parts between commas, each read by itself. -/
def listOf? {α : Type} (item : List Token → Option α) (ts : List Token) : Option (List α) :=
  (ts.splitOn (mark ',')).mapM item

/-- A name. -/
def name? : List Token → Option String
  | [word n] => if n ∈ reserved then none else some n
  | _ => none

/-- What a column is given. -/
def operand? : List Token → Option Operand
  | [placeholder n] => some (.parameter n)
  | [word "null"] => some .null
  | _ => none

/-- A column and what it is given. -/
def assignment? : List Token → Option (String × Operand)
  | column :: mark '=' :: ts => do return (← name? [column], ← operand? ts)
  | _ => none

/-- A column that must equal a parameter. -/
def key? : List Token → Option Key
  | [column, mark '=', placeholder n] => (name? [column]).map fun column => ⟨column, n⟩
  | _ => none

/-- The command that tokens are. -/
def Command.ofTokens? : List Token → Option Command
  | word "insert" :: word "into" :: table :: mark '(' :: rest =>
    match rest.splitOn (mark ')') with
    | [columns, word "values" :: mark '(' :: operands, []] => do
      return .insert (← name? [table]) (← listOf? name? columns) (← listOf? operand? operands)
    | _ => none
  | word "update" :: table :: word "set" :: rest =>
    match rest.splitOn (word "where") with
    | [changes, rest] =>
      match rest.splitOn (word "returning") with
      | [key, columns] => do
        return .update (← name? [table]) (← listOf? assignment? changes) (← key? key)
          (← listOf? name? columns)
      | _ => none
    | _ => none
  | word "select" :: rest =>
    match rest.splitOn (word "from") with
    | [columns, table :: word "where" :: key] => do
      return .select (← listOf? name? columns) (← name? [table]) (← key? key)
    | _ => none
  | _ => none

/-- The command that a text is. -/
def Command.ofText? (sql : String) : Option Command := (lex? sql.toList).bind ofTokens?

/-- The type with a name. -/
def columnType? : String → Option JobTable.ColumnType
  | "text" => some .text
  | "bigint" => some .bigint
  | "timestamptz" => some .timestamptz
  | _ => none

/-- A column with its type and what else is said of it. -/
def columnDefinition? : List Token → Option ColumnDefinition
  | column :: word type :: more => do
    let column ← name? [column]
    let type ← columnType? type
    match more with
    | [] => some ⟨column, type, false, true⟩
    | [word "not", word "null"] => some ⟨column, type, false, false⟩
    | [word "primary", word "key"] => some ⟨column, type, true, false⟩
    | _ => none
  | _ => none

/-- The table that tokens make. -/
def TableDefinition.ofTokens? : List Token → Option TableDefinition
  | word "create" :: word "table" :: word "if" :: word "not" :: word "exists" :: table ::
      mark '(' :: rest =>
    match rest.splitOn (mark ')') with
    | [columns, []] => do return ⟨← name? [table], ← listOf? columnDefinition? columns⟩
    | _ => none
  | _ => none

/-- The table that a text makes. -/
def TableDefinition.ofText? (sql : String) : Option TableDefinition :=
  (lex? sql.toList).bind ofTokens?

/-! ### Texts put together -/

/-- The text has the tokens. -/
def Lexes (text : List Char) (ts : List Token) : Prop := lex? text = some ts

/-- No word runs on from one text into the other. -/
def Apart (a b : List Char) : Prop :=
  ∀ x ∈ a.getLast?, ∀ y ∈ b.head?, (isWordChar x && isWordChar y) = false

theorem apart_of_getLast? {a : List Char} (h : a.getLast?.any isWordChar = false)
    (b : List Char) : Apart a b := by
  intro x hx y _
  rw [(Option.any_eq_false ..).mp h x hx, Bool.false_and]

theorem apart_of_head? {b : List Char} (h : b.head?.any isWordChar = false) (a : List Char) :
    Apart a b := by
  intro x _ y hy
  rw [(Option.any_eq_false ..).mp h y hy, Bool.and_false]

theorem lexes_nil : Lexes [] [] := rfl

theorem Lexes.append {a b : List Char} {ts us : List Token} (ha : Lexes a ts) (hb : Lexes b us)
    (h : Apart a b) : Lexes (a ++ b) (ts ++ us) := by
  unfold Lexes lex? lexemes at *
  rw [List.splitBy_append h, List.filter_append, List.mapM_append, ha, hb]
  rfl

/-- Texts with commas between them have their tokens with commas between them. -/
theorem lexes_intercalate {α : Type} (text : α → List Char) (ts : α → List Token) (xs : List α)
    (h : ∀ x ∈ xs, Lexes (text x) (ts x)) :
    Lexes ([',', ' '].intercalate (xs.map text)) ([mark ','].intercalate (xs.map ts)) := by
  induction xs with
  | nil => exact lexes_nil
  | cons x xs ih =>
    have hx := h x List.mem_cons_self
    have hxs := ih fun y hy => h y (List.mem_cons_of_mem x hy)
    cases xs with
    | nil => simpa using hx
    | cons y ys =>
      rw [List.map_cons, List.map_cons, List.intercalate_cons_cons, List.map_cons, List.map_cons,
        List.intercalate_cons_cons, List.append_assoc, List.append_assoc]
      have hcomma : Lexes [',', ' '] [mark ','] := rfl
      have hapart : Apart [',', ' '] ([',', ' '].intercalate (text y :: ys.map text)) :=
        apart_of_getLast? (by decide) _
      exact hx.append (hcomma.append hxs hapart) (apart_of_head? rfl _)

/-- The mark of a parameter. -/
theorem lexes_placeholder (n : Nat) : Lexes ('$' :: Nat.toDigits 10 n) [placeholder n] := by
  have hdigit : ∀ a ∈ Nat.toDigits 10 n, a.isDigit = true :=
    fun _ => Numeral.isDigit_of_mem_toDigits
  have hword : ∀ a ∈ '$' :: Nat.toDigits 10 n, isWordChar a = true := by
    intro a ha
    rcases List.mem_cons.mp ha with rfl | ha
    · decide
    · simp [isWordChar, Char.isAlphanum, hdigit a ha]
  -- the whole mark is one run
  have hrun : ('$' :: Nat.toDigits 10 n).splitBy (fun a b => isWordChar a && isWordChar b) =
      ['$' :: Nat.toDigits 10 n] := by
    refine List.splitBy_of_isChain (List.cons_ne_nil _ _) ?_
    refine (List.Pairwise.imp_of_mem ?_ (List.pairwise_of_forall fun _ _ => trivial)).isChain
    intro a b ha hb _
    rw [hword a ha, hword b hb, Bool.and_self]
  unfold Lexes lex? lexemes
  rw [hrun]
  have hlexeme : lexeme? ('$' :: Nat.toDigits 10 n) = some (placeholder n) := by
    rw [lexeme?, if_pos rfl, if_pos ⟨Nat.toDigits_ne_nil, List.all_eq_true.mpr hdigit⟩,
      Numeral.natOf_toDigits]
  have hgap : isGap '$' = false := by decide
  simp [hlexeme, hgap]

/-! ### Lists -/

/-- A list with commas is read part by part, if no part has a comma and each is read. -/
theorem listOf?_intercalate {α : Type} {item : List Token → Option α} {tokens : α → List Token}
    {xs : List α} (hxs : xs ≠ []) (hcomma : ∀ x ∈ xs, mark ',' ∉ tokens x)
    (hitem : ∀ x ∈ xs, item (tokens x) = some x) :
    listOf? item ([mark ','].intercalate (xs.map tokens)) = some xs := by
  have hparts : ∀ part ∈ xs.map tokens, mark ',' ∉ part := by
    intro part hpart
    obtain ⟨x, hx, rfl⟩ := List.mem_map.mp hpart
    exact hcomma x hx
  have hmapM : ∀ ys : List α, (∀ y ∈ ys, item (tokens y) = some y) →
      (ys.map tokens).mapM item = some ys := by
    intro ys hys
    induction ys with
    | nil => rfl
    | cons y ys ih =>
      rw [List.map_cons, List.mapM_cons, hys y List.mem_cons_self,
        ih fun z hz => hys z (List.mem_cons_of_mem y hz)]
      rfl
  unfold listOf?
  rw [List.splitOn_intercalate (mark ',') hparts (by simpa using hxs), hmapM xs hitem]

/-- The clauses of a change are read each by itself, if the words that open them stand nowhere
else. -/
theorem ofTokens?_update (table : Token) (changes key returning : List Token)
    (hwhere : ∀ ts ∈ [changes, key, returning], word "where" ∉ ts)
    (hreturning : ∀ ts ∈ [key, returning], word "returning" ∉ ts) :
    Command.ofTokens? (word "update" :: table :: word "set" :: (changes ++ word "where" ::
      (key ++ word "returning" :: returning))) = do
        return .update (← name? [table]) (← listOf? assignment? changes) (← key? key)
          (← listOf? name? returning) := by
  have hrest : word "where" ∉ key ++ word "returning" :: returning := by
    rw [List.mem_append, List.mem_cons]
    rintro (h | h | h)
    · exact hwhere key (by simp) h
    · exact absurd h (by decide)
    · exact hwhere returning (by simp) h
  simp only [Command.ofTokens?]
  rw [List.splitOn_append_cons_self_of_not_mem (hwhere changes (by simp)),
    List.splitOn_eq_singleton hrest]
  simp only
  rw [List.splitOn_append_cons_self_of_not_mem (hreturning key (by simp)),
    List.splitOn_eq_singleton (hreturning returning (by simp))]

end Sql
end QueryGateway
