import QueryGateway.Statement
import QueryGateway.Proofs.Sql.Token

/-!
# The grammar of SQL statements

What the tokens of a statement say: which columns or which count it selects, from which table, under
which conditions, in which order and in which window.  The reader takes the clauses in the order in
which SQL has them and accepts nothing after the last one, so a text is one statement or none.

## Main definitions

* `Sql.Select` — a statement that selects; `Sql.Select.tokens` writes it.
* `Sql.Select.ofTokens?` — reads it.
* `Sql.read?` — the statement that a text is.

## Main results

* `Sql.Select.ofTokens?_tokens` — what is written is read back.
-/

namespace QueryGateway
namespace Sql

open QueryGateway.Sql.Token

/-- What a statement selects. -/
inductive Projection
  /-- All columns. -/
  | all
  | columns (names : List String)
  /-- The number of rows, under the name `total`. -/
  | count
  deriving DecidableEq, Repr

/-- A comparison of a column with a parameter. -/
structure Condition where
  column : String
  comparison : Comparison
  parameter : Nat
  deriving DecidableEq, Repr

/-- The parameters that hold the greatest number of rows and the number of rows before them. -/
structure Window where
  limit : Nat
  offset : Nat
  deriving DecidableEq, Repr

/-- A statement that selects. -/
structure Select where
  projection : Projection
  schema : Option String
  table : String
  /-- All of them must hold. -/
  conditions : List Condition
  order : List (String × Direction)
  window : Option Window
  deriving DecidableEq, Repr

/-! ### Writing -/

/-- The token of a column to return. -/
def nameTokens (n : String) : List Token := [name n]

/-- The tokens of a projection. -/
def Projection.tokens : Projection → List Token
  | .all => [mark '*']
  | .columns names => [mark ','].intercalate (names.map nameTokens)
  | .count => [word "COUNT", mark '(', number 1, mark ')', word "AS", word "total"]

/-- The tokens of a table with its schema. -/
def targetTokens (schema : Option String) (table : String) : List Token :=
  match schema with
  | some s => [name s, mark '.', name table]
  | none => [name table]

/-- The tokens of a condition. -/
def Condition.tokens (c : Condition) : List Token :=
  [name c.column, operator c.comparison, placeholder c.parameter]

/-- The tokens of the conditions; without any there is no clause. -/
def whereTokens (conditions : List Condition) : List Token :=
  match conditions with
  | [] => []
  | _ => word "WHERE" :: [word "AND"].intercalate (conditions.map Condition.tokens)

theorem whereTokens_of_ne_nil {conditions : List Condition} (h : conditions ≠ []) :
    whereTokens conditions =
      [word "WHERE"] ++ [word "AND"].intercalate (conditions.map Condition.tokens) := by
  obtain ⟨c, cs, rfl⟩ := List.exists_cons_of_ne_nil h
  rfl

/-- The tokens of a column to order by. -/
def orderKeyTokens (key : String × Direction) : List Token :=
  [name key.1, word key.2.keyword]

/-- The tokens of the order; without one there is no clause. -/
def orderTokens (order : List (String × Direction)) : List Token :=
  match order with
  | [] => []
  | _ => word "ORDER" :: word "BY" :: [mark ','].intercalate (order.map orderKeyTokens)

theorem orderTokens_of_ne_nil {order : List (String × Direction)} (h : order ≠ []) :
    orderTokens order =
      [word "ORDER"] ++ ([word "BY"] ++ [mark ','].intercalate (order.map orderKeyTokens)) := by
  obtain ⟨k, keys, rfl⟩ := List.exists_cons_of_ne_nil h
  rfl

/-- The tokens of the window. -/
def windowTokens : Option Window → List Token
  | none => []
  | some w => [word "LIMIT", placeholder w.limit, word "OFFSET", placeholder w.offset]

/-- The tokens of a statement. -/
def Select.tokens (s : Select) : List Token :=
  word "SELECT" :: (s.projection.tokens ++ word "FROM" :: (targetTokens s.schema s.table ++
    (whereTokens s.conditions ++ (orderTokens s.order ++ windowTokens s.window))))

/-! ### Reading -/

/-- Names with commas between them. -/
def names? : List Token → Option (List String × List Token)
  | name n :: mark ',' :: rest => (names? rest).map fun (ns, left) => (n :: ns, left)
  | name n :: rest => some ([n], rest)
  | _ => none

/-- What is selected. -/
def projection? : List Token → Option (Projection × List Token)
  | mark '*' :: rest => some (.all, rest)
  | word "COUNT" :: mark '(' :: number 1 :: mark ')' :: word "AS" :: word "total" :: rest =>
    some (.count, rest)
  | ts => (names? ts).map fun (ns, left) => (.columns ns, left)

/-- A table with its schema. -/
def target? : List Token → Option ((Option String × String) × List Token)
  | name s :: mark '.' :: name t :: rest => some ((some s, t), rest)
  | name t :: rest => some ((none, t), rest)
  | _ => none

/-- Conditions with `AND` between them. -/
def conditions? : List Token → Option (List Condition × List Token)
  | name c :: operator op :: placeholder n :: word "AND" :: rest =>
    (conditions? rest).map fun (cs, left) => (⟨c, op, n⟩ :: cs, left)
  | name c :: operator op :: placeholder n :: rest => some ([⟨c, op, n⟩], rest)
  | _ => none

/-- The clause of the conditions, if there is one. -/
def where? : List Token → Option (List Condition × List Token)
  | word "WHERE" :: rest => conditions? rest
  | ts => some ([], ts)

/-- The direction that a keyword names. -/
def direction? : String → Option Direction
  | "ASC" => some .ascending
  | "DESC" => some .descending
  | _ => none

/-- Columns to order by, with commas between them. -/
def orderKeys? : List Token → Option (List (String × Direction) × List Token)
  | name c :: word d :: mark ',' :: rest => do
    let d ← direction? d
    let (keys, left) ← orderKeys? rest
    return ((c, d) :: keys, left)
  | name c :: word d :: rest => (direction? d).map fun d => ([(c, d)], rest)
  | _ => none

/-- The clause of the order, if there is one. -/
def order? : List Token → Option (List (String × Direction) × List Token)
  | word "ORDER" :: word "BY" :: rest => orderKeys? rest
  | ts => some ([], ts)

/-- The window, if there is one. -/
def window? : List Token → Option Window × List Token
  | word "LIMIT" :: placeholder l :: word "OFFSET" :: placeholder o :: rest => (some ⟨l, o⟩, rest)
  | ts => (none, ts)

/-- The statement that tokens write; nothing may be left over. -/
def Select.ofTokens? : List Token → Option Select
  | word "SELECT" :: ts => do
    let (projection, ts) ← projection? ts
    match ts with
    | word "FROM" :: ts =>
      let ((schema, table), ts) ← target? ts
      let (conditions, ts) ← where? ts
      let (order, ts) ← order? ts
      match window? ts with
      | (window, []) => return { projection, schema, table, conditions, order, window }
      | _ => none
    | _ => none
  | _ => none

/-- The statement that a text is. -/
def read? (text : String) : Option Select := (tokens? text.toList).bind Select.ofTokens?

/-! ### Reading what is written -/

/-- A list is read back from its items with a separator between them, if one item is read in front
of what follows the list and in front of the separator. -/
theorem reads_list {α : Type} {read : List Token → Option (List α × List Token)}
    {tokens : α → List Token} {sep : Token} {rest : List Token}
    (hlast : ∀ x, read (tokens x ++ rest) = some ([x], rest))
    (hmore : ∀ x ts, read (tokens x ++ sep :: ts) =
      (read ts).map fun (xs, left) => (x :: xs, left)) :
    ∀ xs : List α, xs ≠ [] →
      read ([sep].intercalate (xs.map tokens) ++ rest) = some (xs, rest) := by
  intro xs
  induction xs with
  | nil =>
    intro h
    exact absurd rfl h
  | cons x xs ih =>
    intro _
    cases xs with
    | nil => simpa using hlast x
    | cons y ys =>
      have hread := ih (by simp)
      rw [List.map_cons, List.map_cons, List.intercalate_cons_cons, ← List.map_cons,
        List.append_assoc, List.append_assoc, List.singleton_append, hmore, hread]
      rfl

theorem names?_intercalate {rest : List Token} (hrest : ∀ r, rest ≠ mark ',' :: r) :
    ∀ ns : List String, ns ≠ [] →
      names? ([mark ','].intercalate (ns.map nameTokens) ++ rest) = some (ns, rest) := by
  refine reads_list ?_ fun n ts => rfl
  intro n
  show names? (name n :: rest) = _
  rw [names?]
  exact hrest

theorem projection?_tokens {p : Projection} (hp : p ≠ .columns []) (rest : List Token) :
    projection? (p.tokens ++ word "FROM" :: rest) = some (p, word "FROM" :: rest) := by
  cases p with
  | all => rfl
  | count => rfl
  | columns ns =>
    have hns : ns ≠ [] := fun h => hp (by rw [h])
    have hcomma : ∀ r, word "FROM" :: rest ≠ mark ',' :: r := by simp
    have hread := names?_intercalate hcomma ns hns
    obtain ⟨n, ns, rfl⟩ := List.exists_cons_of_ne_nil hns
    -- what begins with a name is neither of the other two
    have hfirst : ∃ ts,
        (Projection.columns (n :: ns)).tokens ++ word "FROM" :: rest = name n :: ts := by
      cases ns <;> simp [Projection.tokens, nameTokens]
    obtain ⟨ts, hts⟩ := hfirst
    rw [hts, projection?, ← hts]
    · show (names? _).map _ = _
      rw [Projection.tokens, hread]
      rfl
    · simp
    · simp

theorem target?_tokens (schema : Option String) (table : String) {rest : List Token}
    (hrest : ∀ t r, rest ≠ mark '.' :: name t :: r) :
    target? (targetTokens schema table ++ rest) = some ((schema, table), rest) := by
  cases schema with
  | some s => rfl
  | none =>
    show target? (name table :: rest) = _
    rw [target?]
    exact hrest

theorem conditions?_intercalate {rest : List Token} (hrest : ∀ r, rest ≠ word "AND" :: r) :
    ∀ cs : List Condition, cs ≠ [] →
      conditions? ([word "AND"].intercalate (cs.map Condition.tokens) ++ rest) =
        some (cs, rest) := by
  refine reads_list ?_ fun c ts => rfl
  intro c
  show conditions? (name c.column :: operator c.comparison :: placeholder c.parameter :: rest) = _
  rw [conditions?]
  exact hrest

theorem where?_tokens {rest : List Token} (hwhere : ∀ r, rest ≠ word "WHERE" :: r)
    (hand : ∀ r, rest ≠ word "AND" :: r) (cs : List Condition) :
    where? (whereTokens cs ++ rest) = some (cs, rest) := by
  cases cs with
  | nil =>
    show where? rest = _
    rw [where?]
    exact hwhere
  | cons c cs => exact conditions?_intercalate hand (c :: cs) (by simp)

@[simp] theorem direction?_keyword (d : Direction) : direction? d.keyword = some d := by
  cases d <;> rfl

theorem orderKeys?_intercalate {rest : List Token} (hrest : ∀ r, rest ≠ mark ',' :: r) :
    ∀ keys : List (String × Direction), keys ≠ [] →
      orderKeys? ([mark ','].intercalate (keys.map orderKeyTokens) ++ rest) =
        some (keys, rest) := by
  refine reads_list ?_ ?_
  · intro k
    show orderKeys? (name k.1 :: word k.2.keyword :: rest) = _
    rw [orderKeys?, direction?_keyword]
    · rfl
    · exact hrest
  · intro k ts
    show orderKeys? (name k.1 :: word k.2.keyword :: mark ',' :: ts) = _
    rw [orderKeys?, direction?_keyword]
    cases orderKeys? ts <;> rfl

theorem order?_tokens {rest : List Token} (horder : ∀ r, rest ≠ word "ORDER" :: word "BY" :: r)
    (hcomma : ∀ r, rest ≠ mark ',' :: r) (order : List (String × Direction)) :
    order? (orderTokens order ++ rest) = some (order, rest) := by
  cases order with
  | nil =>
    show order? rest = _
    rw [order?]
    exact horder
  | cons k keys => exact orderKeys?_intercalate hcomma (k :: keys) (by simp)

theorem window?_tokens (w : Option Window) : window? (windowTokens w) = (w, []) := by
  cases w <;> rfl

/-- The tokens from the order on begin with a word, if there are any. -/
theorem tail_begins (order : List (String × Direction)) (w : Option Window) (t : Token)
    (h : t ≠ word "ORDER" ∧ t ≠ word "LIMIT") (r : List Token) :
    orderTokens order ++ windowTokens w ≠ t :: r := by
  cases order with
  | cons k keys => simpa [orderTokens] using fun e => absurd e.symm h.1
  | nil =>
    cases w with
    | none => simp [orderTokens, windowTokens]
    | some w => simpa [orderTokens, windowTokens] using fun e => absurd e.symm h.2

/-- What is written is read back. -/
theorem Select.ofTokens?_tokens {s : Select} (hs : s.projection ≠ .columns []) :
    Select.ofTokens? s.tokens = some s := by
  have hdot : ∀ t r, whereTokens s.conditions ++ (orderTokens s.order ++ windowTokens s.window) ≠
      mark '.' :: name t :: r := by
    intro t r
    cases hc : s.conditions with
    | cons c cs => simp [whereTokens]
    | nil => exact tail_begins s.order s.window _ (by simp) _
  have htarget := target?_tokens s.schema s.table hdot
  have hwhere := where?_tokens (tail_begins s.order s.window _ (by decide))
    (tail_begins s.order s.window _ (by decide)) s.conditions
  have hby : ∀ r, windowTokens s.window ≠ word "ORDER" :: word "BY" :: r := by
    cases s.window <;> simp [windowTokens]
  have hcomma : ∀ r, windowTokens s.window ≠ mark ',' :: r := by
    cases s.window <;> simp [windowTokens]
  have horder := order?_tokens hby hcomma s.order
  unfold Select.tokens
  simp only [Select.ofTokens?, projection?_tokens hs, htarget, hwhere, horder, window?_tokens,
    Option.bind_eq_bind, Option.bind_some, Option.pure_def]

end Sql
end QueryGateway
