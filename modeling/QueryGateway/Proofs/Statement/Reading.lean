import QueryGateway.Statement
import QueryGateway.Proofs.Sql.Grammar

/-!
# Reading the texts of a plan

The two texts of a plan, taken apart again: each is one statement, and it says what the plan says.
Every text is built from pieces that read as tokens in front of a space or a mark, and the pieces
are only ever joined by spaces and marks.

## Main definitions

* `Sql.numbered` — predicates with the numbers of their parameters.
* `Plan.selectStatement`, `Plan.countStatement` — what the texts should say.
* `Sql.placeholders` — the numbers of the parameters in a text, in the order in which they stand.

## Main results

* `Plan.read?_selectText`, `Plan.read?_countText` — the texts say it.
* `Plan.placeholders_selectText` — the parameters stand in the order of their numbers.
-/

namespace QueryGateway

open Sql

/-- The numbers of the parameters among some tokens, in the order in which they stand. -/
def Sql.placeholders (ts : List Sql.Token) : List Nat :=
  ts.filterMap fun t =>
    match t with
    | .placeholder n => some n
    | _ => none

/-- Predicates with the numbers of their parameters, which count from one. -/
def Sql.numbered (predicates : List Predicate) : List Condition :=
  predicates.zipIdx.map fun (q, i) => ⟨q.column, q.comparison, i + 1⟩

/-- The projection on columns; none stand for all. -/
def Sql.Projection.ofNames (names : List String) : Projection :=
  if names = [] then .all else .columns names

namespace Plan

/-! ### What the texts should say -/

/-- The predicates with the numbers of their parameters. -/
def conditions (p : Plan) : List Condition := numbered p.predicates

/-- What is selected. -/
def selected (p : Plan) : Projection := .ofNames p.columns

/-- The parameters of the window follow those of the predicates. -/
def window (p : Plan) : Window := ⟨p.predicates.length + 1, p.predicates.length + 2⟩

/-- The statement that returns rows. -/
def selectStatement (p : Plan) : Select where
  projection := p.selected
  schema := p.schema
  table := p.table
  conditions := p.conditions
  order := p.order
  window := some p.window

/-- The statement that counts rows. -/
def countStatement (p : Plan) : Select where
  projection := .count
  schema := p.schema
  table := p.table
  conditions := p.conditions
  order := []
  window := none

/-! ### The pieces -/

theorem toList_placeholder (n : Nat) : (placeholder n).toList = '$' :: Nat.toDigits 10 n := by
  show ("$" ++ n.repr).toList = _
  rw [String.toList_append, Nat.toList_repr]
  rfl

theorem reads_placeholder_text (n : Nat) : Reads (placeholder n).toList [.placeholder n] := by
  rw [toList_placeholder]
  exact reads_placeholder n

theorem reads_predicateText (q : Predicate) (n : Nat) :
    Reads (predicateText q n).toList (Condition.tokens ⟨q.column, q.comparison, n⟩) := by
  have h := (reads_name q.column).append_space
    ((reads_operator q.comparison).append_space (reads_placeholder_text n))
  have htext : (predicateText q n).toList = (quoteIdentifier q.column).toList ++
      ' ' :: (q.comparison.symbol.toList ++ ' ' :: (placeholder n).toList) := by
    simp [predicateText]
  rw [htext]
  exact h

theorem reads_target (p : Plan) : Reads p.target.toList (targetTokens p.schema p.table) := by
  unfold target targetTokens
  cases p.schema with
  | none => exact reads_name p.table
  | some s =>
    have h := (reads_name s).append_mark (m := '.') (by decide) (reads_name p.table)
    have htext : (quoteIdentifier s ++ "." ++ quoteIdentifier p.table).toList =
        (quoteIdentifier s).toList ++ '.' :: (quoteIdentifier p.table).toList := by
      simp
    rw [htext]
    exact h

theorem reads_projection (p : Plan) : Reads p.projection.toList p.selected.tokens := by
  unfold projection selected Projection.ofNames
  split
  · exact reads_nil.append_mark (m := '*') (by decide) reads_nil
  · rw [String.toList_intercalate, List.map_map]
    exact reads_intercalate Reads.append_comma _ _ _ fun n _ => reads_name n

/-! ### The clauses -/

/-- A clause that may be left out, with its tokens. -/
def ReadsClause (clause : List String) (ts : List Sql.Token) : Prop :=
  clause = [] ∧ ts = [] ∨ ∃ text, clause = [text] ∧ Reads text.toList ts

theorem reads_and {a b : List Char} {ts us : List Sql.Token} (ha : Reads a ts) (hb : Reads b us) :
    Reads (a ++ (" AND ".toList ++ b)) (ts ++ ([.word "AND"] ++ us)) :=
  ha.append_space ((reads_keyword "AND" (by decide)).append_space hb)

theorem map_tokens_conditions (p : Plan) : p.conditions.map Condition.tokens =
    p.predicates.zipIdx.map fun (q, i) => Condition.tokens ⟨q.column, q.comparison, i + 1⟩ := by
  unfold conditions numbered
  rw [List.map_map]
  rfl

theorem reads_whereClause (p : Plan) : ReadsClause p.whereClause (whereTokens p.conditions) := by
  unfold whereClause
  split
  · next h => exact Or.inl ⟨rfl, by simp [conditions, numbered, h, whereTokens]⟩
  · next h =>
    refine Or.inr ⟨_, rfl, ?_⟩
    have hlist : Reads (" AND ".intercalate
        (p.predicates.zipIdx.map fun (q, i) => predicateText q (i + 1))).toList
        ([.word "AND"].intercalate (p.conditions.map Condition.tokens)) := by
      rw [String.toList_intercalate, List.map_map, map_tokens_conditions]
      exact reads_intercalate reads_and _ _ _ fun q _ => reads_predicateText q.1 (q.2 + 1)
    have hne : p.conditions ≠ [] := by simpa [conditions, numbered] using h
    have hclause := (reads_keyword "WHERE" (by decide)).append_space hlist
    rw [String.toList_append, whereTokens_of_ne_nil hne]
    exact hclause

theorem reads_keyword_direction (d : Direction) : Reads d.keyword.toList [.word d.keyword] := by
  cases d <;> exact reads_keyword _ (by decide)

theorem reads_orderClause (p : Plan) : ReadsClause p.orderClause (orderTokens p.order) := by
  unfold orderClause
  split
  · next h => exact Or.inl ⟨rfl, by simp [h, orderTokens]⟩
  · next h =>
    refine Or.inr ⟨_, rfl, ?_⟩
    have hlist : Reads (", ".intercalate
        (p.order.map fun k => quoteIdentifier k.1 ++ " " ++ k.2.keyword)).toList
        ([.mark ','].intercalate (p.order.map orderKeyTokens)) := by
      rw [String.toList_intercalate, List.map_map]
      refine reads_intercalate Reads.append_comma _ _ _ ?_
      intro k _
      have hkey := (reads_name k.1).append_space (reads_keyword_direction k.2)
      simpa [orderKeyTokens] using hkey
    have hclause := (reads_keyword "ORDER" (by decide)).append_space
      ((reads_keyword "BY" (by decide)).append_space hlist)
    rw [String.toList_append, orderTokens_of_ne_nil h]
    exact hclause

theorem reads_windowClause (p : Plan) :
    Reads p.windowClause.toList (windowTokens (some p.window)) := by
  have h := (reads_keyword "LIMIT" (by decide)).append_space
    ((reads_placeholder_text (p.predicates.length + 1)).append_space
      ((reads_keyword "OFFSET" (by decide)).append_space
        (reads_placeholder_text (p.predicates.length + 2))))
  have htext : p.windowClause.toList = "LIMIT".toList ++ ' ' ::
      ((placeholder (p.predicates.length + 1)).toList ++ ' ' :: ("OFFSET".toList ++ ' ' ::
        (placeholder (p.predicates.length + 2)).toList)) := by
    simp [windowClause]
  rw [htext]
  exact h

/-! ### The texts -/

theorem intercalate_append_singleton {α : Type} (sep last : List α) : ∀ xss : List (List α),
    xss ≠ [] → sep.intercalate (xss ++ [last]) = sep.intercalate xss ++ (sep ++ last) := by
  intro xss
  induction xss with
  | nil =>
    intro h
    exact absurd rfl h
  | cons xs xss ih =>
    intro _
    cases xss with
    | nil => simp
    | cons ys xss =>
      rw [List.cons_append, List.cons_append, List.intercalate_cons_cons, ← List.cons_append,
        ih (by simp), List.intercalate_cons_cons]
      simp

/-- A text with a clause after it, which may be left out. -/
theorem reads_append_clause {texts clause : List String} {ts us : List Sql.Token}
    (hne : texts ≠ [])
    (h : Reads (" ".intercalate texts).toList ts) (hclause : ReadsClause clause us) :
    Reads (" ".intercalate (texts ++ clause)).toList (ts ++ us) := by
  rcases hclause with ⟨rfl, rfl⟩ | ⟨text, rfl, htext⟩
  · simpa using h
  · rw [String.toList_intercalate] at h
    rw [String.toList_intercalate, List.map_append, List.map_singleton,
      intercalate_append_singleton _ _ _ (by simpa using hne)]
    exact h.append_space htext

theorem reads_selectText (p : Plan) : Reads p.selectText.toList p.selectStatement.tokens := by
  have hselect : Reads (" ".intercalate ["SELECT " ++ p.projection ++ " FROM " ++ p.target]).toList
      (.word "SELECT" :: (p.selected.tokens ++ .word "FROM" :: targetTokens p.schema p.table)) := by
    have h := (reads_keyword "SELECT" (by decide)).append_space
      ((reads_projection p).append_space
        ((reads_keyword "FROM" (by decide)).append_space (reads_target p)))
    simpa using h
  -- the clauses follow in the order of the text, and those that are left out leave no token
  have h := reads_append_clause (by simp)
    (reads_append_clause (by simp)
      (reads_append_clause (by simp) hselect (reads_whereClause p))
      (reads_orderClause p))
    (Or.inr ⟨_, rfl, reads_windowClause p⟩)
  have htokens : p.selectStatement.tokens =
      ((.word "SELECT" :: (p.selected.tokens ++ .word "FROM" :: targetTokens p.schema p.table)) ++
        whereTokens p.conditions ++ orderTokens p.order) ++ windowTokens (some p.window) := by
    simp [Select.tokens, selectStatement]
  rw [htokens]
  exact h

theorem reads_countText (p : Plan) : Reads p.countText.toList p.countStatement.tokens := by
  have hcount : Reads "COUNT(1)".toList [.word "COUNT", .mark '(', .number 1, .mark ')'] :=
    (reads_keyword "COUNT" (by decide)).append_mark (m := '(') (by decide)
      ((reads_number 1).append_mark (m := ')') (by decide) reads_nil)
  have hselect : Reads (" ".intercalate ["SELECT COUNT(1) AS total FROM " ++ p.target]).toList
      (.word "SELECT" :: (Projection.count.tokens ++ .word "FROM" ::
        targetTokens p.schema p.table)) := by
    have h := (reads_keyword "SELECT" (by decide)).append_space
      (hcount.append_space ((reads_keyword "AS" (by decide)).append_space
        ((reads_keyword "total" (by decide)).append_space
          ((reads_keyword "FROM" (by decide)).append_space (reads_target p)))))
    simpa [Projection.tokens] using h
  have h := reads_append_clause (by simp) hselect (reads_whereClause p)
  have htokens : p.countStatement.tokens =
      (.word "SELECT" :: (Projection.count.tokens ++ .word "FROM" ::
        targetTokens p.schema p.table)) ++ whereTokens p.conditions := by
    simp [Select.tokens, countStatement, orderTokens, windowTokens]
  rw [htokens]
  exact h

theorem selected_ne_columns_nil (p : Plan) : p.selected ≠ .columns [] := by
  unfold selected Projection.ofNames
  split
  · simp
  · next h => simpa using h

/-- The text that returns rows is one statement and says what the plan says. -/
theorem read?_selectText (p : Plan) : Sql.read? p.selectText = some p.selectStatement := by
  unfold Sql.read?
  rw [(reads_selectText p).tokens?_eq, Option.bind_some,
    Select.ofTokens?_tokens (selected_ne_columns_nil p)]

/-- The text that counts rows is one statement and says what the plan says. -/
theorem read?_countText (p : Plan) : Sql.read? p.countText = some p.countStatement := by
  unfold Sql.read?
  rw [(reads_countText p).tokens?_eq, Option.bind_some,
    Select.ofTokens?_tokens (by simp [countStatement])]

/-! ### The parameters in the texts -/

theorem placeholders_append (ts us : List Sql.Token) :
    placeholders (ts ++ us) = placeholders ts ++ placeholders us := List.filterMap_append

theorem placeholders_intercalate {sep : Sql.Token} (hsep : placeholders [sep] = []) :
    ∀ tss : List (List Sql.Token),
      placeholders ([sep].intercalate tss) = tss.flatMap placeholders := by
  intro tss
  induction tss with
  | nil => rfl
  | cons ts tss ih =>
    cases tss with
    | nil => simp
    | cons us tss =>
      rw [List.intercalate_cons_cons, placeholders_append, placeholders_append, hsep, ih]
      simp

/-- Only the conditions and the window have parameters. -/
theorem placeholders_tokens (s : Select) : placeholders s.tokens =
    s.conditions.map Condition.parameter ++
      s.window.toList.flatMap fun w => [w.limit, w.offset] := by
  have hprojection : placeholders s.projection.tokens = [] := by
    cases s.projection with
    | all => rfl
    | count => rfl
    | columns names =>
      rw [Projection.tokens, placeholders_intercalate rfl, List.flatMap_map]
      exact List.flatMap_eq_nil_iff.mpr fun n _ => rfl
  have htarget : placeholders (targetTokens s.schema s.table) = [] := by
    cases s.schema <;> rfl
  have hwhere : placeholders (whereTokens s.conditions) =
      s.conditions.map Condition.parameter := by
    cases s.conditions with
    | nil => rfl
    | cons c cs =>
      rw [whereTokens_of_ne_nil (by simp), placeholders_append, placeholders_intercalate rfl,
        List.flatMap_map, List.map_eq_flatMap]
      rfl
  have horder : placeholders (orderTokens s.order) = [] := by
    cases s.order with
    | nil => rfl
    | cons k ks =>
      rw [orderTokens_of_ne_nil (by simp), placeholders_append, placeholders_append,
        placeholders_intercalate rfl, List.flatMap_map]
      exact List.flatMap_eq_nil_iff.mpr fun k _ => rfl
  have hwindow : placeholders (windowTokens s.window) =
      s.window.toList.flatMap fun w => [w.limit, w.offset] := by
    cases s.window <;> rfl
  -- apart from the two clauses, each part of the statement is free of parameters
  show placeholders ([.word "SELECT"] ++ (s.projection.tokens ++ ([.word "FROM"] ++
    (targetTokens s.schema s.table ++ (whereTokens s.conditions ++ (orderTokens s.order ++
      windowTokens s.window)))))) = _
  simp only [placeholders_append, hprojection, htarget, hwhere, horder, hwindow]
  rfl

theorem parameters_conditions (p : Plan) :
    p.conditions.map Condition.parameter = List.range' 1 p.predicates.length := by
  have h : p.conditions.map Condition.parameter = p.predicates.zipIdx.map fun q => 1 + q.2 := by
    simp [conditions, numbered, Function.comp_def, Nat.add_comm]
  have hnumbers := congrArg (List.map (1 + ·)) (List.zipIdx_map_snd 0 p.predicates)
  rw [List.map_map, List.map_add_range'] at hnumbers
  exact h.trans hnumbers

/-- The parameters stand in the order of their numbers, each of them once. -/
theorem placeholders_selectText (p : Plan) :
    (tokens? p.selectText.toList).map placeholders =
      some (List.range' 1 (p.predicates.length + 2)) := by
  rw [(reads_selectText p).tokens?_eq, Option.map_some, placeholders_tokens]
  show some (p.conditions.map Condition.parameter ++
    [p.predicates.length + 1, p.predicates.length + 2]) = _
  rw [parameters_conditions, ← List.range'_append_1, Nat.add_comm 1]
  rfl

end Plan
end QueryGateway
