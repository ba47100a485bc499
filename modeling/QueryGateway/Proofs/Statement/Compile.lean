import QueryGateway.Proofs.Keyed
import QueryGateway.Proofs.Request.Operands
import QueryGateway.Proofs.Statement.Reading

/-!
# What a compiled request asks for

A request that compiles gives texts that say exactly what the request asks for.  The predicates are
described without the compiler: which there are, by looking columns up in the filter, and in which
order, by comparing them.

## Main definitions

* `Asked` — the predicates that a filter asks for.
* `Compiled.Says` — what statements say for a request whose filter asks for some predicates.

## Main results

* `compile_eq_ok` — when a request compiles, and to what.
* `asked_predicatesOf` — the predicates of a plan are those asked for.
* `exists_says_of_compile` — what compiles says what the request asks for.
-/

namespace QueryGateway

open Json Sql

/-! ### Predicates -/

/-- Predicates stand in the order of their columns, and on one column in that of the comparisons. -/
def Predicate.Before (p q : Predicate) : Prop :=
  p.column < q.column ∨ p.column = q.column ∧ p.comparison.rank < q.comparison.rank

/-- The predicates that a filter asks for: one for each operand other than null on a column that is
an identifier. -/
structure Asked (filter : Keyed Conditions) (predicates : List Predicate) : Prop where
  ordered : predicates.Pairwise Predicate.Before
  mem_iff (p : Predicate) : p ∈ predicates ↔
    isIdentifier p.column = true ∧ p.value ≠ .null ∧
      ∃ conditions, filter.last? p.column = some conditions ∧
        conditions.operand? p.comparison = some p.value

/-- The predicates of a plan are those that the filter asks for. -/
theorem asked_predicatesOf (filter : Keyed Conditions) :
    Asked filter (Plan.predicatesOf filter) := by
  constructor
  · have hsorted : filter.sort.Pairwise fun a b => a.1 < b.1 :=
      List.pairwise_map.mp (Keyed.sorted_sort filter)
    unfold Plan.predicatesOf
    refine List.pairwise_flatMap.mpr ⟨?_, ?_⟩
    · -- on one column by the comparisons
      intro entry _
      have hranks := Conditions.pairwise_operands entry.2
      exact List.pairwise_map.mpr (hranks.imp fun h => Or.inr ⟨rfl, h⟩)
    · -- otherwise by the columns, which are in order
      refine (hsorted.filter _).imp ?_
      intro a b hlt p hp q hq
      refine Or.inl ?_
      obtain ⟨_, _, rfl⟩ := List.mem_map.mp hp
      obtain ⟨_, _, rfl⟩ := List.mem_map.mp hq
      exact hlt
  · intro p
    obtain ⟨column, op, v⟩ := p
    unfold Plan.predicatesOf
    simp only [List.mem_flatMap, List.mem_filter, List.mem_map, Prod.exists, Predicate.mk.injEq]
    constructor
    · rintro ⟨_, conditions, ⟨hmem, hid⟩, _, _, hop, rfl, rfl, rfl⟩
      obtain ⟨hoperand, hnull⟩ := Conditions.mem_operands.mp hop
      exact ⟨hid, hnull, conditions, Keyed.mem_sort.mp hmem, hoperand⟩
    · rintro ⟨hid, hnull, conditions, hlast, hoperand⟩
      exact ⟨column, conditions, ⟨Keyed.mem_sort.mpr hlast, hid⟩, op, v,
        Conditions.mem_operands.mpr ⟨hoperand, hnull⟩, rfl, rfl, rfl⟩

/-! ### Limits -/

/-- The limit is the one requested, or the default, cut down to the ceilings that apply. -/
theorem toInt_effectiveLimit (requested maxRows : Int64) :
    (effectiveLimit requested maxRows).toInt =
      min (if 0 < requested then requested.toInt else 100)
        (if 0 < maxRows then min maxRows.toInt 500 else 500) := by
  have hdefault : defaultLimit.toInt = 100 := by decide
  have hmax : maxLimit.toInt = 500 := by decide
  unfold effectiveLimit
  simp only [Int64.le_iff_toInt_le, Int64.lt_iff_toInt_lt, apply_ite Int64.toInt, hdefault, hmax]
  split <;> split <;> split <;> omega

theorem effectiveLimit_bounds (requested maxRows : Int64) :
    1 ≤ effectiveLimit requested maxRows ∧ effectiveLimit requested maxRows ≤ 500 := by
  have h := toInt_effectiveLimit requested maxRows
  have hzero : (0 : Int64).toInt = 0 := by decide
  have hone : (1 : Int64).toInt = 1 := by decide
  have hmax : (500 : Int64).toInt = 500 := by decide
  rw [Int64.le_iff_toInt_le, Int64.le_iff_toInt_le, h, hone, hmax]
  simp only [Int64.lt_iff_toInt_lt, hzero]
  constructor
  · split <;> split <;> omega
  · split <;> omega

theorem effectiveLimit_le {maxRows : Int64} (requested : Int64) (h : 0 < maxRows) :
    effectiveLimit requested maxRows ≤ maxRows := by
  rw [Int64.le_iff_toInt_le, toInt_effectiveLimit, if_pos h]
  omega

/-- A limit that is allowed is kept. -/
theorem effectiveLimit_eq {requested maxRows : Int64} (hpos : 0 < requested)
    (hmax : requested ≤ 500) (hrows : 0 < maxRows → requested ≤ maxRows) :
    effectiveLimit requested maxRows = requested := by
  have hfivehundred : (500 : Int64).toInt = 500 := by decide
  rw [Int64.le_iff_toInt_le, hfivehundred] at hmax
  refine Int64.toInt.inj ?_
  rw [toInt_effectiveLimit, if_pos hpos]
  split
  · next h =>
    have := Int64.le_iff_toInt_le.mp (hrows h)
    omega
  · omega

/-! ### Compilation -/

/-- The check of a column to return. -/
def checkField (source : Source) (table column : String) : Except QueryError Unit := do
  let _ ← checkColumn .strict column
  checkBlocked source table column

/-- The checks of columns, one list after the other. -/
theorem checkColumns_eq_checks (source : Source) (table : String) (request : Request) :
    checkColumns source table request = (do
      (request.filter.sort.map Prod.fst).forM (checkBlocked source table)
      (request.orderBy.map SortKey.field).forM (checkBlocked source table)
      request.fields.forM (checkField source table)) := by
  have hfilter : (request.filter.sort.map Prod.fst).forM (checkBlocked source table) =
      request.filter.sort.forM fun entry => checkBlocked source table entry.1 := List.forM_map
  have horder : (request.orderBy.map SortKey.field).forM (checkBlocked source table) =
      request.orderBy.forM fun k => checkBlocked source table k.field := List.forM_map
  rw [hfilter, horder]
  rfl

theorem checkTarget_eq_ok {table : String} {schema : Option String} :
    checkTarget table schema = .ok () ↔
      isIdentifier table = true ∧ schema.all isIdentifier = true := by
  unfold checkTarget checkTable checkSchema
  cases isIdentifier table <;> cases schema.all isIdentifier <;> simp [bind, Except.bind]

/-- When a request compiles, and to what. -/
theorem compile_eq_ok {table : String} {request : Request} {source : Source} {c : Compiled} :
    compile table request source = .ok c ↔
      checkTarget table request.schemaName = .ok () ∧ source.isPostgres = true ∧
        checkColumns source table request = .ok () ∧
        c = (Plan.ofRequest table request source.limits.maxRows).compile := by
  unfold compile
  cases checkTarget table request.schemaName with
  | error e => simp [bind, Except.bind]
  | ok u =>
    cases source.isPostgres with
    | false => simp [bind, Except.bind, throw, throwThe, MonadExceptOf.throw]
    | true =>
      cases checkColumns source table request with
      | error e => simp [bind, Except.bind]
      | ok u => simp [bind, Except.bind, pure, Except.pure, eq_comm]

/-- What statements say for a request on a table under a limit on rows, when the filter of the
request asks for some predicates. -/
structure Compiled.Says (c : Compiled) (table : String) (request : Request) (maxRows : Int64)
    (predicates : List Predicate) : Prop where
  /-- The text that returns rows is this one statement. -/
  select : Sql.read? c.selectSql = some
    { projection := .ofNames request.fields
      schema := request.schema.filter (· ≠ "")
      table := table
      conditions := numbered predicates
      order := (request.orderBy.filter fun k => isIdentifier k.field).map fun k =>
        (k.field, if Text.equalsIgnoringCase k.direction "desc" then .descending else .ascending)
      window := some ⟨predicates.length + 1, predicates.length + 2⟩ }
  /-- Its parameters stand in the order of their numbers, each of them once. -/
  placeholders : (tokens? c.selectSql.toList).map placeholders =
    some (List.range' 1 (predicates.length + 2))
  /-- The text that counts rows is there when asked for, and counts under the same conditions. -/
  count : c.countSql.map Sql.read? =
    if request.countTotal then
      some (some
        { projection := .count
          schema := request.schema.filter (· ≠ "")
          table := table
          conditions := numbered predicates
          order := []
          window := none })
    else none
  /-- The parameters are the operands, the limit and the offset. -/
  params : c.params = predicates.map Predicate.value ++ [.ofInt64 c.limit, .ofInt64 c.offset]
  /-- The count has the same operands. -/
  countParams : c.countParams = predicates.map Predicate.value
  limit : c.limit.toInt =
    min (if 0 < request.limit then request.limit.toInt else 100)
      (if 0 < maxRows then min maxRows.toInt 500 else 500)
  limit_bounds : 1 ≤ c.limit ∧ c.limit ≤ 500
  limit_le_maxRows : 0 < maxRows → c.limit ≤ maxRows
  /-- A limit that is allowed is kept. -/
  limit_eq : 0 < request.limit → request.limit ≤ 500 → (0 < maxRows → request.limit ≤ maxRows) →
    c.limit = request.limit
  offset : c.offset.toInt = max 0 request.offset.toInt

theorem says_compile (table : String) (request : Request) (maxRows : Int64) :
    (Plan.ofRequest table request maxRows).compile.Says table request maxRows
      (Plan.predicatesOf request.filter) where
  select := Plan.read?_selectText _
  placeholders := Plan.placeholders_selectText _
  count := by
    show Option.map Sql.read? (if request.countTotal then some _ else none) = _
    cases request.countTotal with
    | false => rfl
    | true => exact congrArg some (Plan.read?_countText _)
  params := rfl
  countParams := by
    show List.take _ (Plan.params _) = _
    simp [Plan.params, Plan.compile, Plan.ofRequest]
  limit := toInt_effectiveLimit request.limit maxRows
  limit_bounds := effectiveLimit_bounds request.limit maxRows
  limit_le_maxRows := effectiveLimit_le request.limit
  limit_eq := effectiveLimit_eq
  offset := by
    show (if request.offset < 0 then (0 : Int64) else request.offset).toInt = _
    have hzero : (0 : Int64).toInt = 0 := by decide
    simp only [Int64.lt_iff_toInt_lt, apply_ite Int64.toInt, hzero]
    split <;> omega

/-- What compiles says what the request asks for. -/
theorem exists_says_of_compile {table : String} {request : Request} {source : Source}
    {c : Compiled} (h : compile table request source = .ok c) :
    ∃ predicates, Asked request.filter predicates ∧
      c.Says table request source.limits.maxRows predicates := by
  obtain ⟨-, -, -, rfl⟩ := compile_eq_ok.mp h
  exact ⟨_, asked_predicatesOf request.filter, says_compile table request _⟩

/-- A request with a column that is dropped, a comparison with null and a limit above the
ceiling. -/
def ordersRequest : Request where
  schema := some "app"
  limit := 1000
  offset := -3
  countTotal := true
  orderBy := [⟨"created_at", "Desc"⟩, ⟨"bad name", ""⟩]
  filter := [("total", { ge := some (.ofInt64 10), le := some .null }),
    ("a b", { eq := some (.bool true) }), ("id", { eq := some (.string "x") })]
  fields := ["id", "total"]

/-- A data source that lowers the ceiling. -/
def ordersSource : Source where
  name := "main"
  kind := "postgres"
  limits := { maxRows := 50 }

theorem exists_says_of_compile_orders :
    ∃ c, compile "orders" ordersRequest ordersSource = .ok c ∧
      ∃ predicates, Asked ordersRequest.filter predicates ∧
        c.Says "orders" ordersRequest 50 predicates := by
  have h : compile "orders" ordersRequest ordersSource =
      .ok (Plan.ofRequest "orders" ordersRequest 50).compile :=
    compile_eq_ok.mpr ⟨rfl, rfl, rfl, rfl⟩
  exact ⟨_, h, exists_says_of_compile h⟩

end QueryGateway
