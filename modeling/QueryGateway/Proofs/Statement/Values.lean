import QueryGateway.Proofs.Statement.Compile

/-!
# Values stay out of the texts

The texts of a request are made of its names and of the comparisons that it makes.  What columns are
compared with, the limit and the offset are parameters: two requests that differ in nothing else
have the same texts, or fail for the same reason.

## Main definitions

* `Conditions.Compares` — a column is compared by a comparison.
* `Request.SameShape` — two requests differ in nothing but values, limit and offset.

## Main results

* `Plan.texts_eq` — the texts of a plan depend on its predicates only through their columns and
  comparisons.
* `compile_texts_eq` — requests of the same shape have the same texts, or the same error.
-/

namespace QueryGateway

open Json

/-! ### Requests that differ in their values -/

namespace Conditions

/-- A column is compared by a comparison with something other than null. -/
def Compares (c : Conditions) (op : Comparison) : Prop := ∃ v, c.operand? op = some v ∧ v ≠ .null

/-- The comparisons of the operands that count, in their order. -/
def compared (c : Conditions) : List Comparison := c.operands.map Prod.fst

theorem mem_compared {c : Conditions} {op : Comparison} : op ∈ c.compared ↔ c.Compares op := by
  unfold compared Compares
  rw [List.mem_map]
  constructor
  · rintro ⟨⟨op, v⟩, hmem, rfl⟩
    exact ⟨v, mem_operands.mp hmem⟩
  · rintro ⟨v, hv⟩
    exact ⟨(op, v), mem_operands.mpr hv, rfl⟩

/-- The order of the comparisons is always the same, so it is enough to know which there are. -/
theorem compared_eq {c d : Conditions} (h : ∀ op, c.Compares op ↔ d.Compares op) :
    c.compared = d.compared := by
  have hranks : ∀ e : Conditions, e.compared.Pairwise fun op op' => op.rank < op'.rank :=
    fun e => List.pairwise_map.mpr e.pairwise_operands
  have hnodup : ∀ e : Conditions, e.compared.Nodup := fun e =>
    (hranks e).imp fun hlt heq => absurd (heq ▸ hlt) (Nat.lt_irrefl _)
  have hperm : c.compared.Perm d.compared := by
    refine (List.perm_ext_iff_of_nodup (hnodup c) (hnodup d)).mpr fun op => ?_
    rw [mem_compared, mem_compared]
    exact h op
  exact hperm.eq_of_pairwise (fun _ _ _ _ hlt hgt => absurd hlt (Nat.lt_asymm hgt)) (hranks c)
    (hranks d)

end Conditions

/-- Two requests differ in nothing but the values that columns are compared with, the limit and the
offset. -/
structure Request.SameShape (a b : Request) : Prop where
  schema : a.schema = b.schema
  countTotal : a.countTotal = b.countTotal
  orderBy : a.orderBy = b.orderBy
  fields : a.fields = b.fields
  /-- The filters have the same columns, and on each of them the same comparisons. -/
  filter : ∀ column, Option.Rel (fun c d => ∀ op, Conditions.Compares c op ↔ d.Compares op)
    (a.filter.last? column) (b.filter.last? column)

/-- Filters with the same columns and comparisons have the same comparisons in order. -/
theorem Request.SameShape.sort_filter {a b : Request} (h : a.SameShape b) :
    a.filter.sort.mapValues Conditions.compared = b.filter.sort.mapValues Conditions.compared := by
  refine Keyed.mapValues_sort_eq fun column => ?_
  have hcolumn := h.filter column
  generalize a.filter.last? column = c at hcolumn ⊢
  generalize b.filter.last? column = d at hcolumn ⊢
  cases hcolumn with
  | none => rfl
  | some hcompares => exact congrArg some (Conditions.compared_eq hcompares)

/-! ### Texts -/

/-- A predicate without its value. -/
def Predicate.shape (p : Predicate) : String × Comparison := (p.column, p.comparison)

namespace Plan

/-- The shapes of the predicates are made of the columns that are identifiers and their
comparisons. -/
theorem map_shape_predicatesOf (filter : Keyed Conditions) :
    (predicatesOf filter).map Predicate.shape =
      ((filter.sort.mapValues Conditions.compared).filter fun (column, _) =>
        isIdentifier column).flatMap fun (column, compared) => compared.map (column, ·) := by
  unfold predicatesOf Keyed.mapValues
  rw [List.map_flatMap, List.filter_map, List.flatMap_map]
  simp only [List.map_map, Conditions.compared]
  rfl

/-- The texts of predicates do not have their values. -/
theorem predicateTexts_eq (predicates : List Predicate) :
    (predicates.zipIdx.map fun (q, i) => predicateText q (i + 1)) =
      (predicates.map Predicate.shape).zipIdx.map fun (s, i) =>
        quoteIdentifier s.1 ++ " " ++ s.2.symbol ++ " " ++ placeholder (i + 1) := by
  rw [List.zipIdx_map, List.map_map]
  rfl

section Texts

variable {p q : Plan} (hshape : p.predicates.map Predicate.shape = q.predicates.map Predicate.shape)
include hshape

theorem whereClause_eq : p.whereClause = q.whereClause := by
  have htexts : (p.predicates.zipIdx.map fun (r, i) => predicateText r (i + 1)) =
      q.predicates.zipIdx.map fun (r, i) => predicateText r (i + 1) := by
    rw [predicateTexts_eq, predicateTexts_eq, hshape]
  have hnil : p.predicates = [] ↔ q.predicates = [] := by
    rw [← List.map_eq_nil_iff (f := Predicate.shape), hshape, List.map_eq_nil_iff]
  unfold whereClause
  split
  · next hp => rw [hnil.mp hp]
  · next hp =>
    split
    · next hq => exact absurd (hnil.mpr hq) hp
    · rw [htexts]

theorem windowClause_eq : p.windowClause = q.windowClause := by
  have hlength := congrArg List.length hshape
  rw [List.length_map, List.length_map] at hlength
  unfold windowClause
  rw [hlength]

/-- The texts of a plan depend on its predicates only through their columns and comparisons. -/
theorem texts_eq (hschema : p.schema = q.schema) (htable : p.table = q.table)
    (hcolumns : p.columns = q.columns) (horder : p.order = q.order) :
    p.target = q.target ∧ p.selectText = q.selectText ∧ p.countText = q.countText := by
  have htarget : p.target = q.target := by
    unfold target
    rw [hschema, htable]
  refine ⟨htarget, ?_, ?_⟩
  · unfold selectText projection orderClause
    rw [htarget, whereClause_eq hshape, windowClause_eq hshape, hcolumns, horder]
  · unfold countText
    rw [htarget, whereClause_eq hshape]

end Texts

end Plan

/-! ### Compilation -/

/-- The checks of columns look at the columns of a filter alone. -/
theorem checkColumns_eq (source : Source) (table : String) {a b : Request} (h : a.SameShape b) :
    checkColumns source table a = checkColumns source table b := by
  have hkeys : a.filter.sort.map Prod.fst = b.filter.sort.map Prod.fst := by
    have hfst := congrArg (List.map Prod.fst) h.sort_filter
    unfold Keyed.mapValues at hfst
    rw [List.map_map, List.map_map] at hfst
    exact hfst
  rw [checkColumns_eq_checks, checkColumns_eq_checks, hkeys, h.orderBy, h.fields]

/-- Requests of the same shape have the same texts, or fail for the same reason: values, limit and
offset get no further than the parameters. -/
theorem compile_texts_eq (table : String) (source : Source) {a b : Request} (h : a.SameShape b) :
    (∃ e, compile table a source = .error e ∧ compile table b source = .error e) ∨
      ∃ c d, compile table a source = .ok c ∧ compile table b source = .ok d ∧
        c.target = d.target ∧ c.selectSql = d.selectSql ∧ c.countSql = d.countSql := by
  have hschema : a.schemaName = b.schemaName := congrArg (Option.filter _) h.schema
  have hcolumns := checkColumns_eq source table h
  unfold compile
  rw [hschema, hcolumns]
  cases checkTarget table b.schemaName with
  | error e => exact Or.inl ⟨e, rfl, rfl⟩
  | ok _ =>
    cases source.isPostgres with
    | false => exact Or.inl ⟨.unsupportedType source.kind, rfl, rfl⟩
    | true =>
      cases checkColumns source table b with
      | error e => exact Or.inl ⟨e, rfl, rfl⟩
      | ok _ =>
        refine Or.inr ⟨_, _, rfl, rfl, ?_⟩
        have hshape : (Plan.predicatesOf a.filter).map Predicate.shape =
            (Plan.predicatesOf b.filter).map Predicate.shape := by
          rw [Plan.map_shape_predicatesOf, Plan.map_shape_predicatesOf, h.sort_filter]
        obtain ⟨htarget, hselect, hcount⟩ := Plan.texts_eq
          (p := Plan.ofRequest table a source.limits.maxRows)
          (q := Plan.ofRequest table b source.limits.maxRows) hshape hschema rfl h.fields
          (congrArg Plan.orderOf h.orderBy)
        refine ⟨htarget, hselect, ?_⟩
        show (if a.countTotal then _ else none) = (if b.countTotal then _ else none)
        rw [h.countTotal, hcount]

/-- A request for the orders of a customer, from some total on. -/
def customerRequest (customer : Value) (limit offset : Int64) : Request where
  limit := limit
  offset := offset
  filter := [("total", { ge := some (.ofInt64 10), le := some .null }),
    ("customer", { eq := some customer })]

theorem sameShape_customerRequest {v w : Value} (hv : v ≠ .null) (hw : w ≠ .null)
    (limit offset limit' offset' : Int64) :
    (customerRequest v limit offset).SameShape (customerRequest w limit' offset') where
  schema := rfl
  countTotal := rfl
  orderBy := rfl
  fields := rfl
  filter := by
    intro column
    show Option.Rel _ (Keyed.find? column [("customer", _), ("total", _)])
      (Keyed.find? column [("customer", _), ("total", _)])
    simp only [Keyed.find?_cons, Keyed.find?_nil]
    split
    · refine .some fun op => ?_
      cases op <;> simp [Conditions.Compares, Conditions.operand?, hv, hw]
    · split
      · exact .some fun _ => Iff.rfl
      · exact .none

/-- The name of a customer that tries to end its text, and one that is a list: both requests are
compiled, and to one text. -/
theorem compile_texts_eq_customer :
    (customerRequest (.string "x' OR 1 = 1; --") 1000 (-5)).SameShape
      (customerRequest (.array [.bool true]) 7 12) ∧
    ∃ c d, compile "orders" (customerRequest (.string "x' OR 1 = 1; --") 1000 (-5)) ordersSource =
        .ok c ∧
      compile "orders" (customerRequest (.array [.bool true]) 7 12) ordersSource = .ok d ∧
      c.selectSql = "SELECT * FROM \"orders\" WHERE \"customer\" = $1 AND \"total\" >= $2" ++
        " LIMIT $3 OFFSET $4" ∧
      d.selectSql = c.selectSql ∧ d.countSql = none := by
  have h := sameShape_customerRequest (v := .string "x' OR 1 = 1; --") (w := .array [.bool true])
    nofun nofun 1000 (-5) 7 12
  have hfirst : compile "orders" (customerRequest (.string "x' OR 1 = 1; --") 1000 (-5))
      ordersSource = .ok (Plan.ofRequest "orders" _ 50).compile :=
    compile_eq_ok.mpr ⟨rfl, rfl, rfl, rfl⟩
  rcases compile_texts_eq "orders" ordersSource h with ⟨e, herror, -⟩ | ⟨c, d, hc, hd, -, hselect,
    hcount⟩
  · cases herror.symm.trans hfirst
  · obtain rfl := Except.ok.inj (hc.symm.trans hfirst)
    exact ⟨h, _, d, hc, hd, rfl, hselect.symm, hcount.symm⟩

end QueryGateway
