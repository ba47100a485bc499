import Mathlib.Logic.Basic
import QueryGateway.Proofs.Statement.Compile
import QueryGateway.Proofs.Text.Utf8

/-!
# Which requests are refused, and for what

A request may have many faults, and it is refused for the first of them.  The order of the checks is
fixed by what is checked and not by how a request is written down: the filter of a request has no
order of its own, so among its blocked columns the least one counts, while the columns to order by
and those to return are gone through as they stand.

## Main definitions

* `IsName` — the names that tables, schemas and columns may have.
* `Source.Blocks` — a column is on the blocklist, in whatever case.
* `Refused` — the first fault of a request.
* `Sql.Select.named` — the columns that a statement names.

## Main results

* `compile_eq_error_iff` — a request does not compile just when it has a fault, and the error is the
  first one.
* `not_blocks_of_mem_named` — statements name no blocked column.
-/

namespace QueryGateway

/-! ### The first of several faults -/

section First

variable {α ε : Type} {p : α → Prop} {x y : α} {xs : List α}

/-- The first element of a list that has a property. -/
def IsFirst (p : α → Prop) (xs : List α) (x : α) : Prop :=
  ∃ before after, xs = before ++ x :: after ∧ (∀ y ∈ before, ¬p y) ∧ p x

theorem not_isFirst_nil : ¬IsFirst p [] x := by
  rintro ⟨before, after, h, -⟩
  exact absurd h (by simp)

theorem isFirst_cons : IsFirst p (y :: xs) x ↔ p y ∧ x = y ∨ ¬p y ∧ IsFirst p xs x := by
  constructor
  · rintro ⟨before, after, h, hbefore, hx⟩
    cases before with
    | nil =>
      obtain ⟨rfl, rfl⟩ := List.cons.inj h
      exact Or.inl ⟨hx, rfl⟩
    | cons z before =>
      obtain ⟨rfl, rfl⟩ := List.cons.inj h
      obtain ⟨hz, hbefore⟩ := List.forall_mem_cons.mp hbefore
      exact Or.inr ⟨hz, before, after, rfl, hbefore, hx⟩
  · rintro (⟨hy, rfl⟩ | ⟨hy, before, after, rfl, hbefore, hx⟩)
    · exact ⟨[], xs, rfl, nofun, hy⟩
    · exact ⟨y :: before, after, rfl, List.forall_mem_cons.mpr ⟨hy, hbefore⟩, hx⟩

theorem IsFirst.holds (h : IsFirst p xs x) : p x := by
  obtain ⟨before, after, -, -, hx⟩ := h
  exact hx

/-- Checks made in turn end with the first one that fails. -/
theorem forM_eq_error_iff {check : α → Except ε Unit} (hcheck : ∀ x, check x = .ok () ↔ ¬p x)
    {e : ε} : xs.forM check = .error e ↔ ∃ x, IsFirst p xs x ∧ check x = .error e := by
  induction xs with
  | nil =>
    constructor
    · intro h
      exact absurd h nofun
    · rintro ⟨x, h, -⟩
      exact absurd h not_isFirst_nil
  | cons y xs ih =>
    have hforM : (y :: xs).forM check = (check y >>= fun _ => xs.forM check) := rfl
    simp only [hforM, isFirst_cons]
    cases hy : check y with
    | ok u =>
      -- the first fault is further on
      have hgood : ¬p y := (hcheck y).mp hy
      simpa [bind, Except.bind, hgood] using ih
    | error e' =>
      have hbad : p y := by
        refine Classical.not_not.mp ?_
        intro hgood
        rw [(hcheck y).mpr hgood] at hy
        cases hy
      simp [bind, Except.bind, hbad, hy]

/-- Checks made in turn all succeed, or one fails. -/
theorem forM_eq_ok_iff {check : α → Except ε Unit} (hcheck : ∀ x, check x = .ok () ↔ ¬p x) :
    xs.forM check = .ok () ↔ ∀ x ∈ xs, ¬p x := by
  induction xs with
  | nil => simp [pure, Except.pure]
  | cons y xs ih =>
    have hforM : (y :: xs).forM check = (check y >>= fun _ => xs.forM check) := rfl
    rw [hforM, List.forall_mem_cons, ← ih, ← hcheck y]
    cases check y with
    | ok u => simp [bind, Except.bind]
    | error e => simp [bind, Except.bind]

/-- A check and what follows it fail if the check does, or what follows after it. -/
theorem bind_eq_error_iff {first : Except ε Unit} {second : Except ε α} {e : ε} :
    (first >>= fun _ => second) = .error e ↔
      first = .error e ∨ first = .ok () ∧ second = .error e := by
  cases first with
  | ok a => simp [bind, Except.bind]
  | error e' => simp [bind, Except.bind]

/-- Two computations in turn succeed if both do. -/
theorem bind_eq_ok_iff {first second : Except ε Unit} :
    (first >>= fun _ => second) = .ok () ↔ first = .ok () ∧ second = .ok () := by
  cases first with
  | ok a => simp [bind, Except.bind]
  | error e' => simp [bind, Except.bind]

end First

/-- In a list whose keys ascend, the first key with a property is the least one that has it. -/
theorem isFirst_keys_iff {α : Type} {p : String → Prop} {entries : Keyed α}
    (hsorted : Keyed.Sorted entries) {key : String} :
    IsFirst p (entries.map Prod.fst) key ↔ key ∈ entries.map Prod.fst ∧ p key ∧
      ∀ other ∈ entries.map Prod.fst, p other → key ≤ other := by
  unfold Keyed.Sorted at hsorted
  generalize entries.map Prod.fst = keys at hsorted ⊢
  constructor
  · rintro ⟨before, after, rfl, hbefore, hkey⟩
    obtain ⟨-, hafter, -⟩ := List.pairwise_append.mp hsorted
    refine ⟨List.mem_append_right before List.mem_cons_self, hkey, ?_⟩
    intro other hother hp
    rcases List.mem_append.mp hother with hother | hother
    · exact absurd hp (hbefore other hother)
    rcases List.mem_cons.mp hother with rfl | hother
    · exact String.le_refl _
    · exact String.lt_asymm ((List.pairwise_cons.mp hafter).1 other hother)
  · rintro ⟨hmem, hkey, hleast⟩
    obtain ⟨before, after, rfl⟩ := List.append_of_mem hmem
    obtain ⟨-, -, hbefore⟩ := List.pairwise_append.mp hsorted
    refine ⟨before, after, rfl, ?_, hkey⟩
    intro other hother hp
    have hlt : other < key := hbefore other hother key List.mem_cons_self
    exact absurd hlt (hleast other (List.mem_append_left _ hother) hp)

/-! ### Names and blocked columns -/

/-- The names that tables, schemas and columns may have: letters, digits and underscores of ASCII,
at least one. -/
def IsName (name : String) : Prop :=
  name ≠ "" ∧ ∀ c ∈ name.toList,
    'A' ≤ c ∧ c ≤ 'Z' ∨ 'a' ≤ c ∧ c ≤ 'z' ∨ '0' ≤ c ∧ c ≤ '9' ∨ c = '_'

theorem isIdentifierChar_iff (c : Char) : isIdentifierChar c = true ↔
    'A' ≤ c ∧ c ≤ 'Z' ∨ 'a' ≤ c ∧ c ≤ 'z' ∨ '0' ≤ c ∧ c ≤ '9' ∨ c = '_' := by
  unfold isIdentifierChar Char.isAlphanum Char.isAlpha Char.isUpper Char.isLower Char.isDigit
  simp only [Bool.or_eq_true, decide_eq_true_eq, Bool.and_eq_true, beq_iff_eq, or_assoc]
  rfl

theorem isIdentifier_iff (name : String) : isIdentifier name = true ↔ IsName name := by
  unfold isIdentifier IsName
  simp only [Bool.and_eq_true, bne_iff_ne, List.all_eq_true, isIdentifierChar_iff, ne_eq,
    String.toList_eq_nil_iff]

/-- The qualified name of a column is an entry of the blocklist, in whatever case. -/
def Source.Blocks (source : Source) (table column : String) : Prop :=
  ∃ entry ∈ source.blocklist, Text.lower entry = Text.lower (table ++ "." ++ column)

theorem Source.isBlocked_iff {source : Source} {table column : String} :
    source.isBlocked table column = true ↔ source.Blocks table column := by
  unfold Source.isBlocked Source.Blocks
  simp only [List.any_eq_true, beq_iff_eq]

/-! ### The faults of a request -/

/-- The table, the schema and the kind of the data source are admitted. -/
structure Admitted (source : Source) (table : String) (request : Request) : Prop where
  table : IsName table
  schema : ∀ schema, request.schema = some schema → schema ≠ "" → IsName schema
  kind : source.kind = "postgres"

/-- A column to return is no name, or it is blocked. -/
def BadField (source : Source) (table column : String) : Prop :=
  ¬IsName column ∨ source.Blocks table column

/-- The first fault of a request on a table of a data source. -/
inductive Refused (source : Source) (table : String) (request : Request) : QueryError → Prop
  /-- The table is no name. -/
  | table (h : ¬IsName table) : Refused source table request .invalidTable
  /-- The schema is given and is no name. -/
  | schema (htable : IsName table) {schema : String} (hschema : request.schema = some schema)
      (hne : schema ≠ "") (h : ¬IsName schema) : Refused source table request .invalidSchema
  /-- The data source is of another kind. -/
  | kind (htable : IsName table)
      (hschema : ∀ schema, request.schema = some schema → schema ≠ "" → IsName schema)
      (h : source.kind ≠ "postgres") :
      Refused source table request (.unsupportedType source.kind)
  /-- A column of the filter is blocked; it is the least of those, byte by byte, whether or not it
  is a name. -/
  | filter (h : Admitted source table request) {key : String}
      (hkey : key ∈ request.filter.map Prod.fst) (hblocks : source.Blocks table key)
      (hleast : ∀ other ∈ request.filter.map Prod.fst, source.Blocks table other →
        Utf8.encode key ≤ Utf8.encode other) :
      Refused source table request (.columnBlocked key)
  /-- No column of the filter is blocked, but one to order by is. -/
  | order (h : Admitted source table request)
      (hfilter : ∀ key ∈ request.filter.map Prod.fst, ¬source.Blocks table key) {column : String}
      (hfirst : IsFirst (source.Blocks table) (request.orderBy.map SortKey.field) column) :
      Refused source table request (.columnBlocked column)
  /-- The first bad column to return is no name. -/
  | invalidField (h : Admitted source table request)
      (hfilter : ∀ key ∈ request.filter.map Prod.fst, ¬source.Blocks table key)
      (horder : ∀ column ∈ request.orderBy.map SortKey.field, ¬source.Blocks table column)
      {column : String} (hfirst : IsFirst (BadField source table) request.fields column)
      (hname : ¬IsName column) : Refused source table request (.invalidColumn column)
  /-- The first bad column to return is a name, and blocked. -/
  | blockedField (h : Admitted source table request)
      (hfilter : ∀ key ∈ request.filter.map Prod.fst, ¬source.Blocks table key)
      (horder : ∀ column ∈ request.orderBy.map SortKey.field, ¬source.Blocks table column)
      {column : String} (hfirst : IsFirst (BadField source table) request.fields column)
      (hname : IsName column) : Refused source table request (.columnBlocked column)

/-! ### The checks -/

section Guards

variable {ε : Type} {p : Prop} [Decidable p] {e e' : ε}

/-- A check that admits what has a property. -/
theorem require_eq_error_iff :
    (if p then Except.ok () else Except.error e') = .error e ↔ ¬p ∧ e = e' := by
  split
  · next h => simp [h]
  · next h => simp [h, eq_comm]

theorem require_eq_ok_iff :
    (if p then Except.ok () else Except.error e') = .ok () ↔ p := by
  split
  · next h => simp [h]
  · next h => simp [h]

end Guards

section Checks

variable {source : Source} {table column : String} {request : Request} {e : QueryError}

theorem checkTable_eq_error_iff :
    checkTable table = .error e ↔ ¬IsName table ∧ e = .invalidTable := by
  unfold checkTable
  rw [require_eq_error_iff, isIdentifier_iff]

theorem checkTable_eq_ok_iff : checkTable table = .ok () ↔ IsName table := by
  unfold checkTable
  rw [require_eq_ok_iff, isIdentifier_iff]

theorem all_schemaName_iff : request.schemaName.all isIdentifier = true ↔
    ∀ schema, request.schema = some schema → schema ≠ "" → IsName schema := by
  unfold Request.schemaName
  cases request.schema with
  | none => simp
  | some schema =>
    by_cases h : schema = ""
    · subst h
      simp
    · simp [Option.filter, h, isIdentifier_iff]

theorem checkSchema_eq_error_iff : checkSchema request.schemaName = .error e ↔
    (∃ schema, request.schema = some schema ∧ schema ≠ "" ∧ ¬IsName schema) ∧
      e = .invalidSchema := by
  unfold checkSchema
  rw [require_eq_error_iff, all_schemaName_iff]
  simp only [not_forall, exists_prop]

theorem checkSchema_eq_ok_iff : checkSchema request.schemaName = .ok () ↔
    ∀ schema, request.schema = some schema → schema ≠ "" → IsName schema := by
  unfold checkSchema
  rw [require_eq_ok_iff, all_schemaName_iff]

theorem checkBlocked_eq (source : Source) (table column : String) :
    checkBlocked source table column =
      if ¬source.isBlocked table column = true then .ok () else .error (.columnBlocked column) := by
  unfold checkBlocked
  split <;> simp_all

theorem checkBlocked_eq_error_iff : checkBlocked source table column = .error e ↔
    source.Blocks table column ∧ e = .columnBlocked column := by
  rw [checkBlocked_eq, require_eq_error_iff, Source.isBlocked_iff, Classical.not_not]

theorem checkBlocked_eq_ok_iff :
    checkBlocked source table column = .ok () ↔ ¬source.Blocks table column := by
  rw [checkBlocked_eq, require_eq_ok_iff, Source.isBlocked_iff]

theorem checkField_eq_error_iff : checkField source table column = .error e ↔
    ¬IsName column ∧ e = .invalidColumn column ∨
      IsName column ∧ source.Blocks table column ∧ e = .columnBlocked column := by
  unfold checkField checkColumn
  rw [← isIdentifier_iff, ← checkBlocked_eq_error_iff]
  split
  · next h => simp [bind, Except.bind, h]
  · next h => simp [bind, Except.bind, h, eq_comm]

theorem checkField_eq_ok_iff :
    checkField source table column = .ok () ↔ ¬BadField source table column := by
  unfold BadField checkField checkColumn
  rw [not_or, Classical.not_not, ← isIdentifier_iff, ← checkBlocked_eq_ok_iff]
  split
  · next h => simp [bind, Except.bind, h]
  · next h => simp [bind, Except.bind, h]

/-- The first blocked column of a filter in ascending order is the least of those, byte by byte. -/
theorem isFirst_filter_iff {filter : Keyed Conditions} {key : String} :
    IsFirst (source.Blocks table) (filter.sort.map Prod.fst) key ↔
      key ∈ filter.map Prod.fst ∧ source.Blocks table key ∧
        ∀ other ∈ filter.map Prod.fst, source.Blocks table other →
          Utf8.encode key ≤ Utf8.encode other := by
  rw [isFirst_keys_iff (Keyed.sorted_sort filter)]
  simp only [Keyed.mem_keys_sort, Utf8.encode_le_iff]

theorem forM_filter_eq_ok_iff {filter : Keyed Conditions} :
    (filter.sort.map Prod.fst).forM (checkBlocked source table) = .ok () ↔
      ∀ key ∈ filter.map Prod.fst, ¬source.Blocks table key := by
  rw [forM_eq_ok_iff fun _ => checkBlocked_eq_ok_iff]
  simp only [Keyed.mem_keys_sort]

theorem checkColumns_eq_ok_iff : checkColumns source table request = .ok () ↔
    (∀ key ∈ request.filter.map Prod.fst, ¬source.Blocks table key) ∧
      (∀ column ∈ request.orderBy.map SortKey.field, ¬source.Blocks table column) ∧
        ∀ column ∈ request.fields, ¬BadField source table column := by
  rw [checkColumns_eq_checks, bind_eq_ok_iff, bind_eq_ok_iff, forM_filter_eq_ok_iff,
    forM_eq_ok_iff fun _ => checkBlocked_eq_ok_iff, forM_eq_ok_iff fun _ => checkField_eq_ok_iff]

/-- The checks of columns fail for the first fault. -/
theorem checkColumns_eq_error_iff (h : Admitted source table request) :
    checkColumns source table request = .error e ↔ Refused source table request e := by
  rw [checkColumns_eq_checks, bind_eq_error_iff, bind_eq_error_iff, forM_filter_eq_ok_iff,
    forM_eq_error_iff fun _ => checkBlocked_eq_ok_iff,
    forM_eq_error_iff fun _ => checkBlocked_eq_ok_iff,
    forM_eq_ok_iff fun _ => checkBlocked_eq_ok_iff, forM_eq_error_iff fun _ => checkField_eq_ok_iff]
  simp only [isFirst_filter_iff, checkBlocked_eq_error_iff, checkField_eq_error_iff]
  constructor
  · rintro (⟨key, ⟨hkey, hblocks, hleast⟩, -, rfl⟩ | ⟨hfilter, hrest⟩)
    · exact .filter h hkey hblocks hleast
    rcases hrest with ⟨column, hfirst, -, rfl⟩ | ⟨horder, column, hfirst, hfield⟩
    · exact .order h hfilter hfirst
    rcases hfield with ⟨hname, rfl⟩ | ⟨hname, -, rfl⟩
    · exact .invalidField h hfilter horder hfirst hname
    · exact .blockedField h hfilter horder hfirst hname
  · intro hrefused
    cases hrefused with
    | table hname => exact absurd h.table hname
    | schema _ hschema hne hname => exact absurd (h.schema _ hschema hne) hname
    | kind _ _ hkind => exact absurd h.kind hkind
    | @filter _ key hkey hblocks hleast =>
      exact Or.inl ⟨key, ⟨hkey, hblocks, hleast⟩, hblocks, rfl⟩
    | @order _ hfilter column hfirst =>
      exact Or.inr ⟨hfilter, Or.inl ⟨column, hfirst, hfirst.holds, rfl⟩⟩
    | @invalidField _ hfilter horder column hfirst hname =>
      exact Or.inr ⟨hfilter, Or.inr ⟨horder, column, hfirst, Or.inl ⟨hname, rfl⟩⟩⟩
    | @blockedField _ hfilter horder column hfirst hname =>
      have hblocks := hfirst.holds.resolve_left (not_not_intro hname)
      exact Or.inr ⟨hfilter, Or.inr ⟨horder, column, hfirst, Or.inr ⟨hname, hblocks, rfl⟩⟩⟩

/-- The checks of a request in the order in which they are made. -/
theorem compile_eq_checks (table : String) (request : Request) (source : Source) :
    compile table request source = (do
      checkTable table
      checkSchema request.schemaName
      (if source.kind = "postgres" then .ok () else .error (.unsupportedType source.kind))
      checkColumns source table request
      .ok (Plan.ofRequest table request source.limits.maxRows).compile) := by
  unfold compile checkTarget Source.isPostgres
  cases checkTable table with
  | error e => rfl
  | ok _ =>
    cases checkSchema request.schemaName with
    | error e => rfl
    | ok _ =>
      by_cases hkind : source.kind = "postgres"
      · simp [hkind, bind, Except.bind, pure, Except.pure]
      · simp [hkind, bind, Except.bind, throw, throwThe, MonadExceptOf.throw]

/-- A request does not compile just when it has a fault, and the error is the first one. -/
theorem compile_eq_error_iff :
    compile table request source = .error e ↔ Refused source table request e := by
  rw [compile_eq_checks, bind_eq_error_iff, bind_eq_error_iff, bind_eq_error_iff,
    bind_eq_error_iff]
  simp only [checkTable_eq_error_iff, checkTable_eq_ok_iff, checkSchema_eq_error_iff,
    checkSchema_eq_ok_iff, require_eq_error_iff, require_eq_ok_iff, reduceCtorEq, and_false,
    or_false]
  constructor
  · rintro (⟨hname, rfl⟩ | ⟨htable, ⟨⟨schema, hschema, hne, hname⟩, rfl⟩ | ⟨hschema, hrest⟩⟩)
    · exact .table hname
    · exact .schema htable hschema hne hname
    rcases hrest with ⟨hkind, rfl⟩ | ⟨hkind, hcolumns⟩
    · exact .kind htable hschema hkind
    · exact (checkColumns_eq_error_iff ⟨htable, hschema, hkind⟩).mp hcolumns
  · intro hrefused
    by_cases h : Admitted source table request
    · have hcolumns := (checkColumns_eq_error_iff h).mpr hrefused
      exact Or.inr ⟨h.table, Or.inr ⟨h.schema, Or.inr ⟨h.kind, hcolumns⟩⟩⟩
    -- the fault is not among the columns
    cases hrefused with
    | table hname => exact Or.inl ⟨hname, rfl⟩
    | schema htable hschema hne hname =>
      exact Or.inr ⟨htable, Or.inl ⟨⟨_, hschema, hne, hname⟩, rfl⟩⟩
    | kind htable hschema hkind =>
      exact Or.inr ⟨htable, Or.inr ⟨hschema, Or.inl ⟨hkind, rfl⟩⟩⟩
    | filter h' => exact absurd h' h
    | order h' => exact absurd h' h
    | invalidField h' => exact absurd h' h
    | blockedField h' => exact absurd h' h

end Checks

/-! ### What statements name -/

namespace Sql

/-- The columns that a projection names. -/
def Projection.named : Projection → List String
  | .columns names => names
  | .all | .count => []

/-- The columns that a statement names: those to return, those compared and those to order by. -/
def Select.named (s : Select) : List String :=
  s.projection.named ++ s.conditions.map Condition.column ++ s.order.map Prod.fst

end Sql

open Sql

namespace Plan

/-- The columns of conditions are those of the predicates. -/
theorem map_column_conditions (p : Plan) :
    p.conditions.map Condition.column = p.predicates.map Predicate.column := by
  have hcolumns : p.conditions.map Condition.column =
      (p.predicates.zipIdx.map Prod.fst).map Predicate.column := by
    unfold conditions numbered
    rw [List.map_map, List.map_map]
    rfl
  rw [hcolumns, List.zipIdx_map_fst]

theorem named_selected (p : Plan) : p.selected.named = p.columns := by
  unfold selected Projection.ofNames
  split
  · next h => rw [h]; rfl
  · rfl

/-- The columns of predicates are among those of the filter. -/
theorem mem_keys_of_mem_predicatesOf {filter : Keyed Conditions} {column : String}
    (h : column ∈ (predicatesOf filter).map Predicate.column) : column ∈ filter.map Prod.fst := by
  unfold predicatesOf at h
  simp only [List.mem_map, List.mem_flatMap, List.mem_filter] at h
  obtain ⟨_, ⟨entry, ⟨hentry, -⟩, _, -, rfl⟩, rfl⟩ := h
  exact Keyed.mem_keys_sort.mp (List.mem_map_of_mem hentry)

/-- The columns of an order are among those of the request. -/
theorem mem_fields_of_mem_orderOf {keys : List SortKey} {column : String}
    (h : column ∈ (orderOf keys).map Prod.fst) : column ∈ keys.map SortKey.field := by
  unfold orderOf at h
  simp only [List.mem_map, List.mem_filter] at h
  obtain ⟨_, ⟨k, ⟨hk, -⟩, rfl⟩, rfl⟩ := h
  exact List.mem_map_of_mem hk

section Unblocked

variable {source : Source} {table : String} {request : Request}
  (h : checkColumns source table request = .ok ()) (maxRows : Int64)
include h

/-- The text that returns rows names no blocked column. -/
theorem unblocked_selectStatement :
    ∀ column ∈ (ofRequest table request maxRows).selectStatement.named,
      ¬source.Blocks table column := by
  obtain ⟨hfilter, horder, hfields⟩ := checkColumns_eq_ok_iff.mp h
  intro column hcolumn
  rcases List.mem_append.mp hcolumn with hcolumn | hcolumn
  · rcases List.mem_append.mp hcolumn with hcolumn | hcolumn
    · have hfield : column ∈ (ofRequest table request maxRows).columns :=
        named_selected (ofRequest table request maxRows) ▸ hcolumn
      exact fun hblocks => hfields column hfield (Or.inr hblocks)
    · have hpredicate : column ∈ (predicatesOf request.filter).map Predicate.column :=
        map_column_conditions (ofRequest table request maxRows) ▸ hcolumn
      exact hfilter column (mem_keys_of_mem_predicatesOf hpredicate)
  · exact horder column (mem_fields_of_mem_orderOf hcolumn)

/-- The text that counts rows names no column that the other one does not name. -/
theorem unblocked_countStatement :
    ∀ column ∈ (ofRequest table request maxRows).countStatement.named,
      ¬source.Blocks table column := by
  intro column hcolumn
  refine unblocked_selectStatement h maxRows column ?_
  rcases List.mem_append.mp hcolumn with hcolumn | hcolumn
  · exact List.mem_append_left _ (List.mem_append_right _ hcolumn)
  · exact absurd hcolumn List.not_mem_nil

end Unblocked

end Plan

/-- A request is refused just when it has a fault, and for the first one; and the statements of a
request that is not refused name no blocked column, neither to return nor to compare nor to order
by. -/
theorem refused_or_names_unblocked (source : Source) (table : String) (request : Request) :
    (∀ e, compile table request source = .error e ↔ Refused source table request e) ∧
      ∀ c, compile table request source = .ok c → ∀ text ∈ c.selectSql :: c.countSql.toList,
        ∃ s, Sql.read? text = some s ∧ ∀ column ∈ s.named, ¬source.Blocks table column := by
  refine ⟨fun e => compile_eq_error_iff, ?_⟩
  intro c hc text htext
  obtain ⟨-, -, hcolumns, rfl⟩ := compile_eq_ok.mp hc
  rcases List.mem_cons.mp htext with rfl | htext
  · exact ⟨_, Plan.read?_selectText _, Plan.unblocked_selectStatement hcolumns _⟩
  · have hcount : text = (Plan.ofRequest table request source.limits.maxRows).countText := by
      unfold Plan.compile at htext
      dsimp only at htext
      split at htext
      · exact List.mem_singleton.mp htext
      · exact absurd htext List.not_mem_nil
    rw [hcount]
    exact ⟨_, Plan.read?_countText _, Plan.unblocked_countStatement hcolumns _⟩

/-- A data source that blocks columns of orders and of users. -/
def blockingSource : Source where
  name := "main"
  kind := "postgres"
  blocklist := ["ORDERS.Total", "orders.A b", "users.password"]

/-- Two columns of the filter are blocked for orders, and the one that comes first is no name; none
is blocked for items. -/
theorem refused_or_names_unblocked_orders :
    compile "orders" ordersRequest blockingSource = .error (.columnBlocked "a b") ∧
      ∃ c, compile "items" ordersRequest blockingSource = .ok c ∧
        ∃ s, Sql.read? c.selectSql = some s ∧
          ∀ column ∈ s.named, ¬blockingSource.Blocks "items" column := by
  constructor
  · have hadmitted : Admitted blockingSource "orders" ordersRequest := by
      refine ⟨(isIdentifier_iff _).mp rfl, ?_, rfl⟩
      rintro _ ⟨⟩ -
      exact (isIdentifier_iff _).mp rfl
    have hleast : ∀ key ∈ ["total", "a b", "id"], "a b" ≤ key := by decide
    refine ((refused_or_names_unblocked _ _ _).1 _).mpr (.filter hadmitted (by decide)
      (Source.isBlocked_iff.mp (by decide +kernel)) ?_)
    intro key hkey _
    exact Utf8.encode_le_iff.mpr (hleast key hkey)
  · have hitems : compile "items" ordersRequest blockingSource =
        .ok (Plan.ofRequest "items" ordersRequest 0).compile :=
      compile_eq_ok.mpr ⟨rfl, rfl, rfl, rfl⟩
    exact ⟨_, hitems, (refused_or_names_unblocked _ _ _).2 _ hitems _ List.mem_cons_self⟩

end QueryGateway
