import QueryGateway.Statement
import QueryGateway.Proofs.Json.Distinct
import QueryGateway.Proofs.Keyed
import QueryGateway.Proofs.Request.Operands

/-!
# What the digest of a request stands for

The digested bytes of a request are the written form of a value from which everything that a
statement depends on can be read: requests have the same bytes just when they ask for the same
things, in whatever order their filters are.  So unless the bytes of two requests collide, requests
with the same digest have the same statements.

A filter is a map here: each column is in it once.

## Main definitions

* `Request.Alike` — two requests ask for the same things.
* `Sha256.Collision` — two messages collide.

## Main results

* `Request.canonical_eq_iff` — the values to be digested are equal for the same things alone.
* `Request.compile_eq` — the statements of a request depend on the things it asks for.
* `Request.digest_identifies` — both for the bytes and the digest.
-/

namespace QueryGateway

open Json

/-- Two messages are different and have the same digest. -/
def Sha256.Collision (x y : Bytes) : Prop := x ≠ y ∧ digest x = digest y

theorem Hex.encode_injective : Function.Injective Hex.encode := by
  intro xs ys h
  have hread := Hex.decodeChars?_flatMap_ofByte xs
  rw [String.ofList_injective h, Hex.decodeChars?_flatMap_ofByte] at hread
  exact (Option.some.inj hread).symm

/-! ### Parts of a request as values -/

theorem ofInt64_injective : Function.Injective Value.ofInt64 := by
  intro m n h
  exact Int64.toInt_inj.mp (Number.whole.inj (Value.number.inj h))

theorem SortKey.toJson_injective : Function.Injective SortKey.toJson := by
  rintro ⟨field, direction⟩ ⟨field', direction'⟩ h
  obtain ⟨hfield, htail⟩ := List.cons.inj (Value.object.inj h)
  obtain ⟨hdirection, -⟩ := List.cons.inj htail
  obtain rfl : field = field' := Value.string.inj (Prod.mk.inj hfield).2
  obtain rfl : direction = direction' := Value.string.inj (Prod.mk.inj hdirection).2
  rfl

namespace Conditions

/-- The member under which a comparison is written. -/
def key : Comparison → String
  | .eq => "$eq"
  | .gt => "$gt"
  | .ge => "$gte"
  | .lt => "$lt"
  | .le => "$lte"

/-- The operand of each comparison is a member of the written conditions. -/
theorem get?_toJson (c : Conditions) (op : Comparison) :
    c.toJson.get? (key op) = c.operand? op := by
  have hfind := Keyed.find?_filterMap
    [("$eq", c.eq), ("$gt", c.gt), ("$gte", c.ge), ("$lt", c.lt), ("$lte", c.le)] (by simp) (key op)
  refine Eq.trans hfind ?_
  cases op <;> simp [key, operand?, Keyed.find?_cons]

theorem toJson_injective : Function.Injective toJson := by
  intro c d h
  have hoperand : ∀ op, c.operand? op = d.operand? op := by
    intro op
    rw [← get?_toJson, h, get?_toJson]
  obtain ⟨eq, gt, ge, lt, le⟩ := c
  obtain ⟨eq', gt', ge', lt', le'⟩ := d
  rw [show eq = eq' from hoperand .eq, show gt = gt' from hoperand .gt,
    show ge = ge' from hoperand .ge, show lt = lt' from hoperand .lt,
    show le = le' from hoperand .le]

end Conditions

/-- A column of a filter with its conditions, as it is digested. -/
theorem column_injective : Function.Injective fun (entry : String × Conditions) =>
    Value.object [("key", .string entry.1), ("value", entry.2.toJson)] := by
  rintro ⟨column, c⟩ ⟨column', c'⟩ h
  obtain ⟨hcolumn, htail⟩ := List.cons.inj (Value.object.inj h)
  obtain ⟨hconditions, -⟩ := List.cons.inj htail
  obtain rfl : column = column' := Value.string.inj (Prod.mk.inj hcolumn).2
  obtain rfl : c = c' := Conditions.toJson_injective (Prod.mk.inj hconditions).2
  rfl

namespace Request

/-! ### Requests -/

/-- An absent schema counts as the empty one. -/
theorem schemaName_eq_iff {a b : Request} :
    a.schemaName = b.schemaName ↔ a.schema.getD "" = b.schema.getD "" := by
  have hname : ∀ r : Request,
      r.schemaName = if r.schema.getD "" = "" then none else some (r.schema.getD "") := by
    intro r
    unfold schemaName
    cases r.schema with
    | none => rfl
    | some schema => by_cases h : schema = "" <;> simp [Option.filter, h]
  rw [hname a, hname b]
  constructor
  · intro h
    split at h <;> split at h <;> simp_all
  · intro h
    rw [h]

/-- Two requests ask for the same things.  Their filters may be in different orders. -/
structure Alike (a b : Request) : Prop where
  schema : a.schemaName = b.schemaName
  limit : a.limit = b.limit
  offset : a.offset = b.offset
  countTotal : a.countTotal = b.countTotal
  orderBy : a.orderBy = b.orderBy
  filter : a.filter.Perm b.filter
  fields : a.fields = b.fields

/-- The columns of the filter are different. -/
def Distinct (r : Request) : Prop := (r.filter.map Prod.fst).Nodup

/-- The values to be digested are equal for requests that ask for the same things, and for them
alone. -/
theorem canonical_eq_iff {a b : Request} (ha : a.Distinct) (hb : b.Distinct) :
    a.canonical = b.canonical ↔ a.Alike b := by
  constructor
  · intro h
    unfold canonical at h
    simp only [Value.object.injEq, List.cons.injEq, Prod.mk.injEq, true_and, and_true,
      Value.string.injEq, Value.bool.injEq, Value.array.injEq] at h
    obtain ⟨hschema, hlimit, hoffset, hcount, horder, hfilter, hfields⟩ := h
    exact {
      schema := schemaName_eq_iff.mpr hschema
      limit := ofInt64_injective hlimit
      offset := ofInt64_injective hoffset
      countTotal := hcount
      orderBy := SortKey.toJson_injective.list_map horder
      filter := (Keyed.sort_eq_sort_iff ha hb).mp (column_injective.list_map hfilter)
      fields := Function.Injective.list_map (fun _ _ => Value.string.inj) hfields }
  · intro h
    unfold canonical
    rw [schemaName_eq_iff.mp h.schema, h.limit, h.offset, h.countTotal, h.orderBy, h.fields,
      (Keyed.sort_eq_sort_iff ha hb).mpr h.filter]

/-- The statements of a request depend on nothing but the things it asks for. -/
theorem compile_eq {a b : Request} (ha : a.Distinct) (hb : b.Distinct) (h : a.Alike b)
    (table : String) (source : Source) : compile table a source = compile table b source := by
  have hfilter := (Keyed.sort_eq_sort_iff ha hb).mpr h.filter
  have hchecks : checkColumns source table a = checkColumns source table b := by
    unfold checkColumns
    rw [hfilter, h.orderBy, h.fields]
  have hplan : ∀ maxRows, Plan.ofRequest table a maxRows = Plan.ofRequest table b maxRows := by
    intro maxRows
    unfold Plan.ofRequest Plan.predicatesOf
    rw [h.schema, h.limit, h.offset, h.countTotal, h.orderBy, h.fields, hfilter]
  unfold compile
  rw [h.schema, hchecks, hplan]

/-- The digested bytes of requests are equal just when they ask for the same things.  So requests
with the same digest, if it is not that of a collision, have the same statements on every table of
every data source. -/
theorem digest_identifies {a b : Request} (ha : a.Distinct) (hb : b.Distinct) :
    (a.canonicalBytes = b.canonicalBytes ↔ a.Alike b) ∧
      (a.hash = b.hash → ¬Sha256.Collision a.canonicalBytes b.canonicalBytes →
        ∀ table source, compile table a source = compile table b source) := by
  have hbytes : a.canonicalBytes = b.canonicalBytes ↔ a.Alike b :=
    Value.bytes_injective.eq_iff.trans (canonical_eq_iff ha hb)
  refine ⟨hbytes, fun hhash hcollision table source => ?_⟩
  have hdigest := Hex.encode_injective hhash
  have heq : a.canonicalBytes = b.canonicalBytes :=
    Decidable.byContradiction fun hne => hcollision ⟨hne, hdigest⟩
  exact compile_eq ha hb (hbytes.mp heq) table source

/-- The same conditions in two orders, once with an empty schema. -/
theorem digest_identifies_reordered :
    let a : Request := {
      schema := some ""
      filter := [("total", { ge := some (.ofInt64 10) }), ("customer", { eq := some .null })] }
    let b : Request := {
      filter := [("customer", { eq := some .null }), ("total", { ge := some (.ofInt64 10) })] }
    a.Distinct ∧ b.Distinct ∧ a.canonicalBytes = b.canonicalBytes ∧ a.hash = b.hash ∧
      ¬Sha256.Collision a.canonicalBytes b.canonicalBytes ∧
      ∀ table source, compile table a source = compile table b source := by
  intro a b
  have ha : a.Distinct := by simp [Distinct, a]
  have hb : b.Distinct := by simp [Distinct, b]
  have halike : a.Alike b := {
    schema := rfl, limit := rfl, offset := rfl, countTotal := rfl, orderBy := rfl
    filter := List.Perm.swap _ _ _
    fields := rfl }
  have hbytes := (digest_identifies ha hb).1.mpr halike
  have hhash : a.hash = b.hash := by
    unfold hash
    rw [hbytes]
  have hcollision : ¬Sha256.Collision a.canonicalBytes b.canonicalBytes := fun h => h.1 hbytes
  exact ⟨ha, hb, hbytes, hhash, hcollision, (digest_identifies ha hb).2 hhash hcollision⟩

end Request

end QueryGateway
