import QueryGateway.Proofs.Json.Reading
import QueryGateway.Proofs.Json.Record
import QueryGateway.Proofs.Request.Operands

/-!
# Reading back requests

A request that was read has its filter in order and no operand that is null.  Written and read
again it is the same request, unless one of its operands nests too deep or has a number that is read
as another one.

## Main definitions

* `Request.Canonical` — the requests that can be read.
* `Request.NestsWithin` — how deep the operands of a request are.
* `Request.ReadsBackWithin` — what it takes for a request to be read back.

## Main results

* `Request.canonical_of_ofBytes?` — what is read is canonical.
* `Request.reader_document` — when a request is read back.
-/

namespace QueryGateway

open Json

/-! ### Conditions -/

namespace Conditions

/-- No operand is null, and the keys in an operand are in order. -/
def Canonical (c : Conditions) : Prop :=
  ∀ op v, c.operand? op = some v → v ≠ .null ∧ v.Canonical

/-- Every operand nests at most so deep. -/
def NestsWithin (levels : Nat) (c : Conditions) : Prop :=
  ∀ op v, c.operand? op = some v → v.depth ≤ levels

/-- Every operand is read back with so many levels of nesting left. -/
def ReadsBackWithin (levels : Nat) (c : Conditions) : Prop :=
  ∀ op v, c.operand? op = some v → v.ReadsBackWithin levels

theorem forall_operand? {c : Conditions} {p : Value → Prop} :
    (∀ op v, c.operand? op = some v → p v) ↔
      (∀ v, c.eq = some v → p v) ∧ (∀ v, c.gt = some v → p v) ∧ (∀ v, c.ge = some v → p v) ∧
        (∀ v, c.lt = some v → p v) ∧ ∀ v, c.le = some v → p v := by
  constructor
  · exact fun h => ⟨h .eq, h .gt, h .ge, h .lt, h .le⟩
  · rintro ⟨heq, hgt, hge, hlt, hle⟩ op
    cases op
    · exact heq
    · exact hgt
    · exact hge
    · exact hlt
    · exact hle

/-- The reader of an operand. -/
abbrev operandReader (levels : Nat) : Field → Option (Option Value) :=
  Field.withDefault none (Reader.nullable Reader.value) levels

theorem operandReader_ofOption {levels : Nat} {w : Option Value}
    (h : ∀ v, w = some v → v ≠ .null ∧ v.Canonical) :
    operandReader levels (.ofOption w) = some w ↔ ∀ v, w = some v → v.ReadsBackWithin levels := by
  cases w with
  | none => simp [operandReader, Field.ofOption, Field.withDefault]
  | some v =>
    obtain ⟨hne, hcanonical⟩ := h v rfl
    -- what is not null is not written as null
    have hread : operandReader levels (.ofOption (some v)) =
        (Document.value? levels v.document).map some := by
      cases v with
      | null => exact absurd rfl hne
      | _ => rfl
    rw [hread, Option.map_eq_some_iff]
    simp [← Document.value?_document v levels hcanonical]

theorem bounded_of_operandReader {levels : Nat} {field : Field} {v : Value}
    (h : operandReader levels field = some (some v)) :
    v ≠ .null ∧ v.Canonical ∧ v.depth ≤ levels := by
  cases field with
  | absent => cases h
  | cut => cases h
  | given d =>
    have hne : d ≠ .null := by
      rintro rfl
      cases h
    have hmap : (Document.value? levels d).map some = some (some v) :=
      (Reader.nullable_of_ne_null Reader.value levels hne).symm.trans h
    obtain ⟨w, hw, hv⟩ := Option.map_eq_some_iff.mp hmap
    obtain rfl := Option.some.inj hv
    refine ⟨?_, Document.bounded_of_value? d hw⟩
    rintro rfl
    exact hne (Document.eq_null_of_value? hw)

/-- What is read is canonical, and its operands nest no deeper than there were levels. -/
theorem bounded_of_reader {levels : Nat} {doc : Document} {c : Conditions}
    (h : reader levels doc = some c) : c.Canonical ∧ c.NestsWithin (levels - 1) := by
  obtain ⟨⟨below, fields⟩, hrecord, h⟩ := Option.bind_eq_some_iff.mp h
  obtain rfl := levels_of_record hrecord
  obtain ⟨operands, hread, h⟩ := Option.bind_eq_some_iff.mp h
  split at h
  · next eq gt ge lt le =>
    obtain rfl := Option.some.inj h
    have hbounded : ∀ op v, operand? ⟨eq, gt, ge, lt, le⟩ op = some v →
        v ≠ .null ∧ v.Canonical ∧ v.depth ≤ levels - 1 := by
      intro op v hv
      -- an operand is one of the five results
      have hmem : some v ∈ [eq, gt, ge, lt, le] := by
        cases op <;> simp_all [operand?]
      obtain ⟨field, -, hfield⟩ := Reader.exists_of_mem_mapM hread (some v) hmem
      exact bounded_of_operandReader hfield
    exact ⟨fun op v hv => ⟨(hbounded op v hv).1, (hbounded op v hv).2.1⟩,
      fun op v hv => (hbounded op v hv).2.2⟩
  · cases h

/-- The members of conditions. -/
def entries (c : Conditions) : List (String × Option Value) :=
  [("$eq", c.eq), ("$gt", c.gt), ("$gte", c.ge), ("$lt", c.lt), ("$lte", c.le)]

/-- When conditions are read back. -/
theorem reader_document {levels : Nat} {c : Conditions} (h : c.Canonical) :
    reader (levels + 1) c.toJson.document = some c ↔ c.ReadsBackWithin levels := by
  have horder : InOrder spellings 0 c.entries := ⟨rfl, rfl, rfl, rfl, rfl, trivial⟩
  have hrecord : record spellings (levels + 1) c.toJson.document =
      some (levels, c.entries.map fun entry => .ofOption entry.2) :=
    record_document rfl horder levels
  unfold reader
  rw [hrecord]
  show (List.mapM (operandReader levels) _).bind _ = _ ↔ _
  unfold Conditions.Canonical at h
  rw [forall_operand?] at h
  obtain ⟨heq, hgt, hge, hlt, hle⟩ := h
  unfold ReadsBackWithin
  rw [forall_operand?, ← operandReader_ofOption heq, ← operandReader_ofOption hgt,
    ← operandReader_ofOption hge, ← operandReader_ofOption hlt, ← operandReader_ofOption hle]
  obtain ⟨eq, gt, ge, lt, le⟩ := c
  simp only [entries, List.map_cons, List.map_nil, List.mapM_cons, List.mapM_nil,
    Option.bind_eq_bind, Option.bind_eq_some_iff, Option.pure_def, Option.some.injEq]
  constructor
  · rintro ⟨_, ⟨_, h₁, _, ⟨_, h₂, _, ⟨_, h₃, _, ⟨_, h₄, _, ⟨_, h₅, _, rfl, rfl⟩, rfl⟩, rfl⟩, rfl⟩,
      rfl⟩, hc⟩
    obtain ⟨rfl, rfl, rfl, rfl, rfl⟩ := Conditions.mk.inj (Option.some.inj hc)
    exact ⟨h₁, h₂, h₃, h₄, h₅⟩
  · rintro ⟨h₁, h₂, h₃, h₄, h₅⟩
    exact ⟨_, ⟨_, h₁, _, ⟨_, h₂, _, ⟨_, h₃, _, ⟨_, h₄, _, ⟨_, h₅, _, rfl, rfl⟩, rfl⟩, rfl⟩, rfl⟩,
      rfl⟩, rfl⟩

end Conditions

/-! ### Requests -/

/-- The members of a sort key. -/
def SortKey.entries (k : SortKey) : List (String × Option Value) :=
  [("field", some (.string k.field)), ("direction", some (.string k.direction))]

/-- A sort key is read back. -/
theorem SortKey.reader_document (levels : Nat) (k : SortKey) :
    SortKey.reader (levels + 1) k.toJson.document = some k := by
  have horder : InOrder [["field"], ["direction"]] 0 k.entries := ⟨rfl, rfl, trivial⟩
  have hrecord : record [["field"], ["direction"]] (levels + 1) k.toJson.document =
      some (levels, k.entries.map fun entry => .ofOption entry.2) :=
    record_document rfl horder levels
  unfold SortKey.reader
  rw [hrecord]
  simp [entries, Field.ofOption, Field.required, Field.withDefault]

namespace Request

/-- The columns of the filter are in order, and so are the keys in its operands; no operand is
null. -/
def Canonical (r : Request) : Prop :=
  r.filter.Sorted ∧ ∀ entry ∈ r.filter, entry.2.Canonical

/-- Every operand of the filter nests at most so deep. -/
def NestsWithin (levels : Nat) (r : Request) : Prop :=
  ∀ entry ∈ r.filter, entry.2.NestsWithin levels

/-- Every operand of the filter is read back with so many levels of nesting left. -/
def ReadsBackWithin (levels : Nat) (r : Request) : Prop :=
  ∀ entry ∈ r.filter, entry.2.ReadsBackWithin levels

/-- A request without a filter has no operands. -/
theorem canonical_of_filter_eq_nil {r : Request} (h : r.filter = []) : r.Canonical := by
  unfold Canonical
  rw [h]
  exact ⟨List.Pairwise.nil, fun entry hentry => absurd hentry List.not_mem_nil⟩

theorem readsBackWithin_of_filter_eq_nil {levels : Nat} {r : Request} (h : r.filter = []) :
    r.ReadsBackWithin levels := by
  unfold ReadsBackWithin
  rw [h]
  exact fun entry hentry => absurd hentry List.not_mem_nil

/-- What is read is canonical, and its operands nest no deeper than there were levels. -/
theorem bounded_of_reader {levels : Nat} {doc : Document} {r : Request}
    (h : reader levels doc = some r) : r.Canonical ∧ r.NestsWithin (levels - 3) := by
  obtain ⟨⟨below, fields⟩, hrecord, h⟩ := Option.bind_eq_some_iff.mp h
  obtain rfl := levels_of_record hrecord
  dsimp only at h
  split at h
  · obtain ⟨schema, -, h⟩ := Option.bind_eq_some_iff.mp h
    obtain ⟨limit, -, h⟩ := Option.bind_eq_some_iff.mp h
    obtain ⟨offset, -, h⟩ := Option.bind_eq_some_iff.mp h
    obtain ⟨countTotal, -, h⟩ := Option.bind_eq_some_iff.mp h
    obtain ⟨orderBy, -, h⟩ := Option.bind_eq_some_iff.mp h
    obtain ⟨filter, hfilter, h⟩ := Option.bind_eq_some_iff.mp h
    obtain ⟨columns, -, h⟩ := Option.bind_eq_some_iff.mp h
    obtain rfl := Option.some.inj h
    rcases Field.eq_default_or_read hfilter with rfl | ⟨d, hd⟩
    · exact ⟨canonical_of_filter_eq_nil rfl, nofun⟩
    · obtain ⟨hsorted, hread⟩ := Reader.sorted_of_map hd
      have hbounded : ∀ entry ∈ filter, entry.2.Canonical ∧ entry.2.NestsWithin (levels - 3) := by
        intro entry hentry
        obtain ⟨d, hd⟩ := hread entry hentry
        exact Conditions.bounded_of_reader hd
      exact ⟨⟨hsorted, fun entry hentry => (hbounded entry hentry).1⟩,
        fun entry hentry => (hbounded entry hentry).2⟩
  · cases h

theorem canonical_of_ofBytes? {bytes : Bytes} {r : Request} (h : ofBytes? bytes = some r) :
    r.Canonical := by
  obtain ⟨doc, -, h⟩ := Option.bind_eq_some_iff.mp h
  exact (bounded_of_reader h).1

/-- The members of a request. -/
def entries (r : Request) : List (String × Option Value) :=
  [("schema", r.schema.map .string), ("limit", some (.ofInt64 r.limit)),
    ("offset", some (.ofInt64 r.offset)), ("countTotal", some (.bool r.countTotal)),
    ("orderBy", some (.array (r.orderBy.map SortKey.toJson))),
    ("filter", some (.object (r.filter.mapValues Conditions.toJson))),
    ("fields", some (.array (r.fields.map .string)))]

theorem toJson_eq_entries (r : Request) : r.toJson = .object (r.entries.filterMap written) := by
  unfold toJson entries
  cases r.schema <;> rfl

theorem schema_read (levels : Nat) (schema : Option String) :
    (Field.ofOption (schema.map .string)).withDefault none (Reader.nullable Reader.string) levels =
      some schema := by
  cases schema with
  | none => rfl
  | some s => exact Reader.nullable_string_document levels s

/-- Of a request that was written, all but the filter is read back in any case. -/
theorem reader_toJson (levels : Nat) (r : Request) : reader (levels + 3) r.toJson.document =
    (Reader.map Conditions.reader (levels + 2)
      (Value.object (r.filter.mapValues Conditions.toJson)).document).map
        fun filter => { r with filter } := by
  have horder : InOrder
      [["schema"], ["limit"], ["offset"], ["countTotal"], ["orderBy"], ["filter"], ["fields"]] 0
      r.entries := ⟨rfl, rfl, rfl, rfl, rfl, rfl, rfl, trivial⟩
  have hrecord := record_document rfl horder (levels + 2)
  rw [← toJson_eq_entries] at hrecord
  have hkeys : Reader.list SortKey.reader (levels + 2)
      (Value.array (r.orderBy.map SortKey.toJson)).document = some r.orderBy :=
    Reader.list_document fun k _ => SortKey.reader_document levels k
  have hfields : Reader.list Reader.string (levels + 2)
      (Value.array (r.fields.map .string)).document = some r.fields :=
    Reader.list_document fun s _ => Reader.string_document (levels + 1) s
  unfold reader
  rw [hrecord]
  show ((Field.ofOption (r.schema.map .string)).withDefault none
    (Reader.nullable Reader.string) (levels + 2)).bind _ = _
  rw [schema_read]
  obtain ⟨schema, limit, offset, countTotal, orderBy, filter, fields⟩ := r
  cases hfilter : Reader.map Conditions.reader (levels + 2)
      (Value.object (filter.mapValues Conditions.toJson)).document <;>
    simp [Field.withDefault, Field.ofOption, Reader.bool_document, hkeys, hfields, hfilter]

/-- When a request is read back. -/
theorem reader_document {levels : Nat} {r : Request} (h : r.Canonical) :
    reader (levels + 3) r.toJson.document = some r ↔ r.ReadsBackWithin levels := by
  have hfilter : Reader.map Conditions.reader (levels + 2)
      (Value.object (r.filter.mapValues Conditions.toJson)).document = some r.filter ↔
      r.ReadsBackWithin levels := by
    rw [Reader.map_document h.1]
    exact forall₂_congr fun entry hentry => Conditions.reader_document (h.2 entry hentry)
  rw [← hfilter, reader_toJson, Option.map_eq_some_iff]
  constructor
  · rintro ⟨filter, hread, hr⟩
    rw [hread, ← congrArg Request.filter hr]
  · intro hread
    exact ⟨r.filter, hread, rfl⟩

end Request
end QueryGateway
