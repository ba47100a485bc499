import QueryGateway.Proofs.Json.Document
import QueryGateway.Proofs.Keyed

/-!
# Reading back values

A value that was written is read back unless it nests too deep or a number in it is read as another
one.  Nothing else is lost: the keys of canonical objects stay in their order.

## Main definitions

* `Json.Value.depth` — how many containers are open at once.
* `Json.Value.numbers` — the numbers in a value.
* `Json.Number.ReadsBack` — the number is read back from its written form.
* `Json.Value.ReadsBackWithin` — what it takes for a value to be read back.

## Main results

* `Json.Document.value?_document` — when a value is read back.
* `Json.Document.bounded_of_value?` — what is read is canonical and not too deep.
-/

namespace QueryGateway
namespace Json

/-- The number is read back from its written form. -/
def Number.ReadsBack (n : Number) : Prop := read? (Value.number n).bytes = some (.number n)

instance (n : Number) : Decidable n.ReadsBack := inferInstanceAs (Decidable (_ = _))

theorem Number.readsBack_iff {n : Number} : n.ReadsBack ↔ n.numeral.number? = some n := by
  unfold ReadsBack read?
  rw [Document.ofBytes?_bytes, Option.bind_some]
  show n.numeral.number?.map Value.number = some (.number n) ↔ _
  cases n.numeral.number? <;> simp

/-- Integers are read back. -/
theorem Number.readsBack_whole (n : Int)
    (h : -9223372036854775808 ≤ n ∧ n < 18446744073709551616) : (whole n h).ReadsBack :=
  readsBack_iff.mpr (number?_whole n h)

namespace Value

mutual

/-- How many containers are open at once. -/
def depth : Value → Nat
  | .array items => depthItems items + 1
  | .object members => depthMembers members + 1
  | _ => 0

/-- The greatest depth of the items. -/
def depthItems : List Value → Nat
  | [] => 0
  | v :: rest => max (depth v) (depthItems rest)

/-- The greatest depth of the members. -/
def depthMembers : List (String × Value) → Nat
  | [] => 0
  | (_, v) :: rest => max (depth v) (depthMembers rest)

end

mutual

/-- The numbers in a value. -/
def numbers : Value → List Number
  | .number n => [n]
  | .array items => numbersItems items
  | .object members => numbersMembers members
  | _ => []

/-- The numbers in the items. -/
def numbersItems : List Value → List Number
  | [] => []
  | v :: rest => numbers v ++ numbersItems rest

/-- The numbers in the members. -/
def numbersMembers : List (String × Value) → List Number
  | [] => []
  | (_, v) :: rest => numbers v ++ numbersMembers rest

end

/-- The value nests at most so deep, and every number in it is read back. -/
def ReadsBackWithin (levels : Nat) (v : Value) : Prop :=
  v.depth ≤ levels ∧ ∀ n ∈ v.numbers, n.ReadsBack

end Value

namespace Document

open Value

/-! ### What is read is canonical and not too deep -/

theorem canonicalMembers_iff {members : List (String × Value)} :
    CanonicalMembers members ↔ ∀ m ∈ members, m.2.Canonical := by
  induction members with
  | nil => simp [CanonicalMembers]
  | cons m rest ih =>
    obtain ⟨k, v⟩ := m
    rw [CanonicalMembers, ih, List.forall_mem_cons]

theorem canonical_ofObject {members : List (String × Value)} (h : CanonicalMembers members) :
    (ofObject members).Canonical := by
  refine ⟨Keyed.sorted_sort members, canonicalMembers_iff.mpr ?_⟩
  rintro ⟨k, v⟩ hm
  have hlast := Keyed.mem_of_find? (Keyed.mem_sort.mp hm)
  exact canonicalMembers_iff.mp h (k, v) (List.mem_reverse.mp hlast)

theorem depthMembers_le_iff {members : List (String × Value)} {levels : Nat} :
    depthMembers members ≤ levels ↔ ∀ m ∈ members, m.2.depth ≤ levels := by
  induction members with
  | nil => simp [depthMembers]
  | cons m rest ih =>
    obtain ⟨k, v⟩ := m
    rw [depthMembers, Nat.max_le, ih, List.forall_mem_cons]

/-- An object is no deeper than its members, some of which may be left out. -/
theorem depth_ofObject_le {members : List (String × Value)} {levels : Nat}
    (h : depthMembers members ≤ levels) : (ofObject members).depth ≤ levels + 1 := by
  refine Nat.succ_le_succ (depthMembers_le_iff.mpr ?_)
  rintro ⟨k, v⟩ hm
  have hlast := Keyed.mem_of_find? (Keyed.mem_sort.mp hm)
  exact depthMembers_le_iff.mp h (k, v) (List.mem_reverse.mp hlast)

mutual

/-- What is read has its keys in order, and nests no deeper than there were levels. -/
theorem bounded_of_value? : ∀ {levels : Nat} (d : Document) {v : Value},
    value? levels d = some v → v.Canonical ∧ v.depth ≤ levels
  | _, .null, _, h => by
    obtain rfl := Option.some.inj h
    exact ⟨trivial, Nat.zero_le _⟩
  | _, .bool _, _, h => by
    obtain rfl := Option.some.inj h
    exact ⟨trivial, Nat.zero_le _⟩
  | _, .number n, _, h => by
    obtain ⟨_, -, rfl⟩ := Option.map_eq_some_iff.mp h
    exact ⟨trivial, Nat.zero_le _⟩
  | _, .string ps, _, h => by
    obtain ⟨_, -, rfl⟩ := Option.map_eq_some_iff.mp h
    exact ⟨trivial, Nat.zero_le _⟩
  | levels, .array items, v, h => by
    rw [value?] at h
    split at h
    · cases h
    · next hlevels =>
      obtain ⟨vs, hvs, rfl⟩ := Option.map_eq_some_iff.mp h
      obtain ⟨hcanonical, hdepth⟩ := bounded_of_values? items hvs
      refine ⟨hcanonical, ?_⟩
      show depthItems vs + 1 ≤ levels
      omega
  | levels, .object members, v, h => by
    rw [value?] at h
    split at h
    · cases h
    · next hlevels =>
      obtain ⟨ms, hms, rfl⟩ := Option.map_eq_some_iff.mp h
      obtain ⟨hcanonical, hdepth⟩ := bounded_of_members? members hms
      have hobject := depth_ofObject_le hdepth
      exact ⟨canonical_ofObject hcanonical, by omega⟩

theorem bounded_of_values? : ∀ {levels : Nat} (ds : List Document) {vs : List Value},
    values? levels ds = some vs → CanonicalItems vs ∧ depthItems vs ≤ levels
  | _, [], _, h => by
    obtain rfl := Option.some.inj h
    exact ⟨trivial, Nat.zero_le _⟩
  | _, d :: ds, _, h => by
    obtain ⟨v, hv, h⟩ := Option.bind_eq_some_iff.mp h
    obtain ⟨vs, hvs, h⟩ := Option.bind_eq_some_iff.mp h
    obtain rfl := Option.some.inj h
    obtain ⟨hcanonical, hdepth⟩ := bounded_of_value? d hv
    obtain ⟨hitems, hdepths⟩ := bounded_of_values? ds hvs
    exact ⟨⟨hcanonical, hitems⟩, Nat.max_le.mpr ⟨hdepth, hdepths⟩⟩

theorem bounded_of_members? : ∀ {levels : Nat} (ds : List (List Piece × Document))
    {ms : List (String × Value)}, members? levels ds = some ms →
      CanonicalMembers ms ∧ depthMembers ms ≤ levels
  | _, [], _, h => by
    obtain rfl := Option.some.inj h
    exact ⟨trivial, Nat.zero_le _⟩
  | _, (k, d) :: ds, _, h => by
    obtain ⟨key, -, h⟩ := Option.bind_eq_some_iff.mp h
    obtain ⟨v, hv, h⟩ := Option.bind_eq_some_iff.mp h
    obtain ⟨ms, hms, h⟩ := Option.bind_eq_some_iff.mp h
    obtain rfl := Option.some.inj h
    obtain ⟨hcanonical, hdepth⟩ := bounded_of_value? d hv
    obtain ⟨hmembers, hdepths⟩ := bounded_of_members? ds hms
    exact ⟨⟨hcanonical, hmembers⟩, Nat.max_le.mpr ⟨hdepth, hdepths⟩⟩

end

/-- Only null is read as null. -/
theorem eq_null_of_value? {levels : Nat} {d : Document} (h : value? levels d = some .null) :
    d = .null := by
  cases d with
  | null => rfl
  | bool b => cases h
  | number n => obtain ⟨_, -, h⟩ := Option.map_eq_some_iff.mp h; cases h
  | string ps => obtain ⟨_, -, h⟩ := Option.map_eq_some_iff.mp h; cases h
  | array items =>
    rw [value?] at h
    split at h
    · cases h
    · obtain ⟨_, -, h⟩ := Option.map_eq_some_iff.mp h; cases h
  | object members =>
    rw [value?] at h
    split at h
    · cases h
    · obtain ⟨_, -, h⟩ := Option.map_eq_some_iff.mp h; cases h

/-! ### What is written is read back

The induction is on the value, for any number of levels: a container takes one of them and leaves
the others to what it holds. -/

/-- The members that are read have the keys that were written. -/
theorem keys_of_members? {levels : Nat} : ∀ {members ms : List (String × Value)},
    members? levels (memberDocuments members) = some ms → ms.map Prod.fst = members.map Prod.fst
  | [], _, h => by
    obtain rfl := Option.some.inj h
    rfl
  | (k, v) :: members, _, h => by
    rw [memberDocuments] at h
    obtain ⟨key, hkey, h⟩ := Option.bind_eq_some_iff.mp h
    obtain ⟨w, -, h⟩ := Option.bind_eq_some_iff.mp h
    obtain ⟨ms, hms, h⟩ := Option.bind_eq_some_iff.mp h
    obtain rfl := Option.some.inj h
    obtain rfl := Option.some.inj ((text?_pieces k).symm.trans hkey)
    rw [List.map_cons, List.map_cons, keys_of_members? hms]

mutual

/-- When a value is read back. -/
theorem value?_document : ∀ (v : Value) (levels : Nat), v.Canonical →
    (value? levels v.document = some v ↔ v.ReadsBackWithin levels)
  | .null, _, _ => by simp [document, value?, ReadsBackWithin, depth, numbers]
  | .bool b, _, _ => by simp [document, value?, ReadsBackWithin, depth, numbers]
  | .string s, _, _ => by simp [document, value?, ReadsBackWithin, depth, numbers]
  | .number n, _, _ => by
    simp [document, value?, ReadsBackWithin, depth, numbers, Number.readsBack_iff]
  | .array items, levels, h => by
    have hitems := values?_documents items (levels - 1) h
    rw [document, value?, ReadsBackWithin, depth, numbers]
    split
    · next hzero => simp [hzero]
    · have hdepth : depthItems items ≤ levels - 1 ↔ depthItems items + 1 ≤ levels := by omega
      rw [← hdepth, ← hitems]
      cases values? (levels - 1) (documents items) <;> simp
  | .object members, levels, h => by
    have hmembers := members?_memberDocuments members (levels - 1) h.2
    rw [document, value?, ReadsBackWithin, depth, numbers]
    split
    · next hzero => simp [hzero]
    · have hdepth : depthMembers members ≤ levels - 1 ↔ depthMembers members + 1 ≤ levels := by
        omega
      rw [← hdepth, ← hmembers, Option.map_eq_some_iff]
      constructor
      · rintro ⟨ms, hms, hobject⟩
        -- the keys that were read ascend, so sorting has left the members as they were read
        have hsorted : Keyed.Sorted ms := by
          unfold Keyed.Sorted
          rw [keys_of_members? hms]
          exact h.1
        rw [ofObject, Keyed.sort_eq_self hsorted] at hobject
        obtain rfl := Value.object.inj hobject
        exact hms
      · intro hms
        exact ⟨members, hms, congrArg Value.object (Keyed.sort_eq_self h.1)⟩

theorem values?_documents : ∀ (vs : List Value) (levels : Nat), CanonicalItems vs →
    (values? levels (documents vs) = some vs ↔
      depthItems vs ≤ levels ∧ ∀ n ∈ numbersItems vs, n.ReadsBack)
  | [], _, _ => by simp [documents, values?, depthItems, numbersItems]
  | v :: vs, levels, h => by
    have hv := value?_document v levels h.1
    have hvs := values?_documents vs levels h.2
    have hread : values? levels (documents (v :: vs)) = some (v :: vs) ↔
        value? levels v.document = some v ∧ values? levels (documents vs) = some vs := by
      rw [documents, values?]
      simp [Option.bind_eq_some_iff]
    rw [hread, hv, hvs, ReadsBackWithin, depthItems, numbersItems, Nat.max_le,
      List.forall_mem_append]
    exact and_and_and_comm

theorem members?_memberDocuments : ∀ (ms : List (String × Value)) (levels : Nat),
    CanonicalMembers ms →
    (members? levels (memberDocuments ms) = some ms ↔
      depthMembers ms ≤ levels ∧ ∀ n ∈ numbersMembers ms, n.ReadsBack)
  | [], _, _ => by simp [memberDocuments, members?, depthMembers, numbersMembers]
  | (k, v) :: ms, levels, h => by
    have hv := value?_document v levels h.1
    have hms := members?_memberDocuments ms levels h.2
    have hread : members? levels (memberDocuments ((k, v) :: ms)) = some ((k, v) :: ms) ↔
        value? levels v.document = some v ∧ members? levels (memberDocuments ms) = some ms := by
      rw [memberDocuments, members?, text?_pieces]
      simp [Option.bind_eq_some_iff]
    rw [hread, hv, hms, ReadsBackWithin, depthMembers, numbersMembers, Nat.max_le,
      List.forall_mem_append]
    exact and_and_and_comm

end

end Document

end Json
end QueryGateway
