import QueryGateway.Json.Record
import QueryGateway.Proofs.Json.Document
import QueryGateway.Proofs.Keyed

/-!
# Reading back records

A record that was written as an object, each field under its first spelling and without those that
are absent, gives the reader a document for every field that was written.

## Main definitions

* `Json.written` — the member of a field, if the field is there.
* `Json.Field.ofOption` — what the reader gets for it.
* `Json.InOrder` — the names are spellings of the fields in the order of their declaration.

## Main results

* `Json.record_document` — the fields of a record that was written.
* `Json.Reader.map_document` — when a map is read back.
* `Json.Reader.sorted_of_map` — what a map that was read holds.
-/

namespace QueryGateway
namespace Json

/-- The member of a field, if the field is there. -/
def written (entry : String × Option Value) : Option (String × Value) :=
  entry.2.map (entry.1, ·)

/-- What a reader gets for a field. -/
def Field.ofOption : Option Value → Field
  | some v => .given v.document
  | none => .absent

/-- The names are spellings of the fields in the order of their declaration, counted from a
number. -/
def InOrder (spellings : List (List String)) (start : Nat) : List (String × Option Value) → Prop
  | [] => True
  | (name, _) :: rest =>
    spellings.findIdx? (·.contains name) = some start ∧ InOrder spellings (start + 1) rest

theorem fill_append (done rest : List Field) (doc : Document) :
    fill done.length doc (done ++ .absent :: rest) = some (done ++ .given doc :: rest) := by
  unfold fill
  rw [List.getElem?_append_right (Nat.le_refl _), Nat.sub_self]
  simp

theorem fillMembers_cons {spellings : List (List String)} {name : String} {i : Nat}
    (h : spellings.findIdx? (·.contains name) = some i) (doc : Document)
    (rest : List (List Piece × Document)) (fields : List Field) :
    fillMembers spellings ((pieces name, doc) :: rest) fields =
      (fill i doc fields).bind (fillMembers spellings rest) := by
  rw [fillMembers, Document.text?_pieces, Option.bind_eq_bind, Option.bind_some, h]
  rfl

/-- The members that were written fill the places of their fields.  The fields before them are
already filled or absent. -/
theorem fillMembers_written {spellings : List (List String)} :
    ∀ (entries : List (String × Option Value)) (done : List Field),
      InOrder spellings done.length entries →
      fillMembers spellings (Value.memberDocuments (entries.filterMap written))
          (done ++ entries.map fun _ => .absent) =
        some (done ++ entries.map fun entry => .ofOption entry.2)
  | [], done, _ => rfl
  | (name, none) :: entries, done, h => by
    have hrest := fillMembers_written entries (done ++ [.absent]) (by
      rw [List.length_append]
      exact h.2)
    rw [List.append_assoc, List.append_assoc] at hrest
    exact hrest
  | (name, some v) :: entries, done, h => by
    have hrest := fillMembers_written entries (done ++ [.given v.document]) (by
      rw [List.length_append]
      exact h.2)
    rw [List.append_assoc, List.append_assoc] at hrest
    have hfilter : ((name, some v) :: entries).filterMap written =
        (name, v) :: entries.filterMap written := rfl
    rw [hfilter, Value.memberDocuments, fillMembers_cons h.1, List.map_cons, fill_append]
    exact hrest

/-- The fields of a record that was written. -/
theorem record_document {spellings : List (List String)} {entries : List (String × Option Value)}
    (hlength : spellings.length = entries.length) (h : InOrder spellings 0 entries)
    (levels : Nat) :
    record spellings (levels + 1) (Value.object (entries.filterMap written)).document =
      some (levels, entries.map fun entry => .ofOption entry.2) := by
  have habsent : (spellings.map fun _ => Field.absent) = entries.map fun _ => Field.absent := by
    rw [List.map_const', List.map_const', hlength]
  have hfill := fillMembers_written entries [] h
  rw [List.nil_append, List.nil_append] at hfill
  rw [Value.document, record, if_neg (Nat.succ_ne_zero levels), habsent, hfill]
  rfl

/-- The fields of a record are read one level further down. -/
theorem levels_of_record {spellings : List (List String)} {levels below : Nat} {doc : Document}
    {fields : List Field} (h : record spellings levels doc = some (below, fields)) :
    below = levels - 1 := by
  cases doc with
  | object members =>
    rw [record] at h
    split at h
    · cases h
    · obtain ⟨_, -, hfields⟩ := Option.map_eq_some_iff.mp h
      exact (Prod.mk.inj hfields).1.symm
  | array items =>
    rw [record] at h
    split at h
    · cases h
    · exact (Prod.mk.inj (Option.some.inj h)).1.symm
  | _ => cases h

/-! ### Fields -/

/-- A field with a default has the default, or it was read. -/
theorem Field.eq_default_or_read {α : Type} {default x : α} {reader : Reader α} {levels : Nat}
    {field : Field} (h : field.withDefault default reader levels = some x) :
    x = default ∨ ∃ d, reader levels d = some x := by
  cases field with
  | given d => exact Or.inr ⟨d, h⟩
  | absent => exact Or.inl (Option.some.inj h).symm
  | cut => exact Or.inl (Option.some.inj h).symm

/-- A field that must be given was read. -/
theorem Field.exists_read {α : Type} {x : α} {reader : Reader α} {levels : Nat} {field : Field}
    (h : field.required reader levels = some x) : ∃ d, reader levels d = some x := by
  cases field with
  | given d => exact ⟨d, h⟩
  | absent => cases h
  | cut => cases h

namespace Reader

@[simp] theorem string_document (levels : Nat) (s : String) :
    string levels (Value.string s).document = some s :=
  Document.text?_pieces s

@[simp] theorem bool_document (levels : Nat) (b : Bool) :
    bool levels (Value.bool b).document = some b := rfl

@[simp] theorem int64_document (levels : Nat) (n : Int64) :
    int64 levels (Value.ofInt64 n).document = some n := by
  have hlow := n.le_toInt
  have hhigh := n.toInt_lt
  unfold int64 integer
  rw [Value.ofInt64, Value.document]
  dsimp only
  rw [integer?_whole, Option.bind_some, if_pos (by omega), Option.map_some, Int64.ofInt_toInt]

theorem nullable_of_ne_null {α : Type} (reader : Reader α) (levels : Nat) {doc : Document}
    (h : doc ≠ .null) : nullable reader levels doc = (reader levels doc).map some := by
  cases doc with
  | null => exact absurd rfl h
  | _ => rfl

@[simp] theorem nullable_string_document (levels : Nat) (s : String) :
    nullable string levels (Value.string s).document = some (some s) := by
  show (string levels (Value.string s).document).map some = _
  rw [string_document, Option.map_some]

@[simp] theorem nullable_string_ofOption (levels : Nat) (s : Option String) :
    nullable string levels (Value.ofOption s).document = some s := by
  cases s with
  | none => rfl
  | some s => exact nullable_string_document levels s

/-- A list whose items are read back is read back. -/
theorem list_document {α : Type} {reader : Reader α} {toJson : α → Value} {levels : Nat}
    {xs : List α} (h : ∀ x ∈ xs, reader levels (toJson x).document = some x) :
    list reader (levels + 1) (Value.array (xs.map toJson)).document = some xs := by
  have hitems : ∀ ys : List α, (∀ y ∈ ys, reader levels (toJson y).document = some y) →
      (Value.documents (ys.map toJson)).mapM (reader levels) = some ys := by
    intro ys
    induction ys with
    | nil => intro _; rfl
    | cons y ys ih =>
      intro hys
      rw [List.map_cons, Value.documents, List.mapM_cons, hys y List.mem_cons_self,
        ih fun z hz => hys z (List.mem_cons_of_mem y hz)]
      rfl
  rw [Value.document, list, if_neg (Nat.succ_ne_zero levels)]
  exact hitems xs h

/-! ### Maps -/

/-- A member of a map. -/
def member {α : Type} (reader : Reader α) (levels : Nat) (entry : List Piece × Document) :
    Option (String × α) := do
  return (← Document.text? entry.1, ← reader levels entry.2)

theorem map_object {α : Type} (reader : Reader α) (levels : Nat)
    (members : List (List Piece × Document)) : map reader (levels + 1) (.object members) =
      (members.mapM (member reader levels)).map Keyed.sort := by
  rw [map, if_neg (Nat.succ_ne_zero levels)]
  rfl

/-- The members that are read have the keys that were written. -/
theorem mapM_member {α : Type} {reader : Reader α} {toJson : α → Value} {levels : Nat} :
    ∀ {entries read : Keyed α},
      (Value.memberDocuments (entries.mapValues toJson)).mapM (member reader levels) = some read →
      read.map Prod.fst = entries.map Prod.fst
  | [], _, h => by
    obtain rfl := Option.some.inj h
    rfl
  | (k, x) :: entries, read, h => by
    rw [Keyed.mapValues, List.map_cons, Value.memberDocuments, List.mapM_cons] at h
    obtain ⟨entry, hentry, h⟩ := Option.bind_eq_some_iff.mp h
    obtain ⟨rest, hrest, h⟩ := Option.bind_eq_some_iff.mp h
    obtain rfl := Option.some.inj h
    obtain ⟨key, hkey, hentry⟩ := Option.bind_eq_some_iff.mp hentry
    obtain ⟨y, -, hentry⟩ := Option.bind_eq_some_iff.mp hentry
    obtain rfl := Option.some.inj hentry
    obtain rfl := Option.some.inj ((Document.text?_pieces k).symm.trans hkey)
    rw [List.map_cons, List.map_cons, mapM_member hrest]

theorem mapM_member_iff {α : Type} {reader : Reader α} {toJson : α → Value} {levels : Nat} :
    ∀ {entries : Keyed α},
      (Value.memberDocuments (entries.mapValues toJson)).mapM (member reader levels) =
        some entries ↔ ∀ entry ∈ entries, reader levels (toJson entry.2).document = some entry.2
  | [] => by simp [Keyed.mapValues, Value.memberDocuments]
  | (k, x) :: entries => by
    rw [List.forall_mem_cons, ← mapM_member_iff, Keyed.mapValues, List.map_cons,
      Value.memberDocuments, List.mapM_cons]
    simp [member, Option.bind_eq_some_iff, Keyed.mapValues]

/-- A map with its keys in order is read back when its values are. -/
theorem map_document {α : Type} {reader : Reader α} {toJson : α → Value} {levels : Nat}
    {entries : Keyed α} (h : entries.Sorted) :
    map reader (levels + 1) (Value.object (entries.mapValues toJson)).document = some entries ↔
      ∀ entry ∈ entries, reader levels (toJson entry.2).document = some entry.2 := by
  rw [Value.document, map_object, ← mapM_member_iff, Option.map_eq_some_iff]
  constructor
  · rintro ⟨read, hread, hsort⟩
    -- the keys that were read are in order, so sorting has changed nothing
    have hsorted : read.Sorted := by
      unfold Keyed.Sorted
      rw [mapM_member hread]
      exact h
    rw [Keyed.sort_eq_self hsorted] at hsort
    exact hsort ▸ hread
  · intro hread
    exact ⟨entries, hread, Keyed.sort_eq_self h⟩

/-- A map is read back in order, whatever the order in which it is written. -/
theorem map_document_of_perm {α : Type} {reader : Reader α} {toJson : α → Value} {levels : Nat}
    {entries sorted : Keyed α} (hsorted : sorted.Sorted) (hperm : entries.Perm sorted)
    (h : ∀ entry ∈ sorted, reader levels (toJson entry.2).document = some entry.2) :
    map reader (levels + 1) (Value.object (entries.mapValues toJson)).document = some sorted := by
  have hnodup : (entries.map Prod.fst).Nodup := by
    rw [(hperm.map Prod.fst).nodup_iff]
    exact hsorted.imp fun hlt => String.ne_of_lt hlt
  have hsort : Keyed.sort entries = sorted :=
    Keyed.eq_of_perm (Keyed.sorted_sort entries) hsorted ((Keyed.perm_sort hnodup).trans hperm)
  rw [Value.document, map_object, Option.map_eq_some_iff]
  refine ⟨entries, mapM_member_iff.mpr ?_, hsort⟩
  intro entry hentry
  exact h entry (hperm.mem_iff.mp hentry)

/-- Every result of reading the members of a list comes from one of them. -/
theorem exists_of_mem_mapM {α β : Type} {f : α → Option β} : ∀ {xs : List α} {ys : List β},
    xs.mapM f = some ys → ∀ y ∈ ys, ∃ x ∈ xs, f x = some y
  | [], _, h, y, hy => by
    obtain rfl := Option.some.inj h
    exact absurd hy List.not_mem_nil
  | x :: xs, _, h, y, hy => by
    rw [List.mapM_cons] at h
    obtain ⟨z, hz, h⟩ := Option.bind_eq_some_iff.mp h
    obtain ⟨zs, hzs, h⟩ := Option.bind_eq_some_iff.mp h
    obtain rfl := Option.some.inj h
    rcases List.mem_cons.mp hy with rfl | hy
    · exact ⟨x, List.mem_cons_self, hz⟩
    · obtain ⟨w, hw, hy⟩ := exists_of_mem_mapM hzs y hy
      exact ⟨w, List.mem_cons_of_mem x hw, hy⟩

/-- A map that was read has its keys in order, and each value was read by the reader, one level
further down. -/
theorem sorted_of_map {α : Type} {reader : Reader α} {levels : Nat} {doc : Document}
    {entries : Keyed α} (h : map reader levels doc = some entries) :
    entries.Sorted ∧ ∀ entry ∈ entries, ∃ d, reader (levels - 1) d = some entry.2 := by
  -- only an object is read as a map
  obtain ⟨members, rfl⟩ : ∃ members, doc = .object members := by
    cases doc with
    | object members => exact ⟨members, rfl⟩
    | _ => cases h
  cases levels with
  | zero => cases h
  | succ levels =>
    rw [map_object] at h
    obtain ⟨read, hread, rfl⟩ := Option.map_eq_some_iff.mp h
    refine ⟨Keyed.sorted_sort read, fun entry hentry => ?_⟩
    -- sorting keeps of each key the value that was read last
    have hmem := List.mem_reverse.mp (Keyed.mem_of_find? (Keyed.mem_sort.mp hentry))
    obtain ⟨m, -, hm⟩ := exists_of_mem_mapM hread entry hmem
    obtain ⟨key, -, hm⟩ := Option.bind_eq_some_iff.mp hm
    obtain ⟨x, hx, hm⟩ := Option.bind_eq_some_iff.mp hm
    obtain rfl := Option.some.inj hm
    exact ⟨m.2, hx⟩

end Reader

end Json
end QueryGateway
