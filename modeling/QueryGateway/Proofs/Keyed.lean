import QueryGateway.Keyed

/-!
# Sorted keyed lists

A keyed list is read by its first pair of a key, and sorting keeps the last one.  So a sorted list
is determined by what is found in it, and sorting a sorted list changes nothing.

## Main definitions

* `Keyed.last?` — the value of a key that counts when keys may be repeated: the last one given.

## Main results

* `Keyed.sorted_sort` — sorting gives keys that ascend strictly.
* `Keyed.find?_sort` — what is found in a sorted list is what was given last.
* `Keyed.mem_sort` — the pairs of a sorted list.
* `Keyed.sort_eq_self` — a sorted list is not changed by sorting.
* `Keyed.sort_eq_sort_iff` — lists without repeated keys and with the same pairs are sorted alike.
* `Keyed.mapValues_sort_eq` — what the values of a sorted list depend on.
* `Keyed.eq_of_nodup_filterMap` — elements are told apart by their keys.
-/

namespace QueryGateway
namespace Keyed

variable {α β : Type}

/-- The value of a key that counts when keys may be repeated: the last one given. -/
def last? (key : String) (entries : Keyed α) : Option α := find? key entries.reverse

@[simp] theorem last?_nil (key : String) : last? key ([] : Keyed α) = none := rfl

/-! ### Looking keys up -/

theorem find?_cons (key k : String) (v : α) (rest : Keyed α) :
    find? key ((k, v) :: rest) = if key = k then some v else find? key rest := by
  unfold find?
  rw [List.lookup_cons]
  by_cases h : key = k
  · simp [h]
  · rw [if_neg h, beq_eq_false_iff_ne.mpr h]

theorem mem_of_find? {key : String} {value : α} {entries : Keyed α}
    (h : find? key entries = some value) : (key, value) ∈ entries := by
  induction entries with
  | nil => simp at h
  | cons entry rest ih =>
    obtain ⟨k, v⟩ := entry
    rw [find?_cons] at h
    split at h
    · next hk =>
      obtain rfl := Option.some.inj h
      exact hk ▸ List.mem_cons_self
    · exact List.mem_cons_of_mem _ (ih h)

/-! ### Erasing -/

theorem find?_erase (key k : String) (entries : Keyed α) :
    find? key (erase k entries) = if key = k then none else find? key entries := by
  induction entries with
  | nil => simp [erase]
  | cons entry rest ih =>
    obtain ⟨k', v⟩ := entry
    unfold erase at ih ⊢
    rw [List.filter_cons, find?_cons]
    by_cases hk : k' = k
    · subst hk
      rw [if_neg (by simp), ih]
      split <;> rfl
    · rw [if_pos (by simpa using hk), find?_cons, ih]
      by_cases hkey : key = k'
      · rw [if_pos hkey, if_pos hkey, if_neg (hkey ▸ hk)]
      · rw [if_neg hkey, if_neg hkey]

/-! ### Insertion -/

@[simp] theorem find?_insert (key k : String) (v : α) (entries : Keyed α) :
    find? key (insert k v entries) = if key = k then some v else find? key entries := by
  induction entries with
  | nil => simp [insert, find?_cons]
  | cons entry rest ih =>
    obtain ⟨k', v'⟩ := entry
    unfold insert
    split
    · rw [find?_cons]
    · split
      · next hk =>
        subst hk
        rw [find?_cons, find?_cons]
        split <;> rfl
      · next hk =>
        rw [find?_cons, find?_cons, ih]
        -- the two keys differ, so at most one of the tests holds
        by_cases h : key = k'
        · have : key ≠ k := fun e => hk (e.symm.trans h)
          simp [h, Ne.symm hk]
        · simp [h]

theorem mem_keys_insert {key k : String} {v : α} {entries : Keyed α}
    (h : key ∈ (insert k v entries).map Prod.fst) : key = k ∨ key ∈ entries.map Prod.fst := by
  induction entries with
  | nil => simpa [insert] using h
  | cons entry rest ih =>
    obtain ⟨k', v'⟩ := entry
    unfold insert at h
    split at h
    · simpa using h
    · split at h
      · simp only [List.map_cons, List.mem_cons] at h ⊢
        rcases h with h | h
        · exact Or.inl h
        · exact Or.inr (Or.inr h)
      · simp only [List.map_cons, List.mem_cons] at h ⊢
        rcases h with h | h
        · exact Or.inr (Or.inl h)
        · exact (ih h).imp id Or.inr

theorem sorted_cons {k : String} {v : α} {rest : Keyed α} :
    Sorted ((k, v) :: rest) ↔ (∀ key ∈ rest.map Prod.fst, k < key) ∧ Sorted rest := by
  unfold Sorted
  rw [List.map_cons, List.pairwise_cons]

theorem sorted_insert {entries : Keyed α} (h : Sorted entries) (k : String) (v : α) :
    Sorted (insert k v entries) := by
  induction entries with
  | nil => simp [insert, Sorted]
  | cons entry rest ih =>
    obtain ⟨k', v'⟩ := entry
    obtain ⟨hfirst, hrest⟩ := sorted_cons.mp h
    unfold insert
    split
    · next hlt =>
      refine sorted_cons.mpr ⟨fun key hkey => ?_, h⟩
      rw [List.map_cons, List.mem_cons] at hkey
      rcases hkey with rfl | hkey
      · exact hlt
      · exact String.lt_trans hlt (hfirst key hkey)
    · next hge =>
      split
      · next hk => exact sorted_cons.mpr ⟨hk ▸ hfirst, hrest⟩
      · next hk =>
        refine sorted_cons.mpr ⟨fun key hkey => ?_, ih hrest⟩
        rcases mem_keys_insert hkey with rfl | hkey
        · rcases String.le_total k' key with hle | hle
          · -- not above and not equal
            exact Decidable.byContradiction fun hn => hk (String.le_antisymm hn hle)
          · exact absurd (Decidable.byContradiction fun hn => hk (String.le_antisymm hle hn)) hge
        · exact hfirst key hkey

/-! ### Sorting -/

theorem sorted_foldl_insert (entries : Keyed α) : ∀ {sorted : Keyed α}, Sorted sorted →
    Sorted (entries.foldl (fun sorted (k, v) => insert k v sorted) sorted) := by
  induction entries with
  | nil => intro sorted h; exact h
  | cons entry rest ih => intro sorted h; exact ih (sorted_insert h entry.1 entry.2)

/-- Sorting gives keys that ascend strictly. -/
theorem sorted_sort (entries : Keyed α) : Sorted (sort entries) :=
  sorted_foldl_insert entries (by simp [Sorted])

theorem find?_foldl_insert (key : String) (entries : Keyed α) : ∀ sorted : Keyed α,
    find? key (entries.foldl (fun sorted (k, v) => insert k v sorted) sorted) =
      (last? key entries).or (find? key sorted) := by
  induction entries with
  | nil => intro sorted; simp
  | cons entry rest ih =>
    intro sorted
    rw [List.foldl_cons, ih]
    unfold last? find?
    rw [List.reverse_cons, List.lookup_append]
    have single : List.lookup key [entry] = if key = entry.1 then some entry.2 else none :=
      find?_cons key entry.1 entry.2 []
    have inserted := find?_insert key entry.1 entry.2 sorted
    unfold find? at inserted
    rw [inserted, single]
    cases List.lookup key rest.reverse with
    | some value => rfl
    | none => split <;> rfl

/-- What is found after sorting is what was given last. -/
@[simp] theorem find?_sort (key : String) (entries : Keyed α) :
    find? key (sort entries) = last? key entries := by
  unfold sort
  rw [find?_foldl_insert]
  simp

/-- In a sorted list every pair can be found. -/
theorem find?_eq_some_iff {entries : Keyed α} (h : Sorted entries) {key : String} {value : α} :
    find? key entries = some value ↔ (key, value) ∈ entries := by
  refine ⟨mem_of_find?, ?_⟩
  induction entries with
  | nil => simp
  | cons entry rest ih =>
    obtain ⟨k, v⟩ := entry
    obtain ⟨hfirst, hrest⟩ := sorted_cons.mp h
    intro hmem
    rw [find?_cons]
    rcases List.mem_cons.mp hmem with hmem | hmem
    · obtain ⟨rfl, rfl⟩ := Prod.mk.inj hmem
      simp
    · have hlt := hfirst key (List.mem_map_of_mem hmem)
      rw [if_neg (String.ne_of_lt hlt).symm]
      exact ih hrest hmem

/-- The pairs after sorting: each key with the value given last. -/
theorem mem_sort {entries : Keyed α} {key : String} {value : α} :
    (key, value) ∈ sort entries ↔ last? key entries = some value := by
  rw [← find?_eq_some_iff (sorted_sort entries), find?_sort]

/-- A key can be found just when it is there. -/
theorem exists_find?_iff {key : String} {entries : Keyed α} :
    (∃ value, find? key entries = some value) ↔ key ∈ entries.map Prod.fst := by
  induction entries with
  | nil => simp
  | cons entry rest ih =>
    obtain ⟨k, v⟩ := entry
    rw [find?_cons, List.map_cons, List.mem_cons]
    by_cases h : key = k
    · simp [h]
    · rw [if_neg h, ih, or_iff_right h]

/-- Sorting keeps the keys. -/
theorem mem_keys_sort {key : String} {entries : Keyed α} :
    key ∈ (sort entries).map Prod.fst ↔ key ∈ entries.map Prod.fst := by
  rw [← exists_find?_iff, find?_sort]
  unfold last?
  rw [exists_find?_iff, List.map_reverse, List.mem_reverse]

theorem insert_of_lt {k : String} {v : α} : ∀ {entries : Keyed α},
    (∀ key ∈ entries.map Prod.fst, key < k) → insert k v entries = entries ++ [(k, v)]
  | [], _ => rfl
  | (k', v') :: rest, h => by
    have hlt : k' < k := h k' (by simp)
    have hrest : ∀ key ∈ rest.map Prod.fst, key < k := fun key hkey => h key (by simp [hkey])
    unfold insert
    rw [if_neg (String.lt_asymm hlt), if_neg (String.ne_of_lt hlt).symm, insert_of_lt hrest,
      List.cons_append]

/-- A sorted list is not changed by sorting. -/
theorem sort_eq_self {entries : Keyed α} (h : Sorted entries) : sort entries = entries := by
  -- what is inserted next is above all that is there
  have key : ∀ rest done : Keyed α, Sorted (done ++ rest) →
      rest.foldl (fun sorted (k, v) => insert k v sorted) done = done ++ rest := by
    intro rest
    induction rest with
    | nil => intro done _; simp
    | cons entry rest ih =>
      intro done hs
      obtain ⟨k, v⟩ := entry
      have hbelow : ∀ key ∈ done.map Prod.fst, key < k := by
        unfold Sorted at hs
        rw [List.map_append, List.pairwise_append] at hs
        exact fun key hkey => hs.2.2 key hkey k (by simp)
      have hs' : Sorted ((done ++ [(k, v)]) ++ rest) := by simpa using hs
      rw [List.foldl_cons]
      show rest.foldl _ (insert k v done) = _
      rw [insert_of_lt hbelow, ih _ hs', List.append_assoc]
      rfl
  exact key entries [] h

/-! ### Equality of sorted lists -/

theorem nodup_of_sorted {entries : Keyed α} (h : Sorted entries) : entries.Nodup :=
  (List.pairwise_map.mp h).imp fun hlt heq => absurd (heq ▸ hlt) (String.lt_irrefl _)

theorem eq_of_perm {xs ys : Keyed α} (hx : Sorted xs) (hy : Sorted ys) (h : xs.Perm ys) :
    xs = ys := by
  have hx' : xs.Pairwise fun a b => a.1 < b.1 := List.pairwise_map.mp hx
  have hy' : ys.Pairwise fun a b => a.1 < b.1 := List.pairwise_map.mp hy
  exact h.eq_of_pairwise (fun _ _ _ _ hlt hgt => absurd hlt (String.lt_asymm hgt)) hx' hy'

/-- A sorted list is determined by what is found in it. -/
theorem ext_find? {xs ys : Keyed α} (hx : Sorted xs) (hy : Sorted ys)
    (h : ∀ key, find? key xs = find? key ys) : xs = ys := by
  refine eq_of_perm hx hy ((List.perm_ext_iff_of_nodup (nodup_of_sorted hx)
    (nodup_of_sorted hy)).mpr ?_)
  intro (key, value)
  rw [← find?_eq_some_iff hx, h key, find?_eq_some_iff hy]

theorem perm_insert {k : String} {v : α} {entries : Keyed α}
    (h : k ∉ entries.map Prod.fst) : (insert k v entries).Perm ((k, v) :: entries) := by
  induction entries with
  | nil => exact List.Perm.refl _
  | cons entry rest ih =>
    obtain ⟨k', v'⟩ := entry
    rw [List.map_cons, List.mem_cons, not_or] at h
    unfold insert
    rw [if_neg h.1]
    split
    · exact List.Perm.refl _
    · exact ((ih h.2).cons _).trans (List.Perm.swap _ _ _)

/-- Sorting keeps the pairs when no key is repeated. -/
theorem perm_sort {entries : Keyed α} (h : (entries.map Prod.fst).Nodup) :
    (sort entries).Perm entries := by
  -- what is inserted next is not there yet
  have key : ∀ rest done : Keyed α, ((done ++ rest).map Prod.fst).Nodup →
      (rest.foldl (fun sorted (k, v) => insert k v sorted) done).Perm (done ++ rest) := by
    intro rest
    induction rest with
    | nil => intro done _; simp
    | cons entry rest ih =>
      intro done hnodup
      have hmiddle : (done ++ entry :: rest).Perm (entry :: (done ++ rest)) := List.perm_middle
      have hnodup' := ((hmiddle.map Prod.fst).nodup_iff).mp hnodup
      rw [List.map_cons, List.nodup_cons, List.map_append, List.mem_append, not_or] at hnodup'
      have hinsert := perm_insert (v := entry.2) hnodup'.1.1
      have happend := hinsert.append_right rest
      refine (ih _ ?_).trans (happend.trans hmiddle.symm)
      rw [((happend.trans hmiddle.symm).map Prod.fst).nodup_iff]
      exact hnodup
  exact key entries [] h

/-- Two maps are sorted alike just when they have the same pairs, in whatever order. -/
theorem sort_eq_sort_iff {xs ys : Keyed α} (hx : (xs.map Prod.fst).Nodup)
    (hy : (ys.map Prod.fst).Nodup) : sort xs = sort ys ↔ xs.Perm ys := by
  constructor
  · intro h
    exact (perm_sort hx).symm.trans (h ▸ perm_sort hy)
  · intro h
    exact eq_of_perm (sorted_sort xs) (sorted_sort ys)
      ((perm_sort hx).trans (h.trans (perm_sort hy).symm))

/-! ### Values -/

theorem find?_mapValues (key : String) (f : α → β) (entries : Keyed α) :
    find? key (mapValues f entries) = (find? key entries).map f := by
  induction entries with
  | nil => rfl
  | cons entry rest ih =>
    show find? key ((entry.1, f entry.2) :: mapValues f rest) = _
    rw [find?_cons, ih, find?_cons]
    split <;> rfl

/-- Leaving out the keys without a value changes no look-up. -/
theorem find?_filterMap (entries : Keyed (Option α)) (h : (entries.map Prod.fst).Nodup)
    (key : String) : find? key (entries.filterMap fun entry => entry.2.map (entry.1, ·)) =
      (find? key entries).join := by
  induction entries with
  | nil => rfl
  | cons entry rest ih =>
    obtain ⟨k, v⟩ := entry
    rw [List.map_cons, List.nodup_cons] at h
    have ih := ih h.2
    cases v with
    | none =>
      rw [List.filterMap_cons_none rfl, ih, find?_cons]
      split
      · next hkey =>
        -- the key is not among the others
        cases hrest : find? key rest with
        | none => rfl
        | some w =>
          have hmem := List.mem_map_of_mem (f := Prod.fst) (mem_of_find? hrest)
          rw [hkey] at hmem
          exact absurd hmem h.1
      · rfl
    | some v =>
      show find? key ((k, v) :: rest.filterMap _) = _
      rw [find?_cons, find?_cons, ih]
      split <;> rfl

theorem sorted_mapValues {entries : Keyed α} (h : Sorted entries) (f : α → β) :
    Sorted (mapValues f entries) := by
  unfold Sorted mapValues
  rw [List.map_map]
  exact h

/-- Sorted lists have the same values under a function when those that count do. -/
theorem mapValues_sort_eq {xs ys : Keyed α} {f : α → β}
    (h : ∀ key, (last? key xs).map f = (last? key ys).map f) :
    mapValues f (sort xs) = mapValues f (sort ys) := by
  refine ext_find? (sorted_mapValues (sorted_sort xs) f) (sorted_mapValues (sorted_sort ys) f) ?_
  intro key
  rw [find?_mapValues, find?_mapValues, find?_sort, find?_sort, h key]

/-! ### Elements with keys -/

/-- Where no key is repeated, elements with the same key are the same. -/
theorem eq_of_nodup_filterMap {key? : α → Option β} {xs : List α} (h : (xs.filterMap key?).Nodup)
    {x y : α} {key : β} (hx : x ∈ xs) (hy : y ∈ xs) (hkx : key? x = some key)
    (hky : key? y = some key) : x = y := by
  have hne := List.pairwise_filterMap.mp h
  refine List.Pairwise.forall_of_forall_of_flip (l := xs)
    (R := fun x y => key? x = some key → key? y = some key → x = y) (fun _ _ _ _ => rfl) ?_ ?_
    hx hy hkx hky
  · exact hne.imp fun hxy hkx hky => absurd rfl (hxy _ hkx _ hky)
  · exact hne.imp fun hxy hkx hky => absurd rfl (hxy _ hky _ hkx)

end Keyed
end QueryGateway
