import QueryGateway.Proofs.Keyed
import QueryGateway.Service.Connectors

/-!
# Connectors that are opened and closed

A connector is for one data source as long as the gateway runs, and one that has closed stays
closed.

## Main definitions

* `Connectors.source?` — the name of the data source of a connector.
* `Connectors.Precedes` — connectors at one time, and at a later one.

## Main results

* `Connectors.get?_add`, `Connectors.get?_close` — the connectors after a change.
* `Connectors.precedes_add`, `Connectors.precedes_close` — what a change leaves as it is.
-/

namespace QueryGateway.Connectors

variable {cs cs' : Connectors} {c c' : ConnectorId} {name : String}

/-- The name of the data source of a connector. -/
def source? (cs : Connectors) (c : ConnectorId) : Option String :=
  (cs.get? c).map Connector.source

/-! ### One connector -/

@[simp] theorem get?_zero : cs.get? 0 = none := rfl

@[simp] theorem get?_succ (n : Nat) : cs.get? (n + 1) = cs.opened[n]? := rfl

theorem isOpen_iff : cs.isOpen c = true ↔ ∃ k, cs.get? c = some k ∧ k.isClosed = false := by
  unfold isOpen
  cases cs.get? c <;> simp

theorem inUse?_eq_some : cs.inUse? name = some c ↔
    Keyed.find? name cs.cache = some c ∧ cs.isOpen c = true := by
  unfold inUse?
  exact Option.filter_eq_some_iff

/-- Nothing is in use for a data source whose connector has closed. -/
theorem isOpen_of_inUse?_eq_none (h : cs.inUse? name = none)
    (hfind : Keyed.find? name cs.cache = some c) : cs.isOpen c = false := by
  unfold inUse? at h
  rw [hfind] at h
  simpa using h

/-! ### The connectors after a change -/

theorem get?_add : (cs.add name).2.get? c =
    if c = (cs.add name).1 then some { source := name } else cs.get? c := by
  cases c with
  | zero => rfl
  | succ n =>
    have hconcat : (cs.opened ++ [{ source := name }])[n]? =
        if n = cs.opened.length then some { source := name } else cs.opened[n]? := by grind
    simpa [add] using hconcat

theorem get?_close : (cs.close c).get? c' =
    if c' = c then (cs.get? c').map fun k => { k with isClosed := true } else cs.get? c' := by
  unfold close
  cases c with
  | zero =>
    rw [if_pos rfl]
    split
    · next h =>
      rw [h]
      rfl
    · rfl
  | succ n =>
    rw [if_neg (Nat.succ_ne_zero n)]
    cases c' with
    | zero => rfl
    | succ m =>
      by_cases h : m = n
      · simp [h]
      · simp [h, Ne.symm h]

theorem source?_add : (cs.add name).2.source? c =
    if c = (cs.add name).1 then some name else cs.source? c := by
  unfold source?
  rw [get?_add]
  split <;> rfl

theorem source?_add_self : cs.source? (cs.add name).1 = none := by
  simp [source?, add]

theorem isOpen_add (h : (cs.add name).2.isOpen c = true) :
    c = (cs.add name).1 ∨ cs.isOpen c = true := by
  rw [isOpen_iff, get?_add] at h
  split at h
  · next hnew => exact Or.inl hnew
  · exact Or.inr (isOpen_iff.mpr h)

@[simp] theorem source?_close : (cs.close c).source? c' = cs.source? c' := by
  unfold source?
  rw [get?_close]
  split
  · rw [Option.map_map]
    rfl
  · rfl

theorem isOpen_close : (cs.close c).isOpen c' = true ↔ c' ≠ c ∧ cs.isOpen c' = true := by
  rw [isOpen_iff, isOpen_iff, get?_close]
  by_cases h : c' = c <;> simp [h]

@[simp] theorem cache_close : (cs.close c).cache = cs.cache := by
  unfold close
  split <;> rfl

/-! ### What stays as it is -/

/-- A connector keeps its data source and stays closed when it has closed. -/
structure Precedes (cs cs' : Connectors) : Prop where
  source {c : ConnectorId} {name : String} : cs.source? c = some name → cs'.source? c = some name
  closed {c : ConnectorId} : (cs.source? c).isSome = true → cs.isOpen c = false →
    cs'.isOpen c = false

theorem Precedes.isSome (h : Precedes cs cs') (hc : (cs.source? c).isSome = true) :
    (cs'.source? c).isSome = true := by
  obtain ⟨name, hname⟩ := Option.isSome_iff_exists.mp hc
  rw [h.source hname]
  rfl

/-- Putting connectors in use or out of use leaves them as they are. -/
theorem precedes_of_opened (h : cs'.opened = cs.opened) : Precedes cs cs' := by
  obtain ⟨opened, cache⟩ := cs
  obtain ⟨opened', cache'⟩ := cs'
  obtain rfl : opened' = opened := h
  exact ⟨id, fun _ => id⟩

theorem precedes_add : Precedes cs (cs.add name).2 where
  source {c name'} h := by
    rw [source?_add]
    split
    · next hnew =>
      rw [hnew, source?_add_self] at h
      cases h
    · exact h
  closed {c} hknown hclosed := by
    refine Bool.eq_false_iff.mpr fun hopen => ?_
    rcases isOpen_add hopen with rfl | hopen
    · rw [source?_add_self] at hknown
      cases hknown
    · rw [hclosed] at hopen
      cases hopen

theorem precedes_close : Precedes cs (cs.close c) where
  source h := source?_close.trans h
  closed _ hclosed := by
    refine Bool.eq_false_iff.mpr fun hopen => ?_
    rw [(isOpen_close.mp hopen).2] at hclosed
    cases hclosed

end QueryGateway.Connectors
