import QueryGateway.Job.Store

/-!
# Records in a job store

A change of one record is found under its id, and under no other.

## Main definitions

* `JobStore.Unfinished` — there is a job with an id, and it is not over.
* `Transition.ends` — the transitions after which a job is over.

## Main results

* `JobStore.find?_of_update` — what is found after a change.
* `JobStore.find?_of_insert` — what is found after a record was added.
* `Transition.exists_apply_ne` — a job that is over does not stay the same in any transition.
-/

namespace QueryGateway

namespace JobStore

theorem id_of_find? {store : JobStore} {id : String} {job : Job} (h : store.find? id = some job) :
    job.id = id := by
  have := List.find?_some h
  simpa using this

/-- A record that is there can be changed. -/
theorem update_of_find? {store : JobStore} {id : String} {job : Job}
    (h : store.find? id = some job) (u : JobUpdate) :
    ∃ store', store.update id u = .ok (u.apply job, store') := by
  unfold update
  rw [h]
  exact ⟨_, rfl⟩

/-- What is found after a change: the changed record under its id, and the other records as they
were. -/
theorem find?_of_update {store store' : JobStore} {id : String} {u : JobUpdate} {job : Job}
    (h : store.update id u = .ok (job, store')) (key : String) :
    store'.find? key = if key = id then some job else store.find? key := by
  unfold update at h
  split at h
  · cases h
  · next old hold =>
    obtain ⟨rfl, rfl⟩ := Prod.mk.inj (Except.ok.inj h)
    -- a change keeps the id, so the same record is found as before
    have hkeys : (fun other : Job => decide (other.id = key)) ∘
        (fun other => if other.id = id then u.apply other else other) =
        fun other => decide (other.id = key) := by
      funext other
      dsimp only [Function.comp]
      split <;> rfl
    unfold find?
    rw [List.find?_map, hkeys]
    split
    · next hkey =>
      subst hkey
      have hfound : List.find? (fun other : Job => decide (other.id = key)) store = some old := hold
      rw [hfound, Option.map_some, if_pos (id_of_find? hold)]
    · next hkey =>
      have hother : ∀ other, List.find? (fun other : Job => decide (other.id = key)) store =
          some other → other.id ≠ id := by
        intro other hother heq
        exact hkey ((id_of_find? hother).symm.trans heq)
      cases hfind : List.find? (fun other : Job => decide (other.id = key)) store with
      | none => rfl
      | some other => rw [Option.map_some, if_neg (hother other hfind)]

/-- A record is added at the end, and its id is new. -/
theorem eq_append_of_insert {store store' : JobStore} {job : Job}
    (h : store.insert job = .ok store') : store.find? job.id = none ∧ store' = store ++ [job] := by
  unfold insert at h
  split at h
  · cases h
  · next hnone => exact ⟨hnone, (Except.ok.inj h).symm⟩

/-- What is found after a record was added: it under its id, which was new, and the other records as
they were. -/
theorem find?_of_insert {store store' : JobStore} {job : Job} (h : store.insert job = .ok store') :
    store.find? job.id = none ∧
      ∀ key, store'.find? key = if key = job.id then some job else store.find? key := by
  obtain ⟨hnone, rfl⟩ := eq_append_of_insert h
  refine ⟨hnone, fun key => ?_⟩
  show List.find? _ (store ++ [job]) = _
  rw [List.find?_append]
  by_cases hkey : key = job.id
  · rw [if_pos hkey, hkey]
    have hfound : List.find? (fun other : Job => decide (other.id = job.id)) store = none := hnone
    simp [hfound]
  · rw [if_neg hkey]
    simp [Ne.symm hkey, find?]

theorem insert_of_new {store : JobStore} {job : Job} (h : store.find? job.id = none) :
    store.insert job = .ok (store ++ [job]) := by
  unfold insert
  rw [h]

/-- A change of the record that was added last leaves those before it alone. -/
theorem update_append_of_new {store : JobStore} {job : Job} (h : store.find? job.id = none)
    (u : JobUpdate) :
    JobStore.update (store ++ [job]) job.id u = .ok (u.apply job, store ++ [u.apply job]) := by
  have hfind := (find?_of_insert (insert_of_new h)).2 job.id
  rw [if_pos rfl] at hfind
  have hothers : store.map (fun other => if other.id = job.id then u.apply other else other) =
      store := by
    refine (List.map_congr_left fun other hother => if_neg ?_).trans (List.map_id' store)
    have hne := List.find?_eq_none.mp h other hother
    simpa using hne
  unfold update
  rw [hfind]
  simp [hothers]

/-- There is a job with an id, and it is not over. -/
def Unfinished (store : JobStore) (id : String) : Prop :=
  ∃ job, store.find? id = some job ∧ job.status.isTerminal = false

theorem unfinished_congr {store store' : JobStore} {id : String}
    (h : store'.find? id = store.find? id) : store'.Unfinished id ↔ store.Unfinished id := by
  unfold Unfinished
  rw [h]

theorem unfinished_iff {store : JobStore} {id : String} {job : Job}
    (h : store.find? id = some job) : store.Unfinished id ↔ job.status.isTerminal = false := by
  constructor
  · rintro ⟨other, hother, hgoes⟩
    obtain rfl := Option.some.inj (h.symm.trans hother)
    exact hgoes
  · intro hgoes
    exact ⟨job, h, hgoes⟩

end JobStore

/-- Whether a job is over after a transition. -/
def Transition.ends : Transition → Bool
  | .run | .retry _ => false
  | .succeed _ _ | .fail _ _ => true

@[simp] theorem Transition.isTerminal_status_update (t : Transition) (now : Instant) :
    (t.update now).status.isTerminal = t.ends := by
  cases t <;> rfl

/-- A job that is over does not stay the same in any transition, at one instant or another. -/
theorem Transition.exists_apply_ne (t : Transition) {job : Job}
    (h : job.status.isTerminal = true) : ∃ now, (t.update now).apply job ≠ job := by
  -- a job that is over keeps its status only if it is finished anew
  have hfinished : ∃ now : Instant, some now ≠ job.finishedAt := by
    by_cases hepoch : job.finishedAt = some .epoch
    · refine ⟨⟨1, 0⟩, ?_⟩
      rw [hepoch]
      decide
    · exact ⟨.epoch, Ne.symm hepoch⟩
  obtain ⟨now, hnow⟩ := hfinished
  refine ⟨now, fun heq => ?_⟩
  cases t with
  | run =>
    have hstatus : JobStatus.running = job.status := congrArg Job.status heq
    rw [← hstatus] at h
    cases h
  | retry error =>
    have hstatus : JobStatus.queued = job.status := congrArg Job.status heq
    rw [← hstatus] at h
    cases h
  | succeed rows tookMs => exact hnow (congrArg Job.finishedAt heq)
  | fail error tookMs => exact hnow (congrArg Job.finishedAt heq)

end QueryGateway
