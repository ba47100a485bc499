import Mathlib.Data.List.Induction
import QueryGateway.Proofs.Job.Store

/-!
# The life of a job

A job is queued when it is made and then goes through transitions, in any order.  A transition sets
and clears just the fields that its status speaks of, whatever the record held before; so the record
always agrees with its status, and what the job was made with is never touched.

## Main definitions

* `StoreChange`, `JobStore.perform`, `JobStore.after` — changes of a job store, one after the other.
* `LifecycleCall` — a job is made, or goes through a transition.
* `Job.Consistent` — the fields of a record agree with its status.
* `Job.origin` — what a job was made with.

## Main results

* `JobStore.forall_mem_perform` — what a change keeps true of every record.
* `Transition.consistent_apply` — a record agrees with its status after any transition.
* `JobStore.lifecycle_consistent` — the records of a store in which jobs are made and marked.
-/

namespace QueryGateway

/-! ### Changes of a store -/

/-- A change that is asked of a job store. -/
inductive StoreChange
  | insert (job : Job)
  | update (id : String) (u : JobUpdate)

namespace JobStore

variable {store : JobStore}

/-- The answer to a change, and the store after it.  A change that fails leaves the store alone. -/
def perform (store : JobStore) : StoreChange → Except JobError Job × JobStore
  | .insert job =>
    match store.insert job with
    | .ok store' => (.ok job, store')
    | .error e => (.error e, store)
  | .update id u =>
    match store.update id u with
    | .ok (job, store') => (.ok job, store')
    | .error e => (.error e, store)

/-- The store after changes in turn. -/
def after (store : JobStore) (changes : List StoreChange) : JobStore :=
  changes.foldl (fun store change => (store.perform change).2) store

theorem after_append (store : JobStore) (changes more : List StoreChange) :
    store.after (changes ++ more) = (store.after changes).after more := by
  simp [after]

@[simp] theorem after_singleton (store : JobStore) (change : StoreChange) :
    store.after [change] = (store.perform change).2 := rfl

theorem find?_eq_none_iff {id : String} : store.find? id = none ↔ id ∉ store.map Job.id := by
  simp [find?]

/-- A job whose id is new is stored behind the others. -/
theorem perform_insert_of_new {job : Job} (h : store.find? job.id = none) :
    store.perform (.insert job) = (.ok job, store ++ [job]) := by
  simp [perform, insert, h]

/-- A job whose id is there already is refused. -/
theorem perform_insert_of_find? {job other : Job} (h : store.find? job.id = some other) :
    store.perform (.insert job) = (.error (.alreadyExists job.id), store) := by
  simp [perform, insert, h]

/-- A record that is not there cannot be changed. -/
theorem perform_update_of_missing {id : String} (h : store.find? id = none) (u : JobUpdate) :
    store.perform (.update id u) = (.error (.notFound id), store) := by
  simp [perform, update, h]

/-- A record that is there is changed in its place. -/
theorem perform_update_of_find? {id : String} {job : Job} (h : store.find? id = some job)
    (u : JobUpdate) : store.perform (.update id u) = (.ok (u.apply job),
      store.map fun other => if other.id = id then u.apply other else other) := by
  simp [perform, update, h]

/-- What an update keeps of every record is kept when it changes the record with an id. -/
theorem map_changed {α : Type} {f : Job → α} {u : JobUpdate} (hf : ∀ job, f (u.apply job) = f job)
    (store : JobStore) (id : String) :
    (store.map fun other => if other.id = id then u.apply other else other).map f =
      store.map f := by
  rw [List.map_map]
  refine List.map_congr_left fun job _ => ?_
  rw [Function.comp_apply]
  split
  · exact hf job
  · rfl

/-- What is true of every record stays true in a change, if it is true of a record that is added and
an update keeps it. -/
theorem forall_mem_perform {P : Job → Prop} {change : StoreChange} (hstore : ∀ job ∈ store, P job)
    (hinsert : ∀ job, change = .insert job → P job)
    (hupdate : ∀ id u job, change = .update id u → P job → P (u.apply job)) :
    ∀ job ∈ (store.perform change).2, P job := by
  cases change with
  | insert new =>
    cases hfind : store.find? new.id with
    | none =>
      rw [perform_insert_of_new hfind]
      intro job hjob
      rcases List.mem_append.mp hjob with hjob | hjob
      · exact hstore job hjob
      · obtain rfl := List.mem_singleton.mp hjob
        exact hinsert job rfl
    | some other =>
      rw [perform_insert_of_find? hfind]
      exact hstore
  | update id u =>
    cases hfind : store.find? id with
    | none =>
      rw [perform_update_of_missing hfind]
      exact hstore
    | some other =>
      rw [perform_update_of_find? hfind]
      intro job hjob
      obtain ⟨old, hold, rfl⟩ := List.mem_map.mp hjob
      split
      · exact hupdate id u old rfl (hstore old hold)
      · exact hstore old hold

end JobStore

/-! ### What a job was made with -/

/-- What a job was made with: its id, what was asked for, and when. -/
structure JobOrigin where
  id : String
  asked : NewJob
  createdAt : Instant
  deriving DecidableEq

/-- What a job was made with. -/
def Job.origin (job : Job) : JobOrigin where
  id := job.id
  asked := ⟨job.payloadHash, job.apiKey, job.dataSource, job.table⟩
  createdAt := job.createdAt

@[simp] theorem JobUpdate.origin_apply (u : JobUpdate) (job : Job) :
    (u.apply job).origin = job.origin := rfl

namespace JobStore

/-- A change adds at most one record and takes none away. -/
theorem map_origin_perform (store : JobStore) (change : StoreChange) :
    ∃ more, (store.perform change).2.map Job.origin = store.map Job.origin ++ more := by
  cases change with
  | insert new =>
    cases hfind : store.find? new.id with
    | none =>
      rw [perform_insert_of_new hfind]
      exact ⟨[new.origin], by simp⟩
    | some other =>
      rw [perform_insert_of_find? hfind]
      exact ⟨[], by simp⟩
  | update id u =>
    cases hfind : store.find? id with
    | none =>
      rw [perform_update_of_missing hfind]
      exact ⟨[], by simp⟩
    | some other =>
      rw [perform_update_of_find? hfind]
      exact ⟨[], by simp [map_changed u.origin_apply]⟩

/-- No record disappears, and none is given another origin. -/
theorem prefix_map_origin_after (store : JobStore) (changes : List StoreChange) :
    store.map Job.origin <+: (store.after changes).map Job.origin := by
  induction changes generalizing store with
  | nil => exact List.prefix_rfl
  | cons change changes ih =>
    obtain ⟨more, hmore⟩ := store.map_origin_perform change
    refine List.IsPrefix.trans ⟨more, hmore.symm⟩ ?_
    exact ih (store.perform change).2

/-- The ids of the records are different. -/
theorem nodup_ids_perform {store : JobStore} (h : (store.map Job.id).Nodup) (change : StoreChange) :
    ((store.perform change).2.map Job.id).Nodup := by
  cases change with
  | insert new =>
    cases hfind : store.find? new.id with
    | none =>
      rw [perform_insert_of_new hfind, List.map_append, List.map_singleton]
      refine List.nodup_append.mpr ⟨h, by simp, ?_⟩
      intro id hid other hother hsame
      obtain rfl := List.mem_singleton.mp hother
      exact find?_eq_none_iff.mp hfind (hsame ▸ hid)
    | some other =>
      rw [perform_insert_of_find? hfind]
      exact h
  | update id u =>
    cases hfind : store.find? id with
    | none =>
      rw [perform_update_of_missing hfind]
      exact h
    | some other =>
      rw [perform_update_of_find? hfind, map_changed fun _ => rfl]
      exact h

end JobStore

/-! ### Jobs that are made and marked -/

/-- A call of the lifecycle of jobs, at an instant: a job is made under an id, or goes through a
transition. -/
inductive LifecycleCall
  | enqueue (new : NewJob) (id : String) (now : Instant)
  | mark (id : String) (t : Transition) (now : Instant)

/-- The change that a call asks of the store. -/
def LifecycleCall.change : LifecycleCall → StoreChange
  | .enqueue new id now => .insert (new.queued id now)
  | .mark id t now => .update id (t.update now)

/-- The fields of a record agree with its status. -/
structure Job.Consistent (job : Job) : Prop where
  queued : job.status = .queued →
    job.rows = none ∧ job.startedAt = none ∧ job.finishedAt = none
  running : job.status = .running → job.startedAt.isSome ∧ job.finishedAt = none
  succeeded : job.status = .succeeded →
    job.rows.isSome ∧ job.tookMs.isSome ∧ job.finishedAt.isSome ∧ job.error = none
  failed : job.status = .failed → job.error.isSome ∧ job.finishedAt.isSome ∧ job.rows = none

/-- A job that was just made agrees with its status. -/
theorem NewJob.consistent_queued (new : NewJob) (id : String) (now : Instant) :
    (new.queued id now).Consistent where
  queued _ := ⟨rfl, rfl, rfl⟩
  running := nofun
  succeeded := nofun
  failed := nofun

/-- A record agrees with its status after any transition, whatever it held before. -/
theorem Transition.consistent_apply (t : Transition) (now : Instant) (job : Job) :
    ((t.update now).apply job).Consistent := by
  cases t with
  | run => exact ⟨nofun, fun _ => ⟨rfl, rfl⟩, nofun, nofun⟩
  | succeed rows tookMs => exact ⟨nofun, nofun, fun _ => ⟨rfl, rfl, rfl, rfl⟩, nofun⟩
  | fail error tookMs => exact ⟨nofun, nofun, nofun, fun _ => ⟨rfl, rfl, rfl⟩⟩
  | retry error => exact ⟨fun _ => ⟨rfl, rfl, rfl⟩, nofun, nofun, nofun⟩

namespace JobStore

/-- The store after calls that begin with an empty one. -/
def ofCalls (calls : List LifecycleCall) : JobStore := after [] (calls.map LifecycleCall.change)

@[simp] theorem ofCalls_nil : ofCalls [] = [] := rfl

theorem ofCalls_append (calls more : List LifecycleCall) :
    ofCalls (calls ++ more) = (ofCalls calls).after (more.map LifecycleCall.change) := by
  rw [ofCalls, List.map_append, after_append, ofCalls]

theorem ofCalls_snoc (calls : List LifecycleCall) (call : LifecycleCall) :
    ofCalls (calls ++ [call]) = ((ofCalls calls).perform call.change).2 := by
  rw [ofCalls_append, List.map_singleton, after_singleton]

/-- A job was made by one of the calls, which was accepted, and still has what it was made with. -/
def MadeBy (calls : List LifecycleCall) (job : Job) : Prop :=
  ∃ earlier new now later, calls = earlier ++ .enqueue new job.id now :: later ∧
    ((ofCalls earlier).perform (.insert (new.queued job.id now))).1 =
      .ok (new.queued job.id now) ∧
    job.origin = ⟨job.id, new, now⟩

theorem MadeBy.append {calls : List LifecycleCall} {job : Job} (h : MadeBy calls job)
    (more : List LifecycleCall) : MadeBy (calls ++ more) job := by
  obtain ⟨earlier, new, now, later, rfl, haccepted, horigin⟩ := h
  exact ⟨earlier, new, now, later ++ more, by simp, haccepted, horigin⟩

theorem consistent_ofCalls (calls : List LifecycleCall) :
    ∀ job ∈ ofCalls calls, job.Consistent := by
  induction calls using List.reverseRecOn with
  | nil => simp
  | append_singleton calls call ih =>
    rw [ofCalls_snoc]
    apply forall_mem_perform ih
    · intro job hjob
      cases call with
      | enqueue new id now =>
        obtain rfl := StoreChange.insert.inj hjob
        exact new.consistent_queued id now
      | mark id t now => cases hjob
    · intro id u job hu _
      cases call with
      | enqueue new id now => cases hu
      | mark id t now =>
        obtain ⟨rfl, rfl⟩ := StoreChange.update.inj hu
        exact t.consistent_apply now job

theorem nodup_ids_ofCalls (calls : List LifecycleCall) : ((ofCalls calls).map Job.id).Nodup := by
  induction calls using List.reverseRecOn with
  | nil => exact List.nodup_nil
  | append_singleton calls call ih =>
    rw [ofCalls_snoc]
    exact nodup_ids_perform ih call.change

theorem madeBy_ofCalls (calls : List LifecycleCall) : ∀ job ∈ ofCalls calls, MadeBy calls job := by
  induction calls using List.reverseRecOn with
  | nil => simp
  | append_singleton calls call ih =>
    have hold : ∀ job ∈ ofCalls calls, MadeBy (calls ++ [call]) job :=
      fun job hjob => (ih job hjob).append [call]
    rw [ofCalls_snoc]
    cases call with
    | mark id t now =>
      apply forall_mem_perform hold
      · intro job hjob
        cases hjob
      · intro id u job _ hjob
        exact hjob
    | enqueue new id now =>
      -- the job is made by this call only if the call is accepted
      cases hfind : (ofCalls calls).find? id with
      | some other =>
        rw [LifecycleCall.change, perform_insert_of_find? hfind]
        exact hold
      | none =>
        apply forall_mem_perform hold
        · intro job hjob
          obtain rfl := StoreChange.insert.inj hjob
          exact ⟨calls, new, now, [], rfl, by rw [perform_insert_of_new hfind], rfl⟩
        · intro id u job hu
          cases hu

/-- Whatever jobs are made and marked, in any order: every record agrees with its status and keeps
what its job was made with, and no record disappears.  Under an id that is new a job can be made;
marking it fails and changes nothing. -/
theorem lifecycle_consistent (calls : List LifecycleCall) :
    (∀ job ∈ ofCalls calls, job.Consistent ∧ MadeBy calls job) ∧
      ((ofCalls calls).map Job.id).Nodup ∧
      (∀ more, (ofCalls calls).map Job.origin <+: (ofCalls (calls ++ more)).map Job.origin) ∧
      ∀ id, id ∉ (ofCalls calls).map Job.id →
        (∀ new now, (ofCalls calls).perform (LifecycleCall.enqueue new id now).change =
          (.ok (new.queued id now), ofCalls calls ++ [new.queued id now])) ∧
        ∀ t now, (ofCalls calls).perform (LifecycleCall.mark id t now).change =
          (.error (.notFound id), ofCalls calls) := by
  refine ⟨fun job hjob => ?_, nodup_ids_ofCalls calls, fun more => ?_, fun id hid => ?_⟩
  · exact ⟨consistent_ofCalls calls job hjob, madeBy_ofCalls calls job hjob⟩
  · rw [ofCalls_append]
    exact prefix_map_origin_after _ _
  · have hmissing : (ofCalls calls).find? id = none := find?_eq_none_iff.mpr hid
    constructor
    · intro new now
      exact perform_insert_of_new hmissing
    · intro t now
      exact perform_update_of_missing hmissing (t.update now)

/-- A job that succeeds, is queued again and is given up. -/
def resumed : List LifecycleCall :=
  [.enqueue ⟨"hash", none, "main", "users"⟩ "job-1" .epoch, .mark "job-1" .run ⟨1, 0⟩,
    .mark "job-1" (.succeed 3 5) ⟨2, 0⟩, .mark "job-1" (.retry "late") ⟨3, 0⟩,
    .mark "job-1" (.fail "lost" none) ⟨4, 0⟩]

theorem lifecycle_consistent_resumed : ∃ job, ofCalls resumed = [job] ∧ job.status = .failed ∧
    job.tookMs = some 5 ∧ job.Consistent ∧ MadeBy resumed job ∧
    "job-2" ∉ (ofCalls resumed).map Job.id ∧
    (ofCalls resumed).perform (LifecycleCall.mark "job-2" .run ⟨5, 0⟩).change =
      (.error (.notFound "job-2"), ofCalls resumed) := by
  obtain ⟨hrecords, -, -, hmissing⟩ := lifecycle_consistent resumed
  have hstore : ofCalls resumed = [{
      id := "job-1", payloadHash := "hash", apiKey := none, dataSource := "main", table := "users"
      status := .failed, tookMs := some 5, error := some "lost", createdAt := .epoch
      finishedAt := some ⟨4, 0⟩ }] := by decide
  have hid : "job-2" ∉ (ofCalls resumed).map Job.id := by
    rw [hstore]
    decide
  obtain ⟨hconsistent, hmade⟩ := hrecords _ (hstore ▸ List.mem_singleton_self _)
  exact ⟨_, hstore, rfl, rfl, hconsistent, hmade, hid, (hmissing _ hid).2 _ _⟩

end JobStore
end QueryGateway
