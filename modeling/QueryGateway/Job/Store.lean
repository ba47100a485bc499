import QueryGateway.Job.Basic

/-!
# Job stores

The records of all jobs, by their id.

## Main definitions

* `JobStore.insert`, `JobStore.update`, `JobStore.find?` — the operations on one record.
* `JobStore.byHash` — the jobs of one request, oldest first.
* `NewJob` — what is known of a job before it is stored.
-/

namespace QueryGateway

/-- The records of all jobs. -/
abbrev JobStore := List Job

/-- What is known of a job before it is stored. -/
structure NewJob where
  payloadHash : String
  apiKey : Option String
  dataSource : String
  table : String
  deriving DecidableEq

/-- The record of a new job. -/
def NewJob.queued (new : NewJob) (id : String) (now : Instant) : Job :=
  { id, payloadHash := new.payloadHash, apiKey := new.apiKey, dataSource := new.dataSource,
    table := new.table, status := .queued, createdAt := now }

/-- Whether a job was made before another; of two made at once the lesser id comes first. -/
def Job.olderOrSame (a b : Job) : Bool :=
  if a.createdAt.seconds ≠ b.createdAt.seconds then a.createdAt.seconds < b.createdAt.seconds
  else if a.createdAt.nanos ≠ b.createdAt.nanos then a.createdAt.nanos < b.createdAt.nanos
  else a.id ≤ b.id

namespace JobStore

/-- The record with an id. -/
def find? (store : JobStore) (id : String) : Option Job :=
  List.find? (fun job : Job => job.id = id) store

/-- The store with one more record, whose id must be new. -/
def insert (store : JobStore) (job : Job) : Except JobError JobStore :=
  match find? store job.id with
  | some _ => .error (.alreadyExists job.id)
  | none => .ok (store ++ [job])

/-- The store with a record changed, and the record. -/
def update (store : JobStore) (id : String) (u : JobUpdate) : Except JobError (Job × JobStore) :=
  match find? store id with
  | none => .error (.notFound id)
  | some job =>
    .ok (u.apply job, store.map fun other => if other.id = id then u.apply other else other)

/-- The jobs of a request, oldest first. -/
def byHash (store : JobStore) (hash : String) : List Job :=
  (store.filter fun job => job.payloadHash = hash).mergeSort Job.olderOrSame

end JobStore

end QueryGateway
