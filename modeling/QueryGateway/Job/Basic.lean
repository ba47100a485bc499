import QueryGateway.Failure
import QueryGateway.Metrics

/-!
# Jobs

A job is a query that runs later.  Its record tells how far it has come; the fields that a status
change touches are given by an update.

## Main definitions

* `JobStatus`, `Job` — the record, with its JSON form.
* `JobError` — why the job store failed.
* `Patch`, `JobUpdate` — changes of a record; `JobUpdate.apply` makes them.
* `Transition` — the changes that a job goes through; `Transition.update` gives each as an update.
-/

namespace QueryGateway

open Json

/-- How far a job has come. -/
inductive JobStatus
  | queued
  | running
  | succeeded
  | failed
  deriving DecidableEq, Repr

/-- Why the job store failed. -/
inductive JobError
  | notFound (id : String)
  | alreadyExists (id : String)
  | storage (reason : String)
  | invalidData (reason : String)
  deriving DecidableEq, Repr

namespace JobError

/-- The wording of an error. -/
def message : JobError → String
  | .notFound id => "job not found: " ++ id
  | .alreadyExists id => "job already exists: " ++ id
  | .storage reason => "job storage error: " ++ reason
  | .invalidData reason => "invalid job data: " ++ reason

/-- The error as a caller sees it. -/
def failure (e : JobError) : Failure :=
  match e with
  | .notFound id => (Failure.notFound e.message).withDetail "jobId" (.string id)
  | .invalidData _ => .invalidInput e.message
  | .alreadyExists _ | .storage _ => .internal e.message

end JobError

namespace JobStatus

/-- The name of a status. -/
def text : JobStatus → String
  | .queued => "queued"
  | .running => "running"
  | .succeeded => "succeeded"
  | .failed => "failed"

/-- The statuses by name. -/
def byName : Keyed JobStatus :=
  [("queued", .queued), ("running", .running), ("succeeded", .succeeded), ("failed", .failed)]

/-- The status with a name. -/
def ofText (text : String) : Except JobError JobStatus :=
  match Keyed.find? text byName with
  | some status => .ok status
  | none => .error (.invalidData ("unknown job status: " ++ text))

/-- Whether a job with the status is over. -/
def isTerminal : JobStatus → Bool
  | .succeeded | .failed => true
  | .queued | .running => false

@[simp] theorem ofText_text (status : JobStatus) : ofText status.text = .ok status := by
  cases status <;> rfl

end JobStatus

/-- The record of a job. -/
structure Job where
  id : String
  payloadHash : String
  apiKey : Option String
  dataSource : String
  table : String
  status : JobStatus
  rows : Option Int64 := none
  tookMs : Option Int64 := none
  error : Option String := none
  createdAt : Instant
  startedAt : Option Instant := none
  finishedAt : Option Instant := none
  deriving DecidableEq

namespace Job

/-- The spellings of the fields. -/
def spellings : List (List String) :=
  [["id"], ["payloadHash"], ["apiKey"], ["dataSource"], ["table"], ["status"], ["rows"],
    ["tookMs"], ["error"], ["createdAt"], ["startedAt"], ["finishedAt"]]

/-- A job in JSON. -/
def reader : Reader Job := fun levels doc => do
  let (levels, fields) ← record spellings levels doc
  match fields with
  | [id, hash, apiKey, dataSource, table, status, rows, tookMs, error, created, started, finished] =>
    return {
      id := ← id.required Reader.string levels
      payloadHash := ← hash.required Reader.string levels
      apiKey := ← apiKey.optional Reader.string levels
      dataSource := ← dataSource.required Reader.string levels
      table := ← table.required Reader.string levels
      status := ← status.required (Reader.oneOf JobStatus.byName) levels
      rows := ← rows.optional Reader.int64 levels
      tookMs := ← tookMs.optional Reader.int64 levels
      error := ← error.optional Reader.string levels
      createdAt := ← created.required Instant.reader levels
      startedAt := ← started.optional Instant.reader levels
      finishedAt := ← finished.optional Instant.reader levels }
  | _ => none

/-- The job that bytes write in JSON. -/
def ofBytes? (bytes : Bytes) : Option Job :=
  (Document.ofBytes? bytes).bind (reader maxDepth)

/-- The JSON form; what is absent is left out. -/
def toJson (job : Job) : Value :=
  let member {α : Type} (key : String) (f : α → Value) (value : Option α) :=
    (value.map fun v => (key, f v)).toList
  let time (t : Instant) : Value := .string t.rfc3339
  .object
    ([("id", .string job.id), ("payloadHash", .string job.payloadHash)] ++
      member "apiKey" .string job.apiKey ++
      [("dataSource", .string job.dataSource), ("table", .string job.table),
        ("status", .string job.status.text)] ++
      member "rows" .ofInt64 job.rows ++ member "tookMs" .ofInt64 job.tookMs ++
      member "error" .string job.error ++ [("createdAt", time job.createdAt)] ++
      member "startedAt" time job.startedAt ++ member "finishedAt" time job.finishedAt)

end Job

/-- How an optional field changes. -/
inductive Patch (α : Type)
  | keep
  | clear
  | set (value : α)
  deriving DecidableEq

namespace Patch

variable {α : Type}

/-- The field after the change. -/
def apply : Patch α → Option α → Option α
  | keep, field => field
  | clear, _ => none
  | set value, _ => some value

/-- The change to a given content. -/
def ofOption : Option α → Patch α
  | some value => set value
  | none => clear

/-- Whether the field stays as it is. -/
def isKeep : Patch α → Bool
  | keep => true
  | _ => false

end Patch

/-- A change of a record: a new status and what happens to each optional field. -/
structure JobUpdate where
  status : JobStatus
  rows : Patch Int64 := .keep
  tookMs : Patch Int64 := .keep
  error : Patch String := .keep
  startedAt : Patch Instant := .keep
  finishedAt : Patch Instant := .keep
  deriving DecidableEq

/-- The record after a change. -/
def JobUpdate.apply (u : JobUpdate) (job : Job) : Job :=
  { job with
    status := u.status
    rows := u.rows.apply job.rows
    tookMs := u.tookMs.apply job.tookMs
    error := u.error.apply job.error
    startedAt := u.startedAt.apply job.startedAt
    finishedAt := u.finishedAt.apply job.finishedAt }

/-- The changes that a job goes through. -/
inductive Transition
  /-- It is started. -/
  | run
  /-- It gave rows. -/
  | succeed (rows tookMs : Int64)
  /-- It is given up. -/
  | fail (error : String) (tookMs : Option Int64)
  /-- It waits for another attempt. -/
  | retry (error : String)
  deriving DecidableEq

/-- The change of the record when a transition happens at an instant. -/
def Transition.update (now : Instant) : Transition → JobUpdate
  | .run => { status := .running, startedAt := .set now, finishedAt := .clear }
  | .succeed rows tookMs =>
    { status := .succeeded, rows := .set rows, tookMs := .set tookMs, error := .clear,
      finishedAt := .set now }
  | .fail error tookMs =>
    { status := .failed, error := .set error, rows := .clear, finishedAt := .set now,
      tookMs := match tookMs with | some ms => .set ms | none => .keep }
  | .retry error =>
    { status := .queued, error := .set error, rows := .clear, startedAt := .clear,
      finishedAt := .clear }

end QueryGateway
