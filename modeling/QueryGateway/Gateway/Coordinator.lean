import QueryGateway.Gateway.Call
import QueryGateway.Job.Message

/-!
# Answering requests now or later

A request is answered at once, or it becomes a job: then it is checked and compiled first, so that
what is accepted can run, its record is stored, and a message is published.  A job whose message
cannot be published is failed at once.

## Main definitions

* `ExecutionMode`, `Coordinator.modeFor` — whether a request is answered now or later.
* `QueryOutcome`, `Coordinator.execute` — answering a request.
-/

namespace QueryGateway

open Json

/-- Whether a request is answered now or later. -/
inductive ExecutionMode
  | sync
  | async
  deriving DecidableEq, Repr

/-- What is told of a job that was accepted. -/
structure AcceptedJob where
  jobId : String
  payloadHash : String
  deriving DecidableEq, Repr

/-- The JSON form. -/
def AcceptedJob.toJson (job : AcceptedJob) : Value :=
  .object [
    ("jobId", .string job.jobId), ("status", .string JobStatus.queued.text),
    ("payloadHash", .string job.payloadHash),
    ("message", .string "Job enqueued for async processing")]

/-- The answer to a request. -/
inductive QueryOutcome
  | completed (response : Response)
  | accepted (job : AcceptedJob)
  deriving DecidableEq

/-- Answers requests; `hasQueue` tells whether there are a job store and a queue for later ones. -/
structure Coordinator where
  hasQueue : Bool
  deriving DecidableEq, Repr

namespace Coordinator

open GatewayCall (perform)

/-- The reason recorded for a job whose message was not published. -/
def unpublished : String := "queue publish failed"

/-- How a request is answered: later only if that is wished for and possible. -/
def modeFor (c : Coordinator) (wished : Bool) : ExecutionMode :=
  if wished && c.hasQueue then .async else .sync

/-- Answers a request at once. -/
def runNow (ctx : Context) (source table : String) (r : Request) (apiKey : Option String) :
    GatewayProgram (Except Failure Response) := do
  let (result, latency) ← perform (.query ctx source table r)
  match result with
  | .ok response =>
    perform (.record
      ((Metric.success source table response.tookMs response.rowCount).withApiKey apiKey))
    return .ok response
  | .error e =>
    perform (.record ((Metric.error source table latency).withApiKey apiKey))
    return .error e.failure

/-- Makes a job of a request. -/
def enqueue (c : Coordinator) (source table : String) (r : Request) (apiKey : Option String) :
    GatewayProgram (Except Failure AcceptedJob) := do
  if !c.hasQueue then return .error (.unavailable "async queue unavailable")
  else
    match ← perform (.prepare source table r) with
    | .error e => return .error e.failure
    | .ok () =>
      let hash := r.hash
      match ← perform (.insert { payloadHash := hash, apiKey, dataSource := source, table }) with
      | .error _ => return .error (.internal "failed to persist job")
      | .ok job =>
        match ← perform (.publish (JobMessage.ofJob job r).encode) with
        | .ok () => return .ok { jobId := job.id, payloadHash := hash }
        | .error _ =>
          let _ ← perform (.mark job.id (.fail unpublished none))
          return .error (.internal "failed to enqueue job")

/-- Answers a request in a mode. -/
def execute (c : Coordinator) (ctx : Context) (source table : String) (r : Request)
    (apiKey : Option String) : ExecutionMode → GatewayProgram (Except Failure QueryOutcome)
  | .sync => do return (← runNow ctx source table r apiKey).map .completed
  | .async => do return (← c.enqueue source table r apiKey).map .accepted

end Coordinator

end QueryGateway
