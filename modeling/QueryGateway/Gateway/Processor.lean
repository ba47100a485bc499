import QueryGateway.Gateway.Call
import QueryGateway.Job.Message
import QueryGateway.Job.Retry

/-!
# Processing deliveries

A delivery of the queue asks for a job to be run.  A job that is over stays as it is, so a message may
be delivered more than once.  A query that fails for a passing reason is tried again as long as the
retry policy allows; otherwise the job is failed and the message put aside.

## Main definitions

* `Processor.handle` — handles a delivery and says what becomes of it.
* `Processor.afterTimeout` — records that handling a delivery took too long.
-/

namespace QueryGateway

/-- The processor of job messages: how often it tries. -/
structure Processor where
  retry : RetryPolicy
  deriving DecidableEq, Repr

namespace Processor

open GatewayCall (perform)

/-- The reason recorded when handling took too long. -/
def timedOut : String := "handler timed out"

/-- A reason of the last of some attempts. -/
def exhausted (attempt : UInt32) (reason : String) : String :=
  "failed after " ++ toString attempt ++ " attempts: " ++ reason

/-- A metric of a job. -/
def metricOf (message : JobMessage) (m : Metric) : Metric :=
  (m.withJob message.id message.payloadHash).withApiKey message.apiKey

/-- Records a failed attempt.  Whether the record could be changed does not matter for what becomes
of the delivery. -/
def fail (p : Processor) (id : String) (e : QueryError) (attempt : UInt32) (tookMs : Int64) :
    GatewayProgram Disposition := do
  if e.retryable && p.retry.allows attempt then
    let _ ← perform (.mark id (.retry e.message))
    return .requeue
  else
    let reason := if e.retryable then exhausted attempt e.message else e.message
    let _ ← perform (.mark id (.fail reason (some tookMs)))
    return .reject

/-- Runs the query of a message whose job is marked as running. -/
def run (p : Processor) (message : JobMessage) (attempt : UInt32) (ctx : Context) :
    GatewayProgram Disposition := do
  let (result, latency) ← perform (.query ctx message.dataSource message.table message.request)
  match result with
  | .ok response =>
    perform (.record (metricOf message
      (.success message.dataSource message.table latency response.rowCount)))
    match ← perform (.mark message.id (.succeed response.rowCount response.tookMs)) with
    | .ok _ => return .ack
    | .error _ => return p.retry.afterFailure attempt
  | .error e =>
    perform (.record (metricOf message (.error message.dataSource message.table latency)))
    p.fail message.id e attempt latency

/-- Processes a message. -/
def process (p : Processor) (message : JobMessage) (attempt : UInt32) (ctx : Context) :
    GatewayProgram Disposition := do
  match ← perform (.find message.id) with
  | .error _ => return p.retry.afterFailure attempt
  | .ok none => return .reject
  | .ok (some job) =>
    if job.status.isTerminal then return .ack
    else
      match ← perform (.mark message.id .run) with
      | .error (.notFound _) => return .reject
      | .error _ => return p.retry.afterFailure attempt
      | .ok _ => p.run message attempt ctx

/-- Handles a delivery.  What is no message is put aside. -/
def handle (p : Processor) (body : Bytes) (attempt : UInt32) (ctx : Context) :
    GatewayProgram Disposition :=
  match JobMessage.decode? body with
  | some message => p.process message attempt ctx
  | none => return .reject

/-- Records that handling a delivery took too long, when it is about to be settled in the given
way. -/
def afterTimeout (body : Bytes) (attempt : UInt32) (d : Disposition) : GatewayProgram Unit :=
  match JobMessage.decode? body with
  | none => return ()
  | some message =>
    match d with
    | .ack => return ()
    | .requeue => do
      let _ ← perform (.mark message.id (.retry timedOut))
      return ()
    | .reject => do
      let _ ← perform (.mark message.id (.fail (exhausted attempt timedOut) none))
      return ()

end Processor

end QueryGateway
