import QueryGateway.Job.Store
import QueryGateway.Queue.Delivery
import QueryGateway.Service.Query

/-!
# What the gateway works with

Requests and deliveries are handled by programs that touch what the gateway shares: the query
service, the metrics, the job store and the queue.  Each touch is one call, and other work may come
between any two of them.

## Main definitions

* `GatewayCall` — the calls, with the types of their answers.
* `GatewayProgram` — programs over them.
-/

namespace QueryGateway

/-- The calls to what the gateway shares. -/
inductive GatewayCall
  /-- Checks and compiles a request. -/
  | prepare (source table : String) (r : Request)
  /-- Runs a request; the answer tells also how many milliseconds it took. -/
  | query (ctx : Context) (source table : String) (r : Request)
  /-- The data sources, as callers may see them. -/
  | sources
  | record (m : Metric)
  /-- The summary of the metrics and how many there are. -/
  | summary
  /-- Stores a new job. -/
  | insert (new : NewJob)
  | find (id : String)
  | findByHash (hash : String)
  | mark (id : String) (t : Transition)
  /-- Hands a message to the queue. -/
  | publish (body : Bytes)
  deriving DecidableEq

/-- The answers to the calls. -/
abbrev GatewayCall.Answer : GatewayCall → Type
  | .prepare _ _ _ => Except QueryError Unit
  | .query _ _ _ _ => Except QueryError Response × Int64
  | .sources => List Json.Value
  | .record _ => Unit
  | .summary => List MetricSummary × Nat
  | .insert _ => Except JobError Job
  | .find _ => Except JobError (Option Job)
  | .findByHash _ => Except JobError (List Job)
  | .mark _ _ => Except JobError Job
  | .publish _ => Except QueueError Unit

/-- Programs that work with what the gateway shares. -/
abbrev GatewayProgram := Program GatewayCall GatewayCall.Answer

/-- A single call. -/
abbrev GatewayCall.perform (c : GatewayCall) : GatewayProgram c.Answer := Program.perform c

end QueryGateway
