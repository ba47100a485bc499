import QueryGateway.Gateway.Setup
import QueryGateway.Postgres.Session
import QueryGateway.Queue.Memory
import QueryGateway.Scripted.Databases
import QueryGateway.Uuid

/-!
# A gateway to try things out on

The databases answer from a script, the job store is kept in memory and fails when that is planned,
the queue is one in memory, one that takes no messages, or none, and every reading of the clock is a
nanosecond after the one before.

## Main definitions

* `ScriptedQueue`, `StoreFault` — the queue, and what is planned for the job store.
* `ScriptedGateway` — everything that the gateway shares.
* `ScriptedGateway.answer` — answers the calls of the gateway's programs.
* `ScriptedGateway.work`, `ScriptedGateway.consume` — the processor takes deliveries.
* `ScriptedGateway.ofGateway` — a gateway around which no database server answers.
-/

namespace QueryGateway

/-- The queue of a scripted gateway. -/
inductive ScriptedQueue
  | absent
  /-- It takes no messages. -/
  | broken
  | memory (q : MemoryQueue)

/-- The operations of the job store. -/
inductive StoreOperation
  | insert
  | update
  | find
  | findByHash
  deriving DecidableEq, Repr

/-- What is planned for the next call of an operation of the job store: that it fails, or that it is
let through. -/
structure StoreFault where
  operation : StoreOperation
  error : Option JobError

/-- The plan for an operation that comes first, and the plans without it. -/
def StoreFault.take (operation : StoreOperation) :
    List StoreFault → Option JobError × List StoreFault
  | [] => (none, [])
  | fault :: rest =>
    if fault.operation = operation then (fault.error, rest)
    else
      let (error, rest) := take operation rest
      (error, fault :: rest)

/-- Everything that the gateway shares. -/
structure ScriptedGateway where
  service : Service
  databases : Databases := {}
  jobs : JobStore := []
  faults : List StoreFault := []
  metrics : MetricWindow := .empty 0
  queue : ScriptedQueue := .absent
  /-- How many ids were given to jobs. -/
  issued : Nat := 0
  /-- What the next reading of the clock gives. -/
  clock : Instant

namespace ScriptedGateway

/-- Reads the clock. -/
def now : StateM ScriptedGateway Instant :=
  modifyGet fun g => (g.clock, { g with clock := { g.clock with nanos := g.clock.nanos + 1 } })

/-- The id of a job, by how many were given before. -/
def jobId (number : Nat) : String := Uuid.hyphenated (.ofNat 16 number)

/-- An id for a new job. -/
def freshId : StateM ScriptedGateway String :=
  modifyGet fun g => (jobId g.issued, { g with issued := g.issued + 1 })

/-- Does something with the databases. -/
def onDatabases {α : Type} (action : StateM Databases α) : StateM ScriptedGateway α :=
  modifyGet fun g =>
    let (result, databases) := action.run g.databases
    (result, { g with databases })

/-- Does an operation of the job store, unless it is planned to fail. -/
def onStore {α : Type} (operation : StoreOperation)
    (action : JobStore → Except JobError (α × JobStore)) :
    StateM ScriptedGateway (Except JobError α) :=
  modifyGet fun g =>
    let (planned, faults) := StoreFault.take operation g.faults
    let g := { g with faults }
    match planned with
    | some e => (.error e, g)
    | none =>
      match action g.jobs with
      | .error e => (.error e, g)
      | .ok (result, jobs) => (.ok result, { g with jobs })

/-- Stores a job. -/
def insert (job : Job) : StateM ScriptedGateway (Except JobError Job) :=
  onStore .insert fun store => do return (job, ← store.insert job)

/-- Changes the record of a job. -/
def update (id : String) (u : JobUpdate) : StateM ScriptedGateway (Except JobError Job) :=
  onStore .update fun store => store.update id u

/-- Hands a message to the queue. -/
def publish (body : Bytes) : StateM ScriptedGateway (Except QueueError Unit) :=
  modifyGet fun g =>
    match g.queue with
    | .absent => (.error .closed, g)
    | .broken => (.error (.publish "the queue takes no messages"), g)
    | .memory q =>
      match q.publish body with
      | .error e => (.error e, g)
      | .ok q => (.ok (), { g with queue := .memory q })

/-- Answers a call of the gateway's programs. -/
def answer : (c : GatewayCall) → StateM ScriptedGateway c.Answer
  | .prepare source table r => do
    return (← onDatabases (Databases.run (Service.prepare source table r))).map fun _ => ()
  | .query ctx source table r => do
    let service := (← get).service
    let start := (← get).databases.moment.now
    let result ← onDatabases (Databases.run (service.queryTable ctx source table r))
    return (result, Int64.ofNat ((← get).databases.moment.now - start))
  | .sources => onDatabases (Databases.run Service.listSources)
  | .record m => do
    let now ← now
    modify fun g => { g with metrics := g.metrics.record now m }
  | .summary => do
    let metrics := (← get).metrics
    return (metrics.summary, metrics.size)
  | .insert new => do
    let id ← freshId
    insert (new.queued id (← now))
  | .find id => onStore .find fun store => .ok (store.find? id, store)
  | .findByHash hash => onStore .findByHash fun store => .ok (store.byHash hash, store)
  | .mark id t => do update id (t.update (← now))
  | .publish body => publish body

/-- Runs a program of the gateway. -/
def run {α : Type} (p : GatewayProgram α) : StateM ScriptedGateway α := Program.run answer p

/-- A context without deadline and with a token of its own. -/
def freshContext : StateM ScriptedGateway Context :=
  onDatabases (modifyGet fun db =>
    let (ctx, moment) := Context.fresh db.moment
    (ctx, { db with moment }))

/-- The processor takes the delivery at the front of a memory queue, handles it under a context and
settles it. -/
def work (p : Processor) (ctx : Context) : StateM ScriptedGateway (Option (Delivery × Disposition)) := do
  match (← get).queue with
  | .memory q =>
    match q.receive with
    | (.delivery receipt d, q) =>
      modify fun g => { g with queue := .memory q }
      let disposition ← run (p.handle d.body d.attempt ctx)
      modify fun g => match g.queue with
        | .memory q => { g with queue := .memory (q.settle receipt disposition) }
        | _ => g
      return some (d, disposition)
    | _ => return none
  | _ => return none

/-- A worker takes deliveries until none waits, at most so many. -/
def consume (w : Worker) : Nat → StateM ScriptedGateway Unit
  | 0 => return ()
  | count + 1 => do
    let ctx ← freshContext
    let ctx := ctx.timeout (← get).databases.moment w.options.timeoutMs
    if (← work w.processor ctx).isSome then consume w count

/-- A gateway around which no database server answers. -/
def ofGateway (g : Gateway) (clock : Instant) : ScriptedGateway :=
  { service := g.service
    databases := {
      sources := g.sources
      kinds := g.kinds
      refusal := fun source =>
        match Postgres.Pool.connect source.connection (some "error connecting to server") with
        | .ok _ => none
        | .error e => some e }
    metrics := g.metrics
    queue := if g.worker.isSome then .memory {} else .absent
    clock }

end ScriptedGateway

end QueryGateway
