import QueryGateway.Gateway.Api
import QueryGateway.Gateway.Config
import QueryGateway.Gateway.Processor

/-!
# Setting a gateway up

A configuration determines a gateway: its interface, its data sources, and a worker if there is a
queue.  A job store or a queue on a server of its own has to be reached first.

## Main definitions

* `Servers` — which servers can be reached.
* `Worker`, `Gateway` — a gateway that is set up.
* `GatewayConfig.setUp` — sets a gateway up.
-/

namespace QueryGateway

/-- Which servers can be reached, by their addresses. -/
structure Servers where
  jobStore : String → Bool
  queue : String → Bool

/-- No server can be reached. -/
def Servers.unreachable : Servers := ⟨fun _ => false, fun _ => false⟩

/-- Why a gateway cannot be set up. -/
inductive SetupError
  | jobStore
  | queue
  deriving DecidableEq, Repr

/-- The wording of an error. -/
def SetupError.message : SetupError → String
  | .jobStore => "failed to open the job store"
  | .queue => "failed to connect the job queue"

/-- What runs the queued jobs: a processor, and how its consumer handles deliveries. -/
structure Worker where
  processor : Processor
  options : ConsumerOptions
  deriving DecidableEq, Repr

/-- A gateway that is set up. -/
structure Gateway where
  api : Api
  service : Service
  /-- The data sources by their names. -/
  sources : Keyed Source
  /-- The kinds of data sources that can be connected. -/
  kinds : List String := ["postgres"]
  metrics : MetricWindow
  /-- What runs the queued jobs, if there is a queue. -/
  worker : Option Worker

namespace QueueSection

/-- The address of the server of the queue, if it has one. -/
def server? (q : QueueSection) : Option String :=
  match q.backend with
  | .memory => none
  | .redis => q.url

/-- What runs the jobs of the queue. -/
def worker (q : QueueSection) : Worker :=
  { processor := ⟨.ofMax q.maxAttempts⟩, options := q.consumerOptions }

end QueueSection

/-- The address of the server of the job store, if it has one. -/
def JobsSection.server? (j : JobsSection) : Option String :=
  match j.backend with
  | .memory => none
  | .postgres => j.url

namespace GatewayConfig

/-- The data sources by their names. -/
def sourceTable (c : GatewayConfig) : Keyed Source :=
  Keyed.sort (c.sources.map fun source => (source.name, source))

/-- The gateway of a configuration. -/
def gateway (c : GatewayConfig) : Gateway :=
  { api :=
      { environment := c.environment, hasJobs := true, coordinator := ⟨c.queue.isSome⟩ }
    service := ⟨c.defaultTimeoutMs⟩
    sources := c.sourceTable
    metrics := .empty c.capacity.toNat
    worker := c.queue.map QueueSection.worker }

/-- Sets a gateway up: the job store is opened before the queue. -/
def setUp (c : GatewayConfig) (servers : Servers) : Except SetupError Gateway :=
  if c.jobs.server?.any fun address => !servers.jobStore address then .error .jobStore
  else if (c.queue.bind QueueSection.server?).any fun address => !servers.queue address then
    .error .queue
  else .ok c.gateway

end GatewayConfig

end QueryGateway
