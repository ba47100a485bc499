import QueryGateway.Gateway.Setup

/-!
# Commands

The gateway is started either to serve requests, with a worker of its own, or only to run queued jobs.
Starting reads the configuration, sets the gateway up and, to serve, binds an address.

## Main definitions

* `Command` — what the gateway is started for.
* `ConfigFile` — a file with the configuration.
* `StartError` — why it does not start.
* `Command.start` — starts the gateway.
-/

namespace QueryGateway

/-- What the gateway is started for. -/
inductive Command
  /-- To answer requests at an address. -/
  | serve (address : String)
  /-- To run queued jobs. -/
  | worker
  deriving DecidableEq, Repr

/-- The address that is served unless another one is given. -/
def defaultAddress : String := "127.0.0.1:8080"

/-- A file with the configuration: its path, and its text if it can be read. -/
structure ConfigFile where
  path : String
  text : Option String
  deriving DecidableEq, Repr

/-- Why the gateway does not start. -/
inductive StartError
  | unreadable (path : String)
  | invalid (path : String) (e : ConfigError)
  | unshared (fault : SharingFault)
  | setup (e : SetupError)
  | unbound (address : String)
  deriving DecidableEq, Repr

/-- The wording of an error. -/
def StartError.message : StartError → String
  | .unreadable path => "failed to read config file " ++ path
  | .invalid path _ => "invalid config file " ++ path
  | .unshared fault => fault.message
  | .setup e => e.message
  | .unbound address => "failed to bind " ++ address

/-- Reads the configuration; without a file everything has its default. -/
def ConfigFile.load : Option ConfigFile → Except StartError GatewayConfig
  | none => .ok {}
  | some ⟨path, none⟩ => .error (.unreadable path)
  | some ⟨path, some text⟩ => (GatewayConfig.ofText text).mapError (.invalid path)

/-- Starts the gateway; `binds` tells which addresses can be bound. -/
def Command.start (command : Command) (file : Option ConfigFile) (servers : Servers)
    (binds : String → Bool) : Except StartError Gateway := do
  let config ← ConfigFile.load file
  match command with
  | .serve address =>
    let gateway ← (config.setUp servers).mapError .setup
    if binds address then return gateway else .error (.unbound address)
  | .worker =>
    match config.sharingFault? with
    | some fault => .error (.unshared fault)
    | none => (config.setUp servers).mapError .setup

end QueryGateway
