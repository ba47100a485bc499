import QueryGateway.Service.Query

/-!
# Databases that answer from a script

For trying out the query service, databases are replaced by a script: each statement takes the next
reply, each connection the next one of its kind, and waiting moves the clock forward.  What the
databases see is logged.

## Main definitions

* `ScriptedReply`, `ScriptedConnect` — what a statement and a connection meet.
* `Databases` — the databases with the clock, the data sources and the connectors.
* `Databases.answer` — answers the calls of the query service.
* `Databases.race` — two programs on connectors that run side by side.
-/

namespace QueryGateway

open Json

/-- What a statement meets. -/
structure ScriptedReply where
  result : Except QueryError (List Row) := .ok []
  /-- How many milliseconds the reply takes. -/
  delay : Option Nat := none
  /-- The reply does not come if the context is over by then. -/
  checks : Bool := false
  /-- The connector closes after the reply. -/
  closes : Bool := false

/-- What a connection meets. -/
structure ScriptedConnect where
  error : Option QueryError := none
  /-- How many milliseconds connecting takes. -/
  delay : Option Nat := none
  /-- Closing the connector will report an error. -/
  closeFails : Bool := false

/-- What the databases see. -/
inductive DatabaseEvent
  | connected (source kind : String)
  | queried (c : ConnectorId) (sql : String) (params : List Value)
  | closed (c : ConnectorId)

/-- Databases that answer from a script. -/
structure Databases where
  moment : Moment := {}
  sources : Keyed Source := []
  /-- The kinds of data sources that can be connected. -/
  kinds : List String := []
  connectors : Connectors := {}
  /-- The connectors whose closing reports an error. -/
  stubborn : List ConnectorId := []
  script : List ScriptedReply := []
  connects : List ScriptedConnect := []
  /-- Why a data source cannot be connected, whatever is planned. -/
  refusal : Source → Option QueryError := fun _ => none
  log : List DatabaseEvent := []

namespace Databases

/-- The databases with one more event in the log. -/
def note (db : Databases) (e : DatabaseEvent) : Databases := { db with log := db.log ++ [e] }

/-- The databases so many milliseconds later. -/
def later (db : Databases) (ms : Nat) : Databases := { db with moment := db.moment.later ms }

/-- Adds a data source, in place of one of its name. -/
def upsert (db : Databases) (source : Source) : Databases :=
  { db with sources := Keyed.insert source.name source db.sources }

/-- A connection is asked for. -/
def beginConnect (db : Databases) (source : Source) : ScriptedConnect × Databases :=
  (db.connects.head?.getD {},
    { db.note (.connected source.name source.kind) with connects := db.connects.tail })

/-- A connection is made or refused. -/
def endConnect (db : Databases) (source : Source) (reply : ScriptedConnect) :
    Except QueryError ConnectorId × Databases :=
  match reply.error <|> db.refusal source with
  | some e => (.error e, db)
  | none =>
    let (c, connectors) := db.connectors.add source.name
    (.ok c, { db with
      connectors
      stubborn := if reply.closeFails then c :: db.stubborn else db.stubborn })

/-- Closes a connector. -/
def close (db : Databases) (c : ConnectorId) : Except QueryError Unit × Databases :=
  let result := if db.stubborn.contains c then .error (.internal "close failed") else .ok ()
  (result, { db.note (.closed c) with connectors := db.connectors.close c })

/-- A step on connectors that is over at once, or takes some time. -/
inductive Step (c : RegistryCall)
  | over (answer : c.Answer) (db : Databases)
  | takes (ms : Nat) (db : Databases) (finish : Databases → c.Answer × Databases)

/-- Begins a step on connectors. -/
def begin (db : Databases) : (c : RegistryCall) → Step c
  | .inUse name => .over (db.connectors.inUse? name) db
  | .supports kind => .over (db.kinds.contains kind) db
  | .connect source =>
    let (reply, db) := db.beginConnect source
    match reply.delay with
    | some ms => .takes ms db fun db => db.endConnect source reply
    | none =>
      let (answer, db) := db.endConnect source reply
      .over answer db
  | .adopt name c =>
    let (answer, connectors) := db.connectors.adopt name c
    .over answer { db with connectors }
  | .close c =>
    let (answer, db) := db.close c
    .over answer db
  | .evict name =>
    let (answer, connectors) := db.connectors.evict name
    .over answer { db with connectors }
  | .evictAll =>
    let (answer, connectors) := db.connectors.evictAll
    .over answer { db with connectors }

/-- Does a step on connectors while nothing else goes on. -/
def finish {c : RegistryCall} : Step c → c.Answer × Databases
  | .over answer db => (answer, db)
  | .takes ms db finish => finish (db.later ms)

/-- Runs a statement: the rows, and how many milliseconds it took. -/
def query (db : Databases) (c : ConnectorId) (ctx : Context) (sql : String)
    (params : List Value) : (Except QueryError (List Row) × Int64) × Databases :=
  let start := db.moment.now
  let reply := db.script.head?.getD {}
  let db := { db.note (.queried c sql params) with script := db.script.tail }
  let (cut, moment) := match reply.delay with
    | some ms => ctx.wait db.moment ms
    | none => (none, db.moment)
  let db := { db with moment }
  let took := Int64.ofNat (moment.now - start)
  match cut <|> if reply.checks then ctx.check? moment else none with
  | some reason => ((.error (.ofInterruption reason 0), took), db)
  | none =>
    let connectors := if reply.closes then db.connectors.close c else db.connectors
    ((reply.result, took), { db with connectors })

/-- Answers a call of the query service. -/
def answer : (c : ServiceCall) → StateM Databases c.Answer
  | .source name => do return Keyed.find? name (← get).sources
  | .sources => do return (← get).sources.map Prod.snd
  | .registry c => modifyGet fun db => finish (db.begin c)
  | .limit ctx ms => modifyGet fun db =>
    let (ctx, moment) := ctx.child db.moment
    (ctx.timeout moment ms.toNat, { db with moment })
  | .query c ctx sql params => modifyGet fun db => db.query c ctx sql params

/-- Runs a program of the query service. -/
def run {α : Type} (p : ServiceProgram α) : StateM Databases α := Program.run answer p

/-- A program on connectors that is over, or waits until some time. -/
inductive Paused (α : Type)
  | over (result : α)
  | until (due : Nat) (resume : Databases → RegistryProgram α × Databases)

/-- Goes on with a program until it has to wait. -/
def proceed {α : Type} : RegistryProgram α → Databases → Paused α × Databases
  | .done result, db => (.over result, db)
  | .call c next, db =>
    match db.begin c with
    | .over answer db => proceed (next answer) db
    | .takes ms db finish =>
      (.until (db.moment.now + ms) fun db =>
        let (answer, db) := finish db
        (next answer, db), db)

/-- Moves the clock forward to a time and goes on with a program that waits until then. -/
def wake {α : Type} (due : Nat) (resume : Databases → RegistryProgram α × Databases)
    (db : Databases) : Paused α × Databases :=
  let (p, db) := resume (db.later (due - db.moment.now))
  proceed p db

/-- Goes on with two programs, at most `n` times.  Of two that wait until the same time the first
goes first. -/
def race {α : Type} : Nat → Paused α → Paused α → Databases → Option (α × α) × Databases
  | _, .over a, .over b, db => (some (a, b), db)
  | 0, _, _, db => (none, db)
  | n + 1, .until due resume, .over b, db =>
    let (p, db) := wake due resume db
    race n p (.over b) db
  | n + 1, .over a, .until due resume, db =>
    let (q, db) := wake due resume db
    race n (.over a) q db
  | n + 1, .until due resume, .until due' resume', db =>
    if due ≤ due' then
      let (p, db) := wake due resume db
      race n p (.until due' resume') db
    else
      let (q, db) := wake due' resume' db
      race n (.until due resume) q db

/-- Two queries look for the connector of a data source side by side.  Each waits at most once. -/
def connectTwice (db : Databases) (source : Source) :
    Option (Except QueryError ConnectorId × Except QueryError ConnectorId) × Databases :=
  let p := Registry.connectorFor source
  let (a, db) := proceed p db
  let (b, db) := proceed p db
  race 2 a b db

end Databases

end QueryGateway
