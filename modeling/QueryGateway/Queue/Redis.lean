import QueryGateway.Program
import QueryGateway.Queue.Delivery
import QueryGateway.Queue.Envelope
import QueryGateway.Queue.ListStore
import QueryGateway.Text.Hex

/-!
# The queue on a list server

Producers add envelopes at the head of the queue's list and consumers take them from its end.  A
consumer moves an envelope to a list of its own while it is being handled, so a message is never
lost: whatever a consumer leaves there when it stops is put back in front of the queue when a
consumer of that name subscribes.

## Main definitions

* `RedisQueue` — the names of a queue and a consumer, with the keys of the lists.
* `Awaited` — how far waiting for a message has come.
* `RedisQueue.publish`, `RedisQueue.subscribe`, `RedisQueue.receive`, `RedisQueue.settle` — programs
  over the commands of the server.
-/

namespace QueryGateway

/-- The answer to a command: the element that was moved, or an error of the server. -/
abbrev ListReply := Except String (Option Bytes)

/-- A program over the commands of a list server. -/
abbrev ListProgram := Program ListCommand fun _ => ListReply

/-- The names of a queue and of a consumer. -/
structure RedisQueue where
  queue : String
  consumer : String
  deriving DecidableEq, Repr

/-- A delivery with the text of its envelope, by which it is settled. -/
structure RedisDelivery where
  delivery : Delivery
  text : Bytes
  deriving DecidableEq, Repr

/-- How far waiting for a message has come.  A queue on a list server is never closed. -/
inductive Awaited
  /-- No message yet; the receiver asks again. -/
  | pending
  | handed (d : RedisDelivery)
  deriving DecidableEq, Repr

namespace RedisQueue

/-- A consumer name that no other process has, from random bytes. -/
def freshConsumer (random : Bytes) : String := "consumer-" ++ Hex.encode random

/-- The list of what the consumer is handling. -/
def processingKey (q : RedisQueue) : String := q.queue ++ ":processing:" ++ q.consumer

/-- The list of what was put aside. -/
def deadKey (q : RedisQueue) : String := q.queue ++ ":dead"

/-- Runs a command whose failure is reported as given. -/
def command (c : ListCommand) (failure : String → QueueError) :
    ListProgram (Except QueueError (Option Bytes)) := do
  return (← Program.perform c).mapError failure

/-- Adds a message. -/
def publish (q : RedisQueue) (id : String) (now : Instant) (body : Bytes) :
    ListProgram (Except QueueError Unit) := do
  let reply ← command (.push q.queue (Envelope.wrap id now body).encode) .publish
  return reply.map fun _ => ()

/-- Puts back what the consumer left, its oldest message last so that it comes first; the list holds
no more than `n` messages. -/
def recover (q : RedisQueue) : Nat → ListProgram (Except QueueError Unit)
  | 0 => return .ok ()
  | n + 1 => do
    match ← command (.move false q.processingKey q.queue .left .right)
      fun reason => .receive ("recovering processing list: " ++ reason) with
    | .error e => return .error e
    | .ok none => return .ok ()
    | .ok (some _) => q.recover n

/-- Starts consuming, when the consumer's list holds at most `n` messages. -/
def subscribe (q : RedisQueue) (n : Nat) : ListProgram (Except QueueError Unit) :=
  q.recover (n + 1)

/-- Settles the delivery of an envelope. -/
def settle (q : RedisQueue) (text : Bytes) (d : Disposition) :
    ListProgram (Except QueueError Unit) := do
  let failure (reason : String) : QueueError := .settle (d.text ++ ": " ++ reason)
  let run (c : ListCommand) : ListProgram (Except QueueError Unit) := do
    return (← command c failure).map fun _ => ()
  match d with
  | .ack => run (.remove q.processingKey text)
  | .reject => run (.replace q.processingKey text q.deadKey text)
  | .requeue =>
    match Envelope.decode? text with
    | none => return .error (.invalidData "undecodable envelope")
    | some (e, _) => run (.replace q.processingKey text q.queue e.next.encode)

/-- Takes the next message, in at most `n` steps.  What is no envelope is put aside.  If nothing came
in the time that the server waits, or the steps are used up, the receiver is to ask again. -/
def receive (q : RedisQueue) : Nat → ListProgram (Except QueueError Awaited)
  | 0 => return .ok .pending
  | n + 1 => do
    match ← command (.move true q.queue q.processingKey .right .left)
      fun reason => .receive ("BLMOVE: " ++ reason) with
    | .error e => return .error e
    | .ok none => return .ok .pending
    | .ok (some text) =>
      match Envelope.decode? text with
      | some (e, body) => return .ok (.handed ⟨.make body e.attempt, text⟩)
      | none =>
        match ← q.settle text .reject with
        | .error e => return .error e
        | .ok () => q.receive n

end RedisQueue

/-- A list server with the names of commands that will fail once. -/
structure ListServer where
  lists : ListStore := []
  faults : List String := []
  deriving DecidableEq

/-- The server's answer to a command.  A command that fails changes nothing. -/
def ListServer.answer (c : ListCommand) : StateM ListServer ListReply := do
  let server ← get
  if server.faults.contains c.name then
    set { server with faults := server.faults.erase c.name }
    return .error "ERR failed"
  else
    let (reply, lists) := server.lists.run c
    set { server with lists }
    return .ok reply

/-- Runs a program against a list server. -/
def ListProgram.run {α : Type} (p : ListProgram α) (server : ListServer) : α × ListServer :=
  let step : StateM ListServer α := Program.run ListServer.answer p
  step.run server

end QueryGateway
