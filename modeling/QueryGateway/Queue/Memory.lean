import QueryGateway.Queue.Delivery

/-!
# The memory queue

Messages wait in order and are handed out from the front.  Each hand-out has a receipt, with which
it is settled once.  A message that is delivered again, because that is asked for or because its
delivery was lost, goes to the back with the next attempt number.

Nothing more is published to a closed queue.  A receiver waits for the closing and for a message at
once and takes either if both are there, so a closed queue may still hand out what waits.

## Main definitions

* `QueueMessage` — a message with its place in the order of publishing.
* `MemoryQueue` — what waits, what is handed out, and what was put aside.
* `MemoryQueue.publish`, `MemoryQueue.receive`, `MemoryQueue.settle`, `MemoryQueue.close`.
-/

namespace QueryGateway

/-- A message of the memory queue. -/
structure QueueMessage where
  /-- The number of messages published before it. -/
  serial : Nat
  body : Bytes
  attempt : UInt32
  deriving DecidableEq, Repr

/-- The message as it is delivered. -/
def QueueMessage.delivery (m : QueueMessage) : Delivery := .make m.body m.attempt

/-- The message for its next attempt. -/
def QueueMessage.next (m : QueueMessage) : QueueMessage := { m with attempt := m.attempt + 1 }

/-- A queue within the process. -/
structure MemoryQueue where
  /-- The messages that wait, the next one first. -/
  waiting : List QueueMessage := []
  /-- The messages that are handed out and not settled, by their receipts. -/
  inFlight : List (Nat × QueueMessage) := []
  /-- The bodies that were put aside, the oldest first. -/
  dead : List Bytes := []
  /-- How many messages were published. -/
  published : Nat := 0
  /-- How many receipts were given. -/
  handedOut : Nat := 0
  isClosed : Bool := false
  deriving DecidableEq

/-- What a receiver gets. -/
inductive Received
  /-- The queue is closed. -/
  | closed
  /-- Nothing waits. -/
  | nothing
  | delivery (receipt : Nat) (d : Delivery)
  deriving DecidableEq

namespace MemoryQueue

/-- Adds a message at the back. -/
def publish (q : MemoryQueue) (body : Bytes) : Except QueueError MemoryQueue :=
  if q.isClosed then .error .closed
  else
    .ok { q with
      waiting := q.waiting ++ [⟨q.published, body, 1⟩]
      published := q.published + 1 }

/-- Hands out the message at the front, if one waits. -/
def take (q : MemoryQueue) : Received × MemoryQueue :=
  match q.waiting with
  | [] => (if q.isClosed then .closed else .nothing, q)
  | m :: rest =>
    (.delivery q.handedOut m.delivery,
      { q with
        waiting := rest
        inFlight := q.inFlight ++ [(q.handedOut, m)]
        handedOut := q.handedOut + 1 })

/-- What a receiver gets.  If the queue is closed while a message waits, `noticed` says whether it
goes by the closing. -/
def receive (q : MemoryQueue) (noticed : Bool := true) : Received × MemoryQueue :=
  if q.isClosed && noticed then (.closed, q) else q.take

/-- The message with a receipt, unless it is settled. -/
def held? (q : MemoryQueue) (receipt : Nat) : Option QueueMessage := q.inFlight.lookup receipt

/-- Settles the delivery with a receipt; one that is settled stays as it is. -/
def settle (q : MemoryQueue) (receipt : Nat) (d : Disposition) : MemoryQueue :=
  match q.held? receipt with
  | none => q
  | some m =>
    let q := { q with inFlight := q.inFlight.filter fun (r, _) => r != receipt }
    match d with
    | .ack => q
    | .requeue => { q with waiting := q.waiting ++ [m.next] }
    | .reject => { q with dead := q.dead ++ [m.body] }

/-- Loses the delivery with a receipt. -/
def drop (q : MemoryQueue) (receipt : Nat) : MemoryQueue := q.settle receipt .requeue

/-- Takes no more messages.  What waits need not be handed out any more. -/
def close (q : MemoryQueue) : MemoryQueue := { q with isClosed := true }

end MemoryQueue

end QueryGateway
