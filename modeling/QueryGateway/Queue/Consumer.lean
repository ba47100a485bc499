import QueryGateway.Queue.Delivery

/-!
# Consumers

A consumer takes deliveries from a queue and hands each to a task of its own.  A slot is taken
before a delivery is waited for and given back when its task has ended, so only so many deliveries
are in hand at once.  A handler that overruns its time is told so, and the delivery is settled by the
number of the attempt alone.  When the consumer is cancelled or the queue closes, it takes no more
deliveries and waits for the tasks to end.

A consumer is a machine: what happens around it comes as events, in any order that the machine
allows.

## Main definitions

* `ConsumerOptions` — the time for a delivery, the number of slots and of attempts.
* `ConsumerEvent` — what happens to a consumer.
* `Consumer` — the loop and its tasks; `Consumer.step?` is the machine.
* `Consumer.Run` — the runs of a consumer.
-/

namespace QueryGateway

/-- How deliveries are handled. -/
structure ConsumerOptions where
  /-- How many milliseconds handling a delivery may take.  The machine has no clock and does not read
  this: whether a handler is done in time is told by the events, and whoever makes the events reads
  it. -/
  timeoutMs : Nat := 30000
  /-- How many deliveries may be in hand at once. -/
  maxInFlight : Nat := 16
  /-- The attempt that is the last one if it overruns its time. -/
  maxAttempts : UInt32 := 5
  deriving DecidableEq, Repr

namespace ConsumerOptions

/-- The number of slots; there is at least one. -/
def slots (o : ConsumerOptions) : Nat := max 1 o.maxInFlight

/-- The last attempt; there is at least one. -/
def lastAttempt (o : ConsumerOptions) : UInt32 := if o.maxAttempts = 0 then 1 else o.maxAttempts

/-- What becomes of a delivery whose handler overran its time. -/
def backstop (o : ConsumerOptions) (attempt : UInt32) : Disposition :=
  .refused (attempt < o.lastAttempt)

end ConsumerOptions

/-- The pause in milliseconds after a failed receive that follows a delivery. -/
def firstPause : Nat := 200

/-- The longest pause. -/
def longestPause : Nat := 10000

/-- The pause after one more failed receive. -/
def nextPause (pause : Nat) : Nat := min (pause * 2) longestPause

/-- What the loop of a consumer is doing. -/
inductive ConsumerPhase
  /-- It waits for a slot. -/
  | seeking
  /-- It has a slot and waits for a delivery. -/
  | receiving
  /-- It pauses after a failed receive. -/
  | pausing
  /-- It takes no more deliveries and waits for the tasks. -/
  | leaving
  | over
  deriving DecidableEq, Repr

/-- How far a task has come. -/
inductive TaskStage
  /-- The handler is at work. -/
  | handling
  /-- The handler overran its time and is told what becomes of the delivery. -/
  | noting (d : Disposition)
  /-- The delivery is to be settled. -/
  | settling (d : Disposition)
  deriving DecidableEq, Repr

/-- A delivery in hand. -/
structure Task where
  /-- The number of deliveries taken before. -/
  ticket : Nat
  delivery : Delivery
  stage : TaskStage := .handling
  deriving DecidableEq, Repr

/-- What happens to a consumer. -/
inductive ConsumerEvent
  | slotTaken
  | received (d : Delivery)
  /-- The queue is closed. -/
  | streamClosed
  | receiveFailed
  | pauseOver
  /-- The loop sees that it is cancelled. -/
  | cancelSeen
  /-- A handler was done in time. -/
  | handled (ticket : Nat) (d : Disposition)
  /-- A handler overran its time. -/
  | overran (ticket : Nat)
  /-- A handler was told of the overrun, with what becomes of the delivery. -/
  | noted (ticket : Nat) (d : Disposition)
  /-- A delivery was settled. -/
  | settled (ticket : Nat) (d : Disposition)
  /-- A handler broke down, at work or when it was told of an overrun, which loses the delivery. -/
  | broke (ticket : Nat)
  /-- The consumer has ended. -/
  | ended
  deriving DecidableEq, Repr

/-- A consumer. -/
structure Consumer where
  phase : ConsumerPhase := .seeking
  /-- The number of deliveries taken. -/
  taken : Nat := 0
  /-- The deliveries in hand. -/
  tasks : List Task := []
  /-- The next pause in milliseconds. -/
  pause : Nat := firstPause
  deriving DecidableEq, Repr

namespace Consumer

/-- The task with a ticket. -/
def task? (c : Consumer) (ticket : Nat) : Option Task := c.tasks.find? (·.ticket = ticket)

/-- The consumer without a task. -/
def endTask (c : Consumer) (ticket : Nat) : Consumer :=
  { c with tasks := c.tasks.filter (·.ticket ≠ ticket) }

/-- The consumer with a task in another stage. -/
def advance (c : Consumer) (ticket : Nat) (stage : TaskStage) : Consumer :=
  { c with tasks := c.tasks.map fun t => if t.ticket = ticket then { t with stage } else t }

/-- The consumer with its loop in another phase. -/
def enter (c : Consumer) (phase : ConsumerPhase) : Consumer := { c with phase }

/-- The consumer that took a delivery. -/
def take (c : Consumer) (d : Delivery) : Consumer :=
  { phase := .seeking, taken := c.taken + 1, tasks := c.tasks ++ [{ ticket := c.taken, delivery := d }],
    pause := firstPause }

/-- Whether the loop can see that it is cancelled. -/
def isListening (c : Consumer) : Bool :=
  match c.phase with
  | .seeking | .receiving | .pausing => true
  | .leaving | .over => false

/-- What a consumer is after an event that can happen to it. -/
def step? (o : ConsumerOptions) (c : Consumer) : ConsumerEvent → Option Consumer
  | .slotTaken =>
    if c.phase = .seeking ∧ c.tasks.length < o.slots then some (c.enter .receiving) else none
  | .received d => if c.phase = .receiving then some (c.take d) else none
  | .streamClosed => if c.phase = .receiving then some (c.enter .leaving) else none
  | .receiveFailed => if c.phase = .receiving then some (c.enter .pausing) else none
  | .pauseOver =>
    if c.phase = .pausing then some { c with phase := .seeking, pause := nextPause c.pause } else none
  | .cancelSeen => if c.isListening then some (c.enter .leaving) else none
  | .handled ticket d =>
    match c.task? ticket with
    | some { stage := .handling, .. } => some (c.advance ticket (.settling d))
    | _ => none
  | .overran ticket =>
    match c.task? ticket with
    | some { stage := .handling, delivery, .. } =>
      some (c.advance ticket (.noting (o.backstop delivery.attempt)))
    | _ => none
  | .noted ticket d =>
    match c.task? ticket with
    | some { stage := .noting e, .. } =>
      if d = e then some (c.advance ticket (.settling e)) else none
    | _ => none
  | .settled ticket d =>
    match c.task? ticket with
    | some { stage := .settling e, .. } => if d = e then some (c.endTask ticket) else none
    | _ => none
  | .broke ticket =>
    match c.task? ticket with
    | some { stage := .handling, .. } | some { stage := .noting _, .. } => some (c.endTask ticket)
    | _ => none
  | .ended => if c.phase = .leaving ∧ c.tasks = [] then some (c.enter .over) else none

/-- A consumer after events that happen in turn. -/
inductive Run (o : ConsumerOptions) : List ConsumerEvent → Consumer → Prop
  | start : Run o [] {}
  | next {events : List ConsumerEvent} {c c' : Consumer} {e : ConsumerEvent} :
      Run o events c → step? o c e = some c' → Run o (events ++ [e]) c'

/-- What the loop does next of itself when nothing is received, cancelled or ended. -/
def idle? (o : ConsumerOptions) (c : Consumer) : Option ConsumerEvent :=
  if c.phase = .seeking ∧ c.tasks.length < o.slots then some .slotTaken
  else if c.phase = .leaving ∧ c.tasks = [] then some .ended
  else none

end Consumer

end QueryGateway
