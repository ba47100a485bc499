import QueryGateway.Context
import QueryGateway.Queue.Consumer
import QueryGateway.Queue.Memory
import QueryGateway.Scripted.Script

/-!
# A consumer to try things out on

The handler does what a script says for a message and an attempt, messages arrive and the consumer is
cancelled at planned times, and the clock moves forward when nothing can go on.  Of things that
happen at one time, those planned earlier go first, and the loop of the consumer goes last.

## Main definitions

* `HandlerScript`, `HandlerCourse` — what a handler does, and when.
* `ConsumerPlan` — what is planned around a consumer.
* `ConsumerTrial` — a consumer on trial; `ConsumerPlan.run` carries a trial out.
-/

namespace QueryGateway

open Json

/-- What a handler does with a delivery, one thing after the other. -/
structure HandlerScript where
  breaks : Bool := false
  hangs : Bool := false
  /-- It waits until it is cancelled. -/
  untilCancel : Bool := false
  /-- It waits under its context for so many milliseconds. -/
  wait : Option Nat := none
  /-- It sleeps for so many milliseconds, whatever happens. -/
  sleep : Nat := 0
  disposition : Disposition := .ack
  /-- It does so without waiting for anything. -/
  isPlain : Bool := true
  deriving DecidableEq, Repr

/-- How a handler comes to its end. -/
inductive HandlerEnd
  | broken
  | done (d : Disposition)
  deriving DecidableEq, Repr

/-- When a handler comes to its end, if ever, and when and why its waiting was cut short. -/
structure HandlerCourse where
  cut : Option (Nat × Interruption) := none
  ends : Option (Nat × HandlerEnd) := none
  deriving DecidableEq, Repr

namespace HandlerScript

/-- When a wait that starts at a time is over, and why it was cut short. -/
def waited (deadline : Nat) (cancelAt : Option Nat) (start ms : Nat) : Nat × Option Interruption :=
  if cancelAt.any (· ≤ start) then (start, some .cancelled)
  else if deadline ≤ start then (start, some .deadlineExceeded)
  else if start + ms ≤ deadline ∧ !cancelAt.any (· < start + ms) then (start + ms, none)
  else
    match cancelAt with
    | some at_ => if at_ < deadline then (at_, some .cancelled) else (deadline, some .deadlineExceeded)
    | none => (deadline, some .deadlineExceeded)

/-- The course of a handler that starts at a time. -/
def course (h : HandlerScript) (deadline : Nat) (cancelAt : Option Nat) (start : Nat) :
    HandlerCourse :=
  if h.breaks then { ends := some (start, .broken) }
  else if h.hangs then {}
  else
    match if h.untilCancel then cancelAt.map (max start) else some start with
    | none => {}
    | some start =>
      let (finish, cut) := match h.wait with
        | some ms => waited deadline cancelAt start ms
        | none => (start, none)
      { cut := cut.map fun reason => (finish, reason)
        ends := some (finish + h.sleep, .done h.disposition) }

/-- A handler script in JSON: a disposition, or an object of things to do. -/
def ofJson (v : Value) : HandlerScript :=
  match v with
  | .string text => { disposition := (Disposition.ofText? text).getD .ack }
  | v =>
    { breaks := v.flagAt "panic"
      hangs := v.flagAt "hang"
      untilCancel := v.flagAt "untilCancel"
      wait := v.natAt? "run"
      sleep := v.natAt "sleepMs"
      disposition := (Disposition.ofText? (v.stringAt "then")).getD .ack
      isPlain := v.flagAt "panic" }

end HandlerScript

/-- What is planned around a consumer. -/
structure ConsumerPlan where
  options : ConsumerOptions := {}
  /-- What the handler does with each message, attempt by attempt; the last one is repeated. -/
  script : List (Bytes × List HandlerScript) := []
  /-- The messages that wait from the start. -/
  messages : List Bytes := []
  /-- The messages that arrive later. -/
  later : List (Nat × Bytes) := []
  cancelAt : Option Nat := none
  closeAt : Option Nat := none
  /-- How many receives fail before the first that does not. -/
  failures : Nat := 0

/-- What the handler does with a delivery. -/
def ConsumerPlan.handler (plan : ConsumerPlan) (d : Delivery) : HandlerScript :=
  let actions := (plan.script.lookup d.body).getD []
  (actions[min (d.attempt.toNat - 1) (actions.length - 1)]?).getD {}

/-- What is due at some time. -/
inductive Due
  | arrival (body : Bytes)
  | cancel
  | close
  | pauseOver
  | handled (ticket : Nat) (isPlain : Bool) (how : HandlerEnd)
  | overran (ticket : Nat) (isPlain : Bool)
  deriving DecidableEq, Repr

/-- A note of what the handler saw. -/
inductive HandlerNote
  /-- It is called, with so many milliseconds left and perhaps cancelled already. -/
  | called (left : Nat) (isCancelled : Bool)
  /-- Its waiting was cut short. -/
  | cut (reason : Interruption)
  deriving DecidableEq, Repr

/-- A consumer on trial. -/
structure ConsumerTrial where
  now : Nat := 0
  consumer : Consumer := {}
  queue : MemoryQueue := {}
  /-- The receipts of the deliveries taken. -/
  receipts : List Nat := []
  failures : Nat := 0
  isCancelled : Bool := false
  /-- What is due, the earliest first. -/
  agenda : List (Nat × Due) := []
  /-- How many deliveries are being waited for, and the most there ever were. -/
  busy : Nat := 0
  peak : Nat := 0
  /-- The calls of the handler, the last one first. -/
  calls : List (Nat × Delivery × HandlerNote) := []
  /-- The overruns that the handler was told of, the last one first. -/
  overruns : List (Nat × Delivery × Disposition) := []
  /-- The times of failed receives, the last one first. -/
  failedPolls : List Nat := []

namespace ConsumerTrial

/-- The trial with one more thing due. -/
def plan (t : ConsumerTrial) (due : Nat) (what : Due) : ConsumerTrial :=
  { t with agenda := t.agenda.takeWhile (·.1 ≤ due) ++ (due, what) ::
      t.agenda.dropWhile (·.1 ≤ due) }

/-- An event happens to the consumer. -/
def happen (t : ConsumerTrial) (o : ConsumerOptions) (e : ConsumerEvent) : ConsumerTrial :=
  { t with consumer := (t.consumer.step? o e).getD t.consumer }

/-- A delivery is taken and its handler is called. -/
def receive (p : ConsumerPlan) (t : ConsumerTrial) (receipt : Nat) (d : Delivery) : ConsumerTrial :=
  let ticket := t.consumer.taken
  let h := p.handler d
  let deadline := t.now + p.options.timeoutMs
  let course := h.course deadline p.cancelAt t.now
  let cut := (course.cut.filter (·.1 ≤ deadline)).map fun (time, reason) =>
    (time, d, HandlerNote.cut reason)
  let busy := t.busy + if h.isPlain then 0 else 1
  let called := (t.now, d, HandlerNote.called p.options.timeoutMs t.isCancelled)
  let t := { t.happen p.options (.received d) with
    receipts := t.receipts ++ [receipt]
    busy
    peak := max t.peak busy
    calls := cut.toList ++ called :: t.calls }
  match course.ends with
  | some (time, how) =>
    if time ≤ deadline then t.plan time (.handled ticket h.isPlain how)
    else t.plan deadline (.overran ticket h.isPlain)
  | none => t.plan deadline (.overran ticket h.isPlain)

/-- The loop of the consumer goes on, unless it has to wait. -/
def loop? (p : ConsumerPlan) (t : ConsumerTrial) : Option ConsumerTrial :=
  if t.isCancelled && t.consumer.isListening then some (t.happen p.options .cancelSeen)
  else if t.consumer.phase = .receiving then
    if t.failures > 0 then
      let t := { t with failures := t.failures - 1, failedPolls := t.now :: t.failedPolls }
      some ((t.happen p.options .receiveFailed).plan (t.now + t.consumer.pause) .pauseOver)
    else
      match t.queue.receive with
      | (.closed, _) => some (t.happen p.options .streamClosed)
      | (.nothing, _) => none
      | (.delivery receipt d, queue) => some ({ t with queue }.receive p receipt d)
  else (t.consumer.idle? p.options).map (t.happen p.options)

/-- A delivery is settled. -/
def settle (t : ConsumerTrial) (o : ConsumerOptions) (ticket : Nat) (d : Disposition) :
    ConsumerTrial :=
  { t.happen o (.settled ticket d) with
    queue := t.queue.settle (t.receipts.getD ticket 0) d }

/-- Something that was due happens. -/
def occur (o : ConsumerOptions) (t : ConsumerTrial) : Due → ConsumerTrial
  | .arrival body => { t with queue := (t.queue.publish body).toOption.getD t.queue }
  | .cancel => { t with isCancelled := true }
  | .close => { t with queue := t.queue.close }
  | .pauseOver => t.happen o .pauseOver
  | .handled ticket isPlain how =>
    let t := { t with busy := t.busy - if isPlain then 0 else 1 }
    match how with
    | .done d => (t.happen o (.handled ticket d)).settle o ticket d
    | .broken =>
      { t.happen o (.broke ticket) with queue := t.queue.drop (t.receipts.getD ticket 0) }
  | .overran ticket isPlain =>
    let t := { t with busy := t.busy - if isPlain then 0 else 1 }
    match t.consumer.task? ticket with
    | none => t
    | some task =>
      let d := o.backstop task.delivery.attempt
      let t := (t.happen o (.overran ticket)).happen o (.noted ticket d)
      { t with overruns := (t.now, task.delivery, d) :: t.overruns }.settle o ticket d

/-- Carries a trial out until the consumer has ended, in at most so many steps. -/
def run (p : ConsumerPlan) : Nat → ConsumerTrial → ConsumerTrial
  | 0, t => t
  | fuel + 1, t =>
    if t.consumer.phase = .over then t
    else
      match t.agenda with
      | (due, what) :: rest =>
        if due ≤ t.now then run p fuel ({ t with agenda := rest }.occur p.options what)
        else
          match t.loop? p with
          | some t => run p fuel t
          | none => run p fuel { t with now := due }
      | [] =>
        match t.loop? p with
        | some t => run p fuel t
        | none => t

/-- Whether one note comes before another: by time, body and attempt. -/
def earlier {α : Type} (a b : Nat × Delivery × α) : Bool :=
  if a.1 ≠ b.1 then a.1 < b.1
  else if a.2.1.body ≠ b.2.1.body then a.2.1.body < b.2.1.body
  else a.2.1.attempt ≤ b.2.1.attempt

end ConsumerTrial

/-- The start of a trial. -/
def ConsumerPlan.start (p : ConsumerPlan) : ConsumerTrial :=
  let publish (q : MemoryQueue) (body : Bytes) := (q.publish body).toOption.getD q
  let agenda := p.later.map (fun (due, body) => (due, Due.arrival body)) ++
    p.cancelAt.toList.map (·, .cancel) ++ p.closeAt.toList.map (·, .close)
  let t : ConsumerTrial := { queue := p.messages.foldl publish {}, failures := p.failures }
  agenda.foldl (fun t (due, what) => t.plan due what) t

/-- A bound on the steps of a trial. -/
def consumerFuel : Nat := 2000000

/-- Carries a plan out. -/
def ConsumerPlan.run (p : ConsumerPlan) : ConsumerTrial := p.start.run p consumerFuel

namespace Script

/-- The plan of a trial. -/
def consumerPlan (v : Value) : ConsumerPlan :=
  let options := v.member "options"
  { options :=
      { timeoutMs := options.natAt "timeoutMs" 30000
        maxInFlight := options.natAt "maxInFlight" 16
        maxAttempts := .ofNat (options.natAt "maxAttempts" 5) }
    script := (v.member "script").members.map fun (body, actions) =>
      (Utf8.encode body, actions.items.map HandlerScript.ofJson)
    messages := (v.itemsAt "messages").map bytes
    later := (v.itemsAt "later").map fun m => (m.natAt "atMs", bytes (m.member "body"))
    cancelAt := if v.has "closeAtMs" then none else some (v.natAt "cancelAtMs" 600000)
    closeAt := v.natAt? "closeAtMs"
    failures := v.natAt "receiveErrors" }

end Script

end QueryGateway
