import Mathlib.Logic.Relation
import QueryGateway.Gateway.Setup
import QueryGateway.Proofs.Program
import QueryGateway.Proofs.Queue.Consumer
import QueryGateway.Proofs.Queue.History

/-!
# How often the worker attempts a message

The worker of a gateway takes messages from a queue and either answers each delivery or overruns
its time.  Both the processor and the consumer bound the number of attempts, each with a maximum of
its own; the maxima agree, and so the queue returns a message only as long as another attempt is
allowed.

## Main definitions

* `Worker.State` — a worker at its queue.
* `Worker.Step`, `Worker.Reaches` — what happens there.
* `Worker.Attends` — what is true of a worker at work.
* `Worker.WithinAttempts` — what becomes of one message.

## Main results

* `Processor.allows_of_handle` — handling asks for another attempt only if there may be one.
* `Worker.attends_of_reaches` — the attempts are bounded in every state.
* `Worker.settled_within_attempts` — what becomes of a message.
-/

namespace QueryGateway

open Program GatewayCall

/-! ### Another attempt -/

theorem Disposition.refused_eq_requeue {again : Bool} :
    Disposition.refused again = .requeue ↔ again = true := by
  cases again <;> decide

namespace Processor

variable {p : Processor} {attempt : UInt32} {events : List ((c : GatewayCall) × c.Answer)}

theorem allows_of_afterFailure {policy : RetryPolicy}
    (h : policy.afterFailure attempt = .requeue) : policy.allows attempt = true :=
  Disposition.refused_eq_requeue.mp h

theorem allows_of_fail {id : String} {e : QueryError} {tookMs : Int64}
    (h : Trace (p.fail id e attempt tookMs) events .requeue) : p.retry.allows attempt = true := by
  unfold fail at h
  split at h
  · next hretry => exact (Bool.and_eq_true_iff.mp hretry).2
  · obtain ⟨answer, rest, -, hdone⟩ := trace_perform_bind.mp h
    cases (trace_done.mp hdone).2

theorem allows_of_run {m : JobMessage} {ctx : Context}
    (h : Trace (p.run m attempt ctx) events .requeue) : p.retry.allows attempt = true := by
  unfold run at h
  obtain ⟨⟨result, latency⟩, rest, -, hquery⟩ := trace_perform_bind.mp h
  cases result with
  | ok response =>
    obtain ⟨-, rest, -, hrecord⟩ := trace_perform_bind.mp hquery
    obtain ⟨answer, rest, -, hmark⟩ := trace_perform_bind.mp hrecord
    cases answer with
    | ok _ => cases (trace_done.mp hmark).2
    | error _ => exact allows_of_afterFailure (trace_done.mp hmark).2
  | error e =>
    obtain ⟨-, rest, -, hrecord⟩ := trace_perform_bind.mp hquery
    exact allows_of_fail hrecord

theorem allows_of_process {m : JobMessage} {ctx : Context}
    (h : Trace (p.process m attempt ctx) events .requeue) : p.retry.allows attempt = true := by
  unfold process at h
  obtain ⟨answer, rest, -, hfind⟩ := trace_perform_bind.mp h
  match answer with
  | .error _ => exact allows_of_afterFailure (trace_done.mp hfind).2
  | .ok none => cases (trace_done.mp hfind).2
  | .ok (some job) =>
    dsimp only at hfind
    split at hfind
    · cases (trace_done.mp hfind).2
    · obtain ⟨marked, rest, -, hmark⟩ := trace_perform_bind.mp hfind
      split at hmark
      · cases (trace_done.mp hmark).2
      · exact allows_of_afterFailure (trace_done.mp hmark).2
      · exact allows_of_run hmark

/-- Handling asks for another attempt only if there may be one. -/
theorem allows_of_handle {body : Bytes} {ctx : Context}
    (h : Trace (p.handle body attempt ctx) events .requeue) : p.retry.allows attempt = true := by
  unfold handle at h
  split at h
  · exact allows_of_process h
  · cases (trace_done.mp h).2

end Processor

/-! ### The worker at its queue -/

/-- What settling a delivery is logged as. -/
def MemoryQueue.settlement (q : MemoryQueue) (receipt : Nat) (d : Disposition) :
    List QueueEvent :=
  match q.held? receipt with
  | some m => [.settled receipt m.serial d]
  | none => []

/-- What becomes of the delivery of a task, if that is decided. -/
def TaskStage.decision? : TaskStage → Option Disposition
  | .handling => none
  | .noting d => some d
  | .settling d => some d

namespace Worker

/-- A worker at its queue. -/
structure State where
  queue : MemoryQueue := {}
  consumer : Consumer := {}
  /-- The receipts of the deliveries that were taken, in turn. -/
  receipts : List Nat := []
  log : List QueueEvent := []

/-- One step of a worker none of whose handlers breaks down, or of those who publish.  The calls of
the processor may have any answers. -/
inductive Step (w : Worker) : State → State → Prop
  | published {s : State} {queue : MemoryQueue} {body : Bytes}
      (hqueue : s.queue.publish body = .ok queue) :
      Step w s { s with queue, log := s.log ++ [.published s.queue.published body] }
  | received {s : State} {queue : MemoryQueue} {consumer : Consumer} {m : QueueMessage}
      {rest : List QueueMessage} {receipt : Nat} {d : Delivery}
      (hfront : s.queue.waiting = m :: rest)
      (hqueue : s.queue.receive = (.delivery receipt d, queue))
      (hconsumer : s.consumer.step? w.options (.received d) = some consumer) :
      Step w s ⟨queue, consumer, s.receipts ++ [receipt], s.log ++ [.delivered receipt m.serial d]⟩
  /-- The handler was called with the delivery and is done in time. -/
  | handled {s : State} {consumer : Consumer} {ticket : Nat} {t : Task} {ctx : Context}
      {events : List ((c : GatewayCall) × c.Answer)} {d : Disposition}
      (htask : s.consumer.task? ticket = some t)
      (hhandle : Trace (w.processor.handle t.delivery.body t.delivery.attempt ctx) events d)
      (hconsumer : s.consumer.step? w.options (.handled ticket d) = some consumer) :
      Step w s { s with consumer }
  | overran {s : State} {consumer : Consumer} {ticket : Nat}
      (hconsumer : s.consumer.step? w.options (.overran ticket) = some consumer) :
      Step w s { s with consumer }
  | noted {s : State} {consumer : Consumer} {ticket : Nat} {t : Task}
      {events : List ((c : GatewayCall) × c.Answer)} {d : Disposition}
      (htask : s.consumer.task? ticket = some t)
      (hnote : Trace (Processor.afterTimeout t.delivery.body t.delivery.attempt d) events ())
      (hconsumer : s.consumer.step? w.options (.noted ticket d) = some consumer) :
      Step w s { s with consumer }
  | settled {s : State} {consumer : Consumer} {ticket receipt : Nat} {d : Disposition}
      (hreceipt : s.receipts[ticket]? = some receipt)
      (hconsumer : s.consumer.step? w.options (.settled ticket d) = some consumer) :
      Step w s { s with
        queue := s.queue.settle receipt d
        consumer
        log := s.log ++ s.queue.settlement receipt d }
  | looped {s : State} {consumer : Consumer} {e : ConsumerEvent} (he : e.isOfLoop = true)
      (hconsumer : s.consumer.step? w.options e = some consumer) : Step w s { s with consumer }

/-- A state that a worker comes to. -/
def Reaches (w : Worker) (s : State) : Prop := Relation.ReflTransGen (Step w) {} s

/-! ### The bound -/

/-- What is true of a worker at work. -/
structure Attends (w : Worker) (s : State) : Prop where
  ledger : MemoryQueue.Ledger s.log s.queue
  /-- Nobody else takes deliveries, so tickets and receipts are the same. -/
  receipts : s.receipts = List.range s.queue.handedOut
  taken : s.consumer.taken = s.queue.handedOut
  inHand : ∀ t ∈ s.consumer.tasks, ∃ m, s.queue.held? t.ticket = some m ∧ t.delivery = m.delivery
  allowed : ∀ t ∈ s.consumer.tasks, t.stage.decision? = some .requeue →
    t.delivery.attempt < w.options.lastAttempt
  /-- A message is returned less often than it may be attempted. -/
  bounded : ∀ serial, (story serial s.log).count (.ended .requeue) < w.options.lastAttempt.toNat

/-- There is a last attempt. -/
theorem lastAttempt_pos (o : ConsumerOptions) : 0 < o.lastAttempt.toNat := by
  unfold ConsumerOptions.lastAttempt
  split
  · decide
  · next hne => exact Nat.pos_of_ne_zero fun h => hne (UInt32.toNat_inj.mp h)

theorem attends_start (w : Worker) : Attends w {} where
  ledger := MemoryQueue.ledger_empty
  receipts := rfl
  taken := rfl
  inHand := nofun
  allowed := nofun
  bounded _ := lastAttempt_pos w.options

section Step

variable {w : Worker} {s : State}

/-- Something happens that returns no message. -/
theorem count_requeued_append {serial : Nat} {log events : List QueueEvent}
    (h : .ended .requeue ∉ story serial events) :
    (story serial (log ++ events)).count (.ended .requeue) =
      (story serial log).count (.ended .requeue) := by
  rw [story_append, List.count_append, List.count_eq_zero_of_not_mem h, Nat.add_zero]

theorem Attends.publish (h : Attends w s) {queue : MemoryQueue} {body : Bytes}
    (hqueue : s.queue.publish body = .ok queue) :
    Attends w { s with queue, log := s.log ++ [.published s.queue.published body] } := by
  obtain ⟨-, -, hhanded⟩ := MemoryQueue.live_publish hqueue
  refine ⟨h.ledger.publish hqueue, ?_, ?_, ?_, h.allowed, ?_⟩
  · rw [h.receipts, hhanded]
  · rw [h.taken, hhanded]
  · intro t ht
    obtain ⟨m, hm, hdelivery⟩ := h.inHand t ht
    exact ⟨m, (MemoryQueue.held?_publish hqueue t.ticket).trans hm, hdelivery⟩
  · intro serial
    rw [count_requeued_append List.not_mem_nil]
    exact h.bounded serial

theorem Attends.receive (h : Attends w s) {queue : MemoryQueue} {m : QueueMessage}
    {rest : List QueueMessage} {receipt : Nat} {d : Delivery}
    (hfront : s.queue.waiting = m :: rest)
    (hqueue : s.queue.receive = (.delivery receipt d, queue)) :
    Attends w ⟨queue, s.consumer.take d, s.receipts ++ [receipt],
      s.log ++ [.delivered receipt m.serial d]⟩ := by
  obtain ⟨m', rfl, rfl, -, hflight, hhanded⟩ := MemoryQueue.exists_of_receive hqueue
  obtain ⟨hnew, hold⟩ := MemoryQueue.held?_of_receive h.ledger.numbered hflight rfl
  refine ⟨h.ledger.receive hfront hqueue, ?_, ?_, ?_, ?_, ?_⟩
  · rw [h.receipts, hhanded]
    exact List.range_succ.symm
  · rw [hhanded, ← h.taken]
    rfl
  · refine List.forall_mem_append.mpr ⟨fun t ht => ?_, List.forall_mem_singleton.mpr ?_⟩
    · obtain ⟨m, hm, hdelivery⟩ := h.inHand t ht
      have hne := Nat.ne_of_lt (MemoryQueue.lt_of_held? h.ledger.numbered hm)
      exact ⟨m, (hold t.ticket hne).trans hm, hdelivery⟩
    · exact ⟨m', h.taken ▸ hnew, rfl⟩
  · exact List.forall_mem_append.mpr ⟨h.allowed, List.forall_mem_singleton.mpr nofun⟩
  · intro serial
    rw [count_requeued_append]
    · exact h.bounded serial
    · by_cases hserial : m.serial = serial <;> simp [story, QueueEvent.turn?, hserial]

/-- A task moves on; if its delivery is to be returned, another attempt is allowed. -/
theorem Attends.advance (h : Attends w s) {ticket : Nat} {t : Task}
    (htask : s.consumer.task? ticket = some t) {stage : TaskStage}
    (hstage : stage.decision? = some .requeue → t.delivery.attempt < w.options.lastAttempt) :
    Attends w { s with consumer := s.consumer.advance ticket stage } := by
  obtain ⟨hmem, rfl⟩ := Consumer.mem_tasks_of_task? htask
  refine ⟨h.ledger, h.receipts, h.taken, ?_, ?_, h.bounded⟩
  · intro t' ht'
    obtain ⟨t₀, ht₀, hticket, hdelivery, -⟩ := Consumer.mem_tasks_advance ht'
    obtain ⟨m, hm, heq⟩ := h.inHand t₀ ht₀
    exact ⟨m, hticket ▸ hm, hdelivery.symm.trans heq⟩
  · intro t' ht' hreturned
    obtain ⟨t₀, ht₀, hticket, hdelivery, hstage'⟩ := Consumer.mem_tasks_advance ht'
    split at hstage'
    · next hsame =>
      -- both tasks are of the delivery with this receipt
      obtain ⟨m, hm, heq⟩ := h.inHand t hmem
      obtain ⟨m₀, hm₀, heq₀⟩ := h.inHand t₀ ht₀
      rw [hticket, hsame, hm] at hm₀
      obtain rfl := Option.some.inj hm₀
      rw [← hdelivery, heq₀, ← heq]
      exact hstage (hstage' ▸ hreturned)
    · rw [← hdelivery]
      exact h.allowed t₀ ht₀ (hstage' ▸ hreturned)

/-- Only a delivery that may be attempted again is returned. -/
theorem Attends.bounded_settle (h : Attends w s) {receipt : Nat} {m : QueueMessage}
    (hm : s.queue.held? receipt = some m) {d : Disposition}
    (hallowed : d = .requeue → m.delivery.attempt < w.options.lastAttempt) (serial : Nat) :
    (story serial (s.log ++ [.settled receipt m.serial d])).count (.ended .requeue) <
      w.options.lastAttempt.toNat := by
  have hbounded := h.bounded serial
  by_cases hserial : m.serial = serial
  · subst hserial
    obtain ⟨n, -, hattempt, hstory⟩ := h.ledger.stands_of_held? hm
    have hcount : (story m.serial s.log).count (.ended .requeue) = n := by
      rw [hstory, count_ended_rounds_append, if_pos rfl]
      rfl
    have hends : story m.serial [.settled receipt m.serial d] = [.ended d] :=
      ((ends_settled receipt m.serial d).story m.serial).trans (if_pos rfl)
    rw [story_append, hends, List.count_append, hcount, List.count_singleton]
    by_cases hd : d = .requeue
    · -- the attempt is known, for it is at most the last one
      have hlt := UInt32.lt_iff_toNat_lt.mp (hallowed hd)
      have hlast := w.options.lastAttempt.toNat_lt
      rw [MemoryQueue.delivery_eq_nth hattempt, (nthDelivery_eq (by omega) m.body).2] at hlt
      subst hd
      exact hlt
    · rw [hcount] at hbounded
      rw [if_neg (by simpa using hd)]
      exact hbounded
  · rw [count_requeued_append]
    · exact hbounded
    · simp [story, QueueEvent.turn?, hserial]

theorem Attends.settle (h : Attends w s) {ticket receipt : Nat} {d : Disposition} {t : Task}
    (hreceipt : s.receipts[ticket]? = some receipt)
    (htask : s.consumer.task? ticket = some t) (hstage : t.stage = .settling d) :
    Attends w { s with
      queue := s.queue.settle receipt d
      consumer := s.consumer.endTask ticket
      log := s.log ++ s.queue.settlement receipt d } := by
  obtain ⟨hmem, rfl⟩ := Consumer.mem_tasks_of_task? htask
  obtain ⟨m, hm, hdelivery⟩ := h.inHand t hmem
  obtain rfl : t.ticket = receipt := by
    rw [h.receipts] at hreceipt
    obtain ⟨hlt, hget⟩ := List.getElem?_eq_some_iff.mp hreceipt
    rwa [List.getElem_range] at hget
  obtain ⟨-, hhanded⟩ := MemoryQueue.inFlight_settle hm d
  have hevents : s.queue.settlement t.ticket d = [.settled t.ticket m.serial d] := by
    unfold MemoryQueue.settlement
    rw [hm]
  have hallowed : d = .requeue → m.delivery.attempt < w.options.lastAttempt := by
    rintro rfl
    exact hdelivery ▸ h.allowed t hmem (hstage ▸ rfl)
  rw [hevents]
  refine ⟨h.ledger.settle hm (ends_settled _ _ _), ?_, ?_, ?_, ?_, h.bounded_settle hm hallowed⟩
  · rw [h.receipts, hhanded]
  · rw [hhanded, ← h.taken]
    rfl
  · intro t' ht'
    obtain ⟨hmem', hne⟩ := Consumer.mem_tasks_endTask.mp ht'
    obtain ⟨m', hm', hdelivery'⟩ := h.inHand t' hmem'
    exact ⟨m', (MemoryQueue.held?_settle hm d hne).trans hm', hdelivery'⟩
  · intro t' ht'
    exact h.allowed t' (Consumer.mem_tasks_endTask.mp ht').1

/-- One step of a worker whose maxima agree. -/
theorem attends_of_step (hw : w.processor.retry.maxAttempts = w.options.lastAttempt)
    (h : Attends w s) {s' : State} (hstep : Step w s s') : Attends w s' := by
  cases hstep with
  | published hqueue => exact h.publish hqueue
  | received hfront hqueue hconsumer =>
    obtain ⟨-, rfl⟩ := Consumer.of_received hconsumer
    exact h.receive hfront hqueue
  | handled htask hhandle hconsumer =>
    obtain ⟨-, -, -, rfl⟩ := Consumer.exists_of_handled hconsumer
    refine h.advance htask fun hd => ?_
    obtain rfl := Option.some.inj hd
    have hallows := of_decide_eq_true (Processor.allows_of_handle hhandle)
    exact hw ▸ hallows
  | overran hconsumer =>
    obtain ⟨t, htask, -, rfl⟩ := Consumer.exists_of_overran hconsumer
    refine h.advance htask fun hd => ?_
    exact of_decide_eq_true (Disposition.refused_eq_requeue.mp (Option.some.inj hd))
  | noted _ _ hconsumer =>
    obtain ⟨t, htask, hstage, rfl⟩ := Consumer.exists_of_noted hconsumer
    refine h.advance htask fun hd => ?_
    exact h.allowed t (Consumer.mem_tasks_of_task? htask).1 (hstage ▸ hd)
  | settled hreceipt hconsumer =>
    obtain ⟨t, htask, hstage, rfl⟩ := Consumer.exists_of_settled hconsumer
    exact h.settle hreceipt htask hstage
  | looped he hconsumer =>
    obtain ⟨htasks, htaken⟩ := Consumer.tasks_of_loop he hconsumer
    exact ⟨h.ledger, h.receipts, htaken.trans h.taken, htasks ▸ h.inHand, htasks ▸ h.allowed,
      h.bounded⟩

/-- The attempts are bounded in every state. -/
theorem attends_of_reaches (hw : w.processor.retry.maxAttempts = w.options.lastAttempt)
    (h : w.Reaches s) : Attends w s := by
  induction h with
  | refl => exact attends_start w
  | tail _ hstep ih => exact attends_of_step hw ih hstep

end Step

/-! ### What becomes of a message -/

/-- A message is attempted up to a number of times, and if it is in the queue no more, then its
last delivery was done or put aside. -/
structure WithinAttempts (last : Nat) (s : State) (serial : Nat) (body : Bytes) : Prop where
  /-- The attempts are one, two, three and so on, and none is above the last. -/
  attempts : ∀ i d, (deliveriesIn (story serial s.log))[i]? = some d →
    d.body = body ∧ d.attempt.toNat = i + 1 ∧ i + 1 ≤ last
  /-- Every delivery but the last is returned, and the last one is settled once. -/
  gone : serial ∉ s.queue.live.map QueueMessage.serial → ∃ k d, 1 ≤ k ∧ k ≤ last ∧ d ≠ .requeue ∧
    story serial s.log =
      rounds body (k - 1) ++ [.handed ⟨body, UInt32.ofNat k⟩, .ended d] ∧
    ∀ d', d' ≠ .requeue → (settledIn d' s.log).count serial = if d' = d then 1 else 0

theorem Attends.withinAttempts {w : Worker} {s : State} (h : Attends w s) {serial : Nat}
    {body : Bytes} (hpublished : .published serial body ∈ s.log) :
    WithinAttempts w.options.lastAttempt.toNat s serial body := by
  have hlast := w.options.lastAttempt.toNat_lt
  have hbounded := h.bounded serial
  constructor
  · intro i d hd
    obtain ⟨count, hdeliveries, hcount⟩ := h.ledger.deliveries hpublished
    rw [hdeliveries] at hd
    obtain ⟨hi, rfl⟩ := List.getElem?_eq_some_iff.mp hd
    rw [List.getElem_map, List.getElem_range]
    rw [List.length_map, List.length_range] at hi
    exact ⟨rfl, (nthDelivery_eq (by omega) body).2, by omega⟩
  · intro hgone
    obtain ⟨m, rfl, rfl, hcases⟩ := h.ledger.cases hpublished
    obtain ⟨d, hd, n, -, hattempt, hstory⟩ : ∃ d, d ≠ .requeue ∧
        MemoryQueue.Stands s.log m [.handed m.delivery, .ended d] := by
      rcases hcases with ⟨hm, -⟩ | ⟨hm, -⟩ | hsettled
      · exact absurd (List.mem_map_of_mem (List.mem_append_left _ hm)) hgone
      · exact absurd (List.mem_map_of_mem (List.mem_append_right _ hm)) hgone
      · exact hsettled
    rw [hstory, count_ended_rounds_append, if_pos rfl] at hbounded
    have hdelivery : m.delivery = ⟨m.body, UInt32.ofNat (n + 1)⟩ :=
      (MemoryQueue.delivery_eq_nth hattempt).trans (nthDelivery_eq (by omega) m.body).1
    refine ⟨n + 1, d, Nat.succ_pos n, by omega, hd, hdelivery ▸ hstory, fun d' hd' => ?_⟩
    rw [MemoryQueue.count_settledIn hd', hstory, count_ended_rounds_append, if_neg hd']
    by_cases hsame : d = d' <;> simp [hsame, eq_comm]

end Worker

/-! ### The maxima -/

namespace QueueSection

/-- The consumer and the processor of a worker have the same last attempt. -/
theorem maxAttempts_worker (settings : QueueSection) :
    settings.worker.processor.retry.maxAttempts = settings.worker.options.lastAttempt := by
  unfold worker consumerOptions ConsumerOptions.lastAttempt RetryPolicy.ofMax
  by_cases h : settings.maxAttempts = 0 <;> simp [h]

theorem lastAttempt_worker (settings : QueueSection) :
    settings.worker.options.lastAttempt.toNat = max 1 settings.maxAttempts.toNat := by
  rw [← maxAttempts_worker]
  unfold worker RetryPolicy.ofMax
  by_cases h : settings.maxAttempts = 0
  · simp [h]
  · have hpos : settings.maxAttempts.toNat ≠ 0 := fun hzero => h (UInt32.toNat_inj.mp hzero)
    simp only [if_neg h]
    omega

end QueueSection

namespace Worker

/-- The worker of a gateway attempts each message up to the configured number of times, and then
the message is done or put aside.  The processor and the consumer return a message on the same
attempts. -/
theorem settled_within_attempts {c : GatewayConfig} {settings : QueueSection}
    (hqueue : c.queue = some settings) {w : Worker} (hworker : c.gateway.worker = some w) :
    (∀ attempt, w.processor.retry.afterFailure attempt = w.options.backstop attempt) ∧
      ∀ s, w.Reaches s →
        (∀ serial body, .published serial body ∈ s.log →
          WithinAttempts (max 1 settings.maxAttempts.toNat) s serial body) ∧
        List.Forall₂ (fun serial body => .published serial body ∈ s.log) (settledIn .reject s.log)
          s.queue.dead := by
  obtain rfl : settings.worker = w := by
    unfold GatewayConfig.gateway at hworker
    rw [hqueue] at hworker
    exact Option.some.inj hworker
  have hmaxima := settings.maxAttempts_worker
  refine ⟨fun attempt => ?_, fun s hs => ?_⟩
  · unfold RetryPolicy.afterFailure RetryPolicy.allows ConsumerOptions.backstop
    rw [hmaxima]
  · have hattends := attends_of_reaches hmaxima hs
    refine ⟨fun serial body hpublished => ?_, hattends.ledger.dead⟩
    rw [← settings.lastAttempt_worker]
    exact hattends.withinAttempts hpublished

/-- A queue with two attempts. -/
def twoAttempts : QueueSection := { maxAttempts := 2 }

/-- What is no message overruns its time and is returned, and then it is refused. -/
theorem settled_within_attempts_refused : ∃ s, twoAttempts.worker.Reaches s ∧
    s.log = [.published 0 [], .delivered 0 0 ⟨[], 1⟩, .settled 0 0 .requeue,
      .delivered 1 0 ⟨[], 2⟩, .settled 1 0 .reject] ∧
    s.queue.dead = [[]] ∧ WithinAttempts 2 s 0 [] := by
  have hbody : JobMessage.decode? [] = none := by decide
  have hnote : Trace (Processor.afterTimeout [] 1 .requeue) [] () := by
    unfold Processor.afterTimeout
    rw [hbody]
    exact .done ()
  have hhandle :
      Trace (twoAttempts.worker.processor.handle [] 2 { token := ⟨0, []⟩ }) [] .reject := by
    unfold Processor.handle
    rw [hbody]
    exact .done _
  have hpublished : Reaches twoAttempts.worker _ := .single (@Step.published _ {} _ [] rfl)
  have hreceived := (hpublished.tail (@Step.looped _ _ _ .slotTaken rfl rfl)).tail
    (.received rfl rfl rfl)
  have hoverran := hreceived.tail (@Step.overran _ _ _ 0 rfl)
  have hnoted := hoverran.tail (@Step.noted _ _ _ 0 _ _ _ rfl hnote rfl)
  have hreturned := hnoted.tail (@Step.settled _ _ _ 0 _ .requeue rfl rfl)
  have hagain := (hreturned.tail (@Step.looped _ _ _ .slotTaken rfl rfl)).tail
    (.received rfl rfl rfl)
  have hhandled := hagain.tail (@Step.handled _ _ _ 1 _ _ _ _ rfl hhandle rfl)
  have hrefused := hhandled.tail (@Step.settled _ _ _ 1 _ .reject rfl rfl)
  obtain ⟨-, hruns⟩ := settled_within_attempts (c := { queue := some twoAttempts }) rfl rfl
  exact ⟨_, hrefused, rfl, rfl, (hruns _ hrefused).1 0 [] List.mem_cons_self⟩

end Worker

end QueryGateway
