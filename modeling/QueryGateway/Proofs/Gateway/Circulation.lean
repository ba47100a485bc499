import QueryGateway.Proofs.Gateway.Duty
import QueryGateway.Proofs.Queue.Memory
import QueryGateway.Queue.Consumer

/-!
# Jobs in circulation

Requests make jobs and publish their messages, and a consumer takes the messages from the memory
queue and has them handled, any number of each side by side over the memory job store.  Handling
may be cut off while it waits, and a delivery may be lost.  A job that is not over is in the care of
the request that has stored it, or of a message that waits or is handed out.

A call that has been answered and what follows it up to the next call are one step; settling belongs
to the call after which handling is over.

## Main definitions

* `Errand` — a delivery in hand, with what is left of its handling.
* `Circulation`, `Circulation.Step` — the gateway at work.
* `Circulation.tokens` — the jobs that something takes care of, once for each that does.
* `Circulation.Accounted` — the tokens are those of the jobs that are not over.

## Main results

* `Circulation.perm_tokens_request`, `Circulation.perm_tokens_settle` — the tokens of a request and
  of a delivery.
-/

namespace QueryGateway

open Program GatewayCall

/-- The job that a message of the queue is about. -/
def QueueMessage.carried? (m : QueueMessage) : Option String :=
  (JobMessage.decode? m.body).map (·.id)

/-- A delivery in hand. -/
structure Errand where
  receipt : Nat
  delivery : Delivery
  stage : TaskStage
  /-- What is to be done before the delivery is settled. -/
  rest : GatewayProgram Disposition

/-- The handling of a delivery is cut off: the overrun is recorded, and then the delivery is settled
in the given way. -/
def Errand.cutOff (e : Errand) (d : Disposition) : Errand :=
  { e with
    stage := .noting d
    rest := Processor.afterTimeout e.delivery.body e.delivery.attempt d >>= fun _ => pure d }

/-- What the gateway works with, and what is left of the requests and deliveries. -/
structure Circulation where
  store : JobStore := []
  queue : MemoryQueue := {}
  requests : List (GatewayProgram (Except Failure AcceptedJob)) := []
  errands : List Errand := []

/-- The answers to the calls of a request that makes a job.  What is published can be read. -/
inductive Places : JobStore → MemoryQueue → (c : GatewayCall) → c.Answer → JobStore → MemoryQueue →
    Prop
  | prepared (store : JobStore) (queue : MemoryQueue) {source table : String} {r : Request}
      (answer : Except QueryError Unit) :
      Places store queue (.prepare source table r) answer store queue
  | inserted {store store' : JobStore} {queue : MemoryQueue} {new : NewJob} (id : String)
      (now : Instant) (h : store.insert (new.queued id now) = .ok store') :
      Places store queue (.insert new) (.ok (new.queued id now)) store' queue
  | refused {store : JobStore} {queue : MemoryQueue} {new : NewJob} {e : JobError} (id : String)
      (now : Instant) (h : store.insert (new.queued id now) = .error e) :
      Places store queue (.insert new) (.error e) store queue
  | published {store : JobStore} {queue queue' : MemoryQueue} {body : Bytes}
      (h : queue.publish body = .ok queue') (hbody : (JobMessage.decode? body).isSome) :
      Places store queue (.publish body) (.ok ()) store queue'
  | unpublished {store : JobStore} {queue : MemoryQueue} {body : Bytes} {e : QueueError}
      (h : queue.publish body = .error e) :
      Places store queue (.publish body) (.error e) store queue
  | marked {store store' : JobStore} {queue : MemoryQueue} {id : String} {t : Transition}
      {answer : Except JobError Job} (h : Serves store (.mark id t) answer store') :
      Places store queue (.mark id t) answer store' queue

namespace Circulation

/-- A delivery goes on; it is settled at once if nothing is left of its handling. -/
def resume (s : Circulation) (before : List Errand) (e : Errand) (after : List Errand) :
    Circulation :=
  match e.rest with
  | .done d => { s with queue := s.queue.settle e.receipt d, errands := before ++ after }
  | .call _ _ => { s with errands := before ++ e :: after }

@[simp] theorem store_resume (s : Circulation) (before : List Errand) (e : Errand)
    (after : List Errand) : (s.resume before e after).store = s.store := by
  unfold resume
  split <;> rfl

theorem resume_of_call (s : Circulation) (before after : List Errand) {e : Errand} {c : GatewayCall}
    {next : c.Answer → GatewayProgram Disposition} (h : e.rest = .call c next) :
    s.resume before e after = { s with errands := before ++ e :: after } := by
  unfold resume
  rw [h]

theorem resume_of_done (s : Circulation) (before after : List Errand) {e : Errand}
    {d : Disposition} (h : e.rest = .done d) : s.resume before e after =
      { s with queue := s.queue.settle e.receipt d, errands := before ++ after } := by
  unfold resume
  rw [h]

/-- What happens to a gateway. -/
inductive Step : Circulation → Circulation → Prop
  /-- A request comes. -/
  | ask (s : Circulation) (c : Coordinator) (source table : String) (r : Request)
      (apiKey : Option String) :
      Step s { s with requests := s.requests ++ [c.enqueue source table r apiKey] }
  /-- A call of a request is answered. -/
  | place {s : Circulation} (before after : List (GatewayProgram (Except Failure AcceptedJob)))
      {c : GatewayCall} {answer : c.Answer}
      {next : c.Answer → GatewayProgram (Except Failure AcceptedJob)} {store : JobStore}
      {queue : MemoryQueue} (hs : s.requests = before ++ .call c next :: after)
      (h : Places s.store s.queue c answer store queue) :
      Step s { s with
        store := store, queue := queue, requests := before ++ next answer :: after }
  /-- A delivery is received, of a closed queue too, and begins to be handled. -/
  | receive {s : Circulation} {noticed : Bool} {receipt : Nat} {d : Delivery} {queue : MemoryQueue}
      (p : Processor) (ctx : Context) (h : s.queue.receive noticed = (.delivery receipt d, queue)) :
      Step s (resume { s with queue := queue } s.errands
        ⟨receipt, d, .handling, p.handle d.body d.attempt ctx⟩ [])
  /-- A call of a delivery is answered. -/
  | serve {s : Circulation} (before after : List Errand) {e : Errand} {c : GatewayCall}
      {answer : c.Answer} {next : c.Answer → GatewayProgram Disposition} {store : JobStore}
      (hs : s.errands = before ++ e :: after) (hrest : e.rest = .call c next)
      (h : Serves s.store c answer store) :
      Step s (resume { s with store := store } before { e with rest := next answer } after)
  /-- The handling of a delivery takes too long. -/
  | overrun {s : Circulation} (before after : List Errand) {e : Errand} {c : GatewayCall}
      {next : c.Answer → GatewayProgram Disposition} (o : ConsumerOptions)
      (hs : s.errands = before ++ e :: after) (hstage : e.stage = .handling)
      (hrest : e.rest = .call c next) (hwaits : Waits c) :
      Step s (resume s before (e.cutOff (o.backstop e.delivery.attempt)) after)
  /-- A delivery is lost before it is settled. -/
  | lose {s : Circulation} (before after : List Errand) {e : Errand}
      (hs : s.errands = before ++ e :: after) :
      Step s { s with queue := s.queue.drop e.receipt, errands := before ++ after }
  /-- The queue is closed. -/
  | close (s : Circulation) : Step s { s with queue := s.queue.close }

/-- Any number of steps. -/
abbrev Steps : Circulation → Circulation → Prop := Relation.ReflTransGen Step

/-- The states of a gateway that began with nothing. -/
def Reachable (s : Circulation) : Prop := Steps {} s

/-! ### Who takes care of a job -/

/-- The jobs that something takes care of, once for each that does: their messages, and the requests
that have stored them and not yet published or failed them. -/
def tokens (queue : MemoryQueue) (requests : List (GatewayProgram (Except Failure AcceptedJob))) :
    List String :=
  queue.live.filterMap QueueMessage.carried? ++ requests.filterMap owed?

/-- Each job that is not over is among the tokens once, and nothing else is. -/
structure Accounted (tokens : List String) (store : JobStore) : Prop where
  nodup : tokens.Nodup
  mem_iff : ∀ id, id ∈ tokens ↔ store.Unfinished id

section Accounted

variable {tokens tokens' : List String} {store store' : JobStore} {id : String}

theorem Accounted.of_perm (h : Accounted tokens store) (hperm : tokens'.Perm tokens)
    (hstore : ∀ key, store'.Unfinished key ↔ store.Unfinished key) : Accounted tokens' store' where
  nodup := hperm.nodup_iff.mpr h.nodup
  mem_iff key := by rw [hperm.mem_iff, h.mem_iff, hstore]

/-- A job that is over is nobody's care any more. -/
theorem Accounted.of_cons (h : Accounted (id :: tokens) store)
    (hother : ∀ key, key ≠ id → store'.find? key = store.find? key)
    (hover : ¬store'.Unfinished id) : Accounted tokens store' where
  nodup := (List.nodup_cons.mp h.nodup).2
  mem_iff key := by
    by_cases hkey : key = id
    · subst hkey
      exact iff_of_false (List.nodup_cons.mp h.nodup).1 hover
    · rw [JobStore.unfinished_congr (hother key hkey), ← h.mem_iff, List.mem_cons]
      simp [hkey]

/-- A new job is somebody's care. -/
theorem Accounted.cons (h : Accounted tokens store) (hnew : store.find? id = none)
    (hother : ∀ key, key ≠ id → store'.find? key = store.find? key)
    (hgoes : store'.Unfinished id) : Accounted (id :: tokens) store' where
  nodup := by
    refine List.nodup_cons.mpr ⟨fun hmem => ?_, h.nodup⟩
    obtain ⟨job, hjob, -⟩ := (h.mem_iff id).mp hmem
    exact absurd (hnew.symm.trans hjob) nofun
  mem_iff key := by
    by_cases hkey : key = id
    · subst hkey
      exact iff_of_true List.mem_cons_self hgoes
    · rw [JobStore.unfinished_congr (hother key hkey), ← h.mem_iff, List.mem_cons]
      simp [hkey]

end Accounted

/-- What a request owes, in front of the other tokens. -/
theorem perm_tokens_request (queue : MemoryQueue)
    (before after : List (GatewayProgram (Except Failure AcceptedJob)))
    (program : GatewayProgram (Except Failure AcceptedJob)) :
    (tokens queue (before ++ program :: after)).Perm
      ((owed? program).toList ++ tokens queue (before ++ after)) := by
  unfold tokens
  have hrequests : ((before ++ program :: after).filterMap owed?).Perm
      ((owed? program).toList ++ (before ++ after).filterMap owed?) := by
    refine (List.perm_middle.filterMap owed?).trans ?_
    rw [List.filterMap_cons]
    cases owed? program <;> exact List.Perm.refl _
  refine (hrequests.append_left _).trans ?_
  rw [← List.append_assoc, ← List.append_assoc]
  exact List.perm_append_comm.append_right _

/-- Settling a delivery keeps the token of its message only if it is delivered again. -/
theorem perm_tokens_settle {queue : MemoryQueue} (hq : queue.Numbered) {receipt : Nat}
    {m : QueueMessage} (hm : queue.held? receipt = some m) {id : String}
    (hid : m.carried? = some id)
    (requests : List (GatewayProgram (Except Failure AcceptedJob))) (d : Disposition) :
    ∃ others, (tokens queue requests).Perm (id :: others) ∧
      (tokens (queue.settle receipt d) requests).Perm
        (if d = .requeue then id :: others else others) := by
  obtain ⟨others, hbefore, hafter⟩ := MemoryQueue.live_settle hq hm d
  have hnext : m.next.carried? = some id := hid
  refine ⟨others.filterMap QueueMessage.carried? ++ requests.filterMap owed?, ?_, ?_⟩
  · have hperm := hbefore.filterMap QueueMessage.carried?
    rw [List.filterMap_cons_some hid] at hperm
    exact hperm.append_right _
  · have hperm := hafter.filterMap QueueMessage.carried?
    split at hperm
    · next hd =>
      rw [List.filterMap_cons_some hnext] at hperm
      rw [if_pos hd]
      exact hperm.append_right _
    · next hd =>
      rw [if_neg hd]
      exact hperm.append_right _

end Circulation
end QueryGateway
