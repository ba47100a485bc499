import QueryGateway.Gateway.Coordinator
import QueryGateway.Proofs.Gateway.Serving

/-!
# Who brings a job to its end

A job that is stored has to be published or failed by the request that stored it, and its message,
once it is published, has to be delivered until the job is over.  Both duties are read off the
programs: from whatever call on, a delivery of a job that is not over either ends with the message
delivered again or brings the job to its end, and it does so in the call after which it is over.

## Main definitions

* `Drives` — what is left of a delivery brings its job on.
* `Onward` — a job together with what is left of its delivery.
* `owed?` — the job that a request has stored and not yet published or failed.
* `Owes` — what may be left of a request that makes a job.

## Main results

* `Drives.of_serves` — a call of a delivery that brings its job on.
* `Processor.drives_handle`, `Processor.drives_afterTimeout` — deliveries bring their jobs on.
* `Coordinator.owes_enqueue` — what a request owes, from call to call.
-/

namespace QueryGateway

open Program GatewayCall

/-! ### Deliveries -/

/-- As long as the job with an id is there and not over, the program brings it on: it ends with the
message to be delivered again, or with the call that ends the job. -/
inductive Drives (id : String) : GatewayProgram Disposition → Prop
  | requeue : Drives id (.done .requeue)
  | find {next : Except JobError (Option Job) → GatewayProgram Disposition}
      (h : ∀ job : Job, job.status.isTerminal = false → Drives id (next (.ok (some job)))) :
      Drives id (.call (.find id) next)
  | query {ctx : Context} {source table : String} {r : Request}
      {next : Except QueryError Response × Int64 → GatewayProgram Disposition}
      (h : ∀ answer, Drives id (next answer)) : Drives id (.call (.query ctx source table r) next)
  | record {m : Metric} {next : Unit → GatewayProgram Disposition} (h : Drives id (next ())) :
      Drives id (.call (.record m) next)
  | mark {t : Transition} {next : Except JobError Job → GatewayProgram Disposition}
      (ht : t.ends = false) (h : ∀ job, Drives id (next (.ok job))) :
      Drives id (.call (.mark id t) next)
  | last {t : Transition} {next : Except JobError Job → GatewayProgram Disposition}
      (ht : t.ends = true) (h : ∀ job, ∃ d, d ≠ .requeue ∧ next (.ok job) = .done d) :
      Drives id (.call (.mark id t) next)

/-- The job is not over and what is left of its delivery brings it on, or the job is over and so is
the delivery. -/
def Onward (store : JobStore) (id : String) (rest : GatewayProgram Disposition) : Prop :=
  (store.Unfinished id ∧ Drives id rest) ∨
    (¬store.Unfinished id ∧ ∃ d, d ≠ .requeue ∧ rest = .done d)

/-- A call of a delivery that brings its job on touches no other record. -/
theorem Drives.of_serves {id : String} {store store' : JobStore} {c : GatewayCall}
    {answer : c.Answer} {next : c.Answer → GatewayProgram Disposition}
    (h : Drives id (.call c next)) (hjob : store.Unfinished id)
    (hserves : Serves store c answer store') :
    (∀ key, key ≠ id → store'.find? key = store.find? key) ∧ Onward store' id (next answer) := by
  cases h with
  | find h =>
    cases hserves with
    | found =>
      obtain ⟨job, hfind, hgoes⟩ := hjob
      rw [hfind]
      exact ⟨fun _ _ => rfl, Or.inl ⟨⟨job, hfind, hgoes⟩, h job hgoes⟩⟩
  | query h =>
    cases hserves with
    | queried => exact ⟨fun _ _ => rfl, Or.inl ⟨hjob, h answer⟩⟩
  | record h =>
    cases hserves with
    | recorded => exact ⟨fun _ _ => rfl, Or.inl ⟨hjob, h⟩⟩
  | mark ht h =>
    obtain ⟨⟨job, rfl⟩, hunfinished⟩ := hserves.of_unfinished hjob
    exact ⟨fun key hkey => hserves.find?_eq_of_ne hkey, Or.inl ⟨hunfinished.mpr ht, h job⟩⟩
  | last ht h =>
    obtain ⟨⟨job, rfl⟩, hunfinished⟩ := hserves.of_unfinished hjob
    refine ⟨fun key hkey => hserves.find?_eq_of_ne hkey, Or.inr ⟨fun hgoes => ?_, h job⟩⟩
    exact absurd (ht.symm.trans (hunfinished.mp hgoes)) (by decide)

namespace Processor

theorem drives_run (p : Processor) (m : JobMessage) (attempt : UInt32) (ctx : Context) :
    Drives m.id (p.run m attempt ctx) := by
  refine .query ?_
  intro answer
  obtain ⟨result, latency⟩ := answer
  cases result with
  | ok response => exact .record (.last rfl fun _ => ⟨.ack, by decide, rfl⟩)
  | error e =>
    refine .record ?_
    unfold fail
    split
    · exact .mark rfl fun _ => .requeue
    · exact .last rfl fun _ => ⟨.reject, by decide, rfl⟩

/-- A delivery of a message brings its job on. -/
theorem drives_handle (p : Processor) {body : Bytes} {m : JobMessage}
    (hbody : JobMessage.decode? body = some m) (attempt : UInt32) (ctx : Context) :
    Drives m.id (p.handle body attempt ctx) := by
  unfold handle
  rw [hbody]
  dsimp only
  obtain ⟨next, hprocess, -, hstart⟩ := p.exists_process_eq_call m attempt ctx
  rw [hprocess]
  refine .find fun job hgoes => ?_
  obtain ⟨after, hnext, -, hrun⟩ := hstart job hgoes
  rw [hnext]
  refine .mark rfl fun job => ?_
  rw [hrun]
  exact p.drives_run m attempt ctx

/-- The overrun of a delivery is recorded before the delivery is settled. -/
theorem drives_afterTimeout {body : Bytes} {m : JobMessage}
    (hbody : JobMessage.decode? body = some m) (attempt : UInt32) {d : Disposition}
    (hd : d ≠ .ack) : Drives m.id (afterTimeout body attempt d >>= fun _ => pure d) := by
  unfold afterTimeout
  rw [hbody]
  cases d with
  | ack => exact absurd rfl hd
  | requeue => exact .mark rfl fun _ => .requeue
  | reject => exact .last rfl fun _ => ⟨.reject, by decide, rfl⟩

end Processor

/-! ### Requests -/

/-- The job that a request has stored and has not yet published or failed: the one whose record it
changes unless its message is published. -/
def owed? : GatewayProgram (Except Failure AcceptedJob) → Option String
  | .call (.mark id _) _ => some id
  | .call (.publish _) next =>
    match next (.error .closed) with
    | .call (.mark id _) _ => some id
    | _ => none
  | _ => none

/-- What may be left of a request that makes a job, with the job that it owes. -/
inductive Owes : Option String → GatewayProgram (Except Failure AcceptedJob) → Prop
  | done (result : Except Failure AcceptedJob) : Owes none (.done result)
  | prepare {source table : String} {r : Request}
      {next : Except QueryError Unit → GatewayProgram (Except Failure AcceptedJob)}
      (h : ∀ answer, Owes none (next answer)) :
      Owes none (.call (.prepare source table r) next)
  | insert {new : NewJob} {next : Except JobError Job → GatewayProgram (Except Failure AcceptedJob)}
      (herror : ∀ e, Owes none (next (.error e)))
      (hok : ∀ job : Job, Owes (some job.id) (next (.ok job))) :
      Owes none (.call (.insert new) next)
  | publish {m : JobMessage}
      {next : Except QueueError Unit → GatewayProgram (Except Failure AcceptedJob)}
      (hok : Owes none (next (.ok ())))
      (hmark : ∀ e, ∃ t after, next (.error e) = .call (.mark m.id t) after)
      (herror : ∀ e, Owes (some m.id) (next (.error e))) :
      Owes (some m.id) (.call (.publish m.encode) next)
  | mark {id : String} {t : Transition}
      {next : Except JobError Job → GatewayProgram (Except Failure AcceptedJob)}
      (ht : t.ends = true) (h : ∀ answer, Owes none (next answer)) :
      Owes (some id) (.call (.mark id t) next)

/-- What is owed is read off what is left. -/
theorem Owes.owed?_eq {owed : Option String}
    {program : GatewayProgram (Except Failure AcceptedJob)} (h : Owes owed program) :
    owed? program = owed := by
  cases h with
  | done => rfl
  | prepare => rfl
  | insert => rfl
  | mark => rfl
  | publish _ hmark =>
    obtain ⟨t, after, hnext⟩ := hmark .closed
    unfold owed?
    dsimp only
    rw [hnext]

/-- A request owes nothing when it comes. -/
theorem Coordinator.owes_enqueue (c : Coordinator) (source table : String) (r : Request)
    (apiKey : Option String) : Owes none (c.enqueue source table r apiKey) := by
  unfold enqueue
  split
  · exact .done _
  refine .prepare fun answer => ?_
  cases answer with
  | error e => exact .done _
  | ok _ =>
    refine .insert (fun _ => .done _) fun job => ?_
    exact Owes.publish (m := JobMessage.ofJob job r) (.done _) (fun _ => ⟨_, _, rfl⟩)
      fun _ => .mark rfl fun _ => .done _

end QueryGateway
