import QueryGateway.Proofs.Gateway.Circulation

/-!
# The books of a gateway

Whatever comes between, every job that is not over is in the care of exactly one thing: the request
that has stored it, or one message that waits or is handed out.  What a delivery in hand has left to
do brings its job on, so its message is settled for good in the very step in which its job is over.

## Main definitions

* `Circulation.Holds` — a delivery in hand, with its message.
* `Circulation.Balanced` — the invariant.

## Main results

* `Circulation.balanced_of_step` — the invariant is kept.
* `Circulation.over_of_step` — the record of a job that is over is not changed.
* `Circulation.carried_once` — every job that is not over has one message, and a job that is over
  stays as it is.
-/

namespace QueryGateway

open Program GatewayCall

namespace Circulation

/-! ### The invariant -/

/-- A delivery in hand holds a message, and what is left of it brings the job on. -/
structure Holds (e : Errand) (queue : MemoryQueue) (m : QueueMessage) (message : JobMessage) :
    Prop where
  held : queue.held? e.receipt = some m
  decoded : JobMessage.decode? m.body = some message
  body : e.delivery.body = m.body
  drives : Drives message.id e.rest

theorem Holds.carried?_eq {e : Errand} {queue : MemoryQueue} {m : QueueMessage}
    {message : JobMessage} (h : Holds e queue m message) : m.carried? = some message.id := by
  unfold QueueMessage.carried?
  rw [h.decoded]
  rfl

/-- The books of a gateway. -/
structure Balanced (s : Circulation) : Prop where
  numbered : s.queue.Numbered
  decoded : ∀ m ∈ s.queue.live, m.carried?.isSome = true
  receipts : (s.errands.map Errand.receipt).Nodup
  errands : ∀ e ∈ s.errands, ∃ m message, Holds e s.queue m message
  requests : ∀ request ∈ s.requests, ∃ owed, Owes owed request
  accounted : Accounted (tokens s.queue s.requests) s.store

theorem balanced_empty : Balanced {} where
  numbered := ⟨List.nodup_nil, nofun⟩
  decoded := nofun
  receipts := List.nodup_nil
  errands := nofun
  requests := nofun
  accounted := ⟨List.nodup_nil, fun _ => iff_of_false nofun fun ⟨_, hjob, _⟩ => nomatch hjob⟩

section Errands

variable {s : Circulation} {before after : List Errand} {e : Errand} {m : QueueMessage}
  {message : JobMessage}

theorem Balanced.holds (hs : s.Balanced) (herrands : s.errands = before ++ e :: after) :
    ∃ m message, Holds e s.queue m message := by
  refine hs.errands e ?_
  rw [herrands]
  exact List.mem_append_right before List.mem_cons_self

/-- The job of a delivery in hand is not over. -/
theorem Balanced.unfinished (hs : s.Balanced) (he : Holds e s.queue m message) :
    s.store.Unfinished message.id := by
  refine (hs.accounted.mem_iff message.id).mp (List.mem_append_left _ ?_)
  exact List.mem_filterMap.mpr ⟨m, MemoryQueue.mem_live_of_held? he.held, he.carried?_eq⟩

/-- A delivery is settled, or lost. -/
theorem Balanced.settle (hs : s.Balanced) (herrands : s.errands = before ++ e :: after)
    (he : Holds e s.queue m message) {store : JobStore} {d : Disposition}
    (haccounted : Accounted (tokens (s.queue.settle e.receipt d) s.requests) store) :
    Balanced { s with
      store := store, queue := s.queue.settle e.receipt d, errands := before ++ after } := by
  obtain ⟨others, hbefore, hafter⟩ := MemoryQueue.live_settle hs.numbered he.held d
  have hperm : (s.errands.map Errand.receipt).Perm
      (e.receipt :: (before ++ after).map Errand.receipt) := by
    rw [herrands]
    exact List.perm_middle.map Errand.receipt
  obtain ⟨hne, hreceipts⟩ := List.nodup_cons.mp (hperm.nodup_iff.mp hs.receipts)
  refine ⟨MemoryQueue.numbered_settle hs.numbered he.held d, fun m' hm' => ?_, hreceipts,
    fun e' he' => ?_, hs.requests, haccounted⟩
  · have hothers : ∀ m' ∈ others, m'.carried?.isSome = true :=
      fun m' hm' => hs.decoded m' (hbefore.mem_iff.mpr (List.mem_cons_of_mem _ hm'))
    have hmem := hafter.mem_iff.mp hm'
    split at hmem
    · rcases List.mem_cons.mp hmem with rfl | hmem
      · exact hs.decoded m (MemoryQueue.mem_live_of_held? he.held)
      · exact hothers m' hmem
    · exact hothers m' hmem
  · have hmem : e' ∈ s.errands := by
      rw [herrands]
      exact List.perm_middle.mem_iff.mpr (List.mem_cons_of_mem _ he')
    obtain ⟨m', message', hholds⟩ := hs.errands e' hmem
    have hother : e'.receipt ≠ e.receipt := fun heq =>
      hne (heq ▸ List.mem_map_of_mem (f := Errand.receipt) he')
    refine ⟨m', message', ?_, hholds.decoded, hholds.body, hholds.drives⟩
    exact (MemoryQueue.held?_settle he.held d hother).trans hholds.held

/-- A delivery whose job is not over goes on, or is settled so that its message is delivered
again. -/
theorem Balanced.carry (hs : s.Balanced) (herrands : s.errands = before ++ e :: after)
    (he : Holds e s.queue m message) {store : JobStore}
    (hstore : ∀ key, store.Unfinished key ↔ s.store.Unfinished key) {e' : Errand}
    (hreceipt : e'.receipt = e.receipt) (hdelivery : e'.delivery = e.delivery)
    (hdrives : Drives message.id e'.rest) :
    Balanced (resume { s with store := store } before e' after) := by
  unfold Circulation.resume
  dsimp only
  split
  · next d hrest =>
    rw [hrest] at hdrives
    cases hdrives
    obtain ⟨others, hbefore, hafter⟩ :=
      perm_tokens_settle hs.numbered he.held he.carried?_eq s.requests .requeue
    rw [hreceipt]
    exact hs.settle herrands he (hs.accounted.of_perm (hafter.trans hbefore.symm) hstore)
  · have hholds : Holds e' s.queue m message :=
      ⟨hreceipt ▸ he.held, he.decoded, hdelivery ▸ he.body, hdrives⟩
    have hreceipts := hs.receipts
    rw [herrands, List.map_append, List.map_cons, ← hreceipt, ← List.map_cons,
      ← List.map_append] at hreceipts
    obtain ⟨hbefore, hrest⟩ := List.forall_mem_append.mp (herrands ▸ hs.errands)
    exact ⟨hs.numbered, hs.decoded, hreceipts, List.forall_mem_append.mpr ⟨hbefore,
      List.forall_mem_cons.mpr ⟨⟨m, message, hholds⟩, (List.forall_mem_cons.mp hrest).2⟩⟩,
      hs.requests, hs.accounted.of_perm (List.Perm.refl _) hstore⟩

/-- A delivery whose job has come to its end is settled for good. -/
theorem Balanced.finish (hs : s.Balanced) (herrands : s.errands = before ++ e :: after)
    (he : Holds e s.queue m message) {store : JobStore} {e' : Errand}
    (hreceipt : e'.receipt = e.receipt)
    (hother : ∀ key, key ≠ message.id → store.find? key = s.store.find? key)
    (hover : ¬store.Unfinished message.id) {d : Disposition} (hd : d ≠ .requeue)
    (hrest : e'.rest = .done d) : Balanced (resume { s with store := store } before e' after) := by
  obtain ⟨others, hbefore, hafter⟩ :=
    perm_tokens_settle hs.numbered he.held he.carried?_eq s.requests d
  rw [if_neg hd] at hafter
  unfold Circulation.resume
  rw [hrest]
  dsimp only
  rw [hreceipt]
  refine hs.settle herrands he ?_
  have hcons := hs.accounted.of_perm hbefore.symm fun _ => Iff.rfl
  exact (hcons.of_cons hother hover).of_perm hafter fun _ => Iff.rfl

/-- A delivery goes on with what is left of it after its job was brought on. -/
theorem Balanced.resume (hs : s.Balanced) (herrands : s.errands = before ++ e :: after)
    (he : Holds e s.queue m message) {store : JobStore} {e' : Errand}
    (hreceipt : e'.receipt = e.receipt) (hdelivery : e'.delivery = e.delivery)
    (hother : ∀ key, key ≠ message.id → store.find? key = s.store.find? key)
    (honward : Onward store message.id e'.rest) :
    Balanced (resume { s with store := store } before e' after) := by
  rcases honward with ⟨hgoes, hdrives⟩ | ⟨hover, d, hd, hrest⟩
  · refine hs.carry herrands he (fun key => ?_) hreceipt hdelivery hdrives
    by_cases hkey : key = message.id
    · subst hkey
      exact iff_of_true hgoes (hs.unfinished he)
    · exact JobStore.unfinished_congr (hother key hkey)
  · exact hs.finish herrands he hreceipt hother hover hd hrest

section Receive

variable {noticed : Bool} {receipt : Nat} {d : Delivery} {queue : MemoryQueue}
  (h : s.queue.receive noticed = (.delivery receipt d, queue))
include h

/-- What is received is the message of a job. -/
theorem Balanced.exists_message (hs : s.Balanced) : ∃ m message, d = m.delivery ∧
    queue.held? receipt = some m ∧ JobMessage.decode? m.body = some message := by
  obtain ⟨m, hd, hreceipt, hlive, hflight, -⟩ := MemoryQueue.exists_of_receive h
  have hheld := (MemoryQueue.held?_of_receive hs.numbered hflight hreceipt).1
  have hsome := hs.decoded m (hlive.mem_iff.mp (MemoryQueue.mem_live_of_held? hheld))
  unfold QueueMessage.carried? at hsome
  rw [Option.isSome_map] at hsome
  obtain ⟨message, hmessage⟩ := Option.isSome_iff_exists.mp hsome
  exact ⟨m, message, hd, hheld, hmessage⟩

/-- What is received is in hand. -/
theorem Balanced.take (hs : s.Balanced) (he : Holds e queue m message)
    (hreceipt : e.receipt = receipt) :
    Balanced { s with queue := queue, errands := s.errands ++ [e] } := by
  obtain ⟨m', -, hfresh, hlive, hflight, -⟩ := MemoryQueue.exists_of_receive h
  have hothers := (MemoryQueue.held?_of_receive hs.numbered hflight hfresh).2
  have hne : ∀ e' ∈ s.errands, e'.receipt ≠ receipt := by
    intro e' he'
    obtain ⟨m', message', hholds⟩ := hs.errands e' he'
    exact Nat.ne_of_lt (hfresh ▸ MemoryQueue.lt_of_held? hs.numbered hholds.held)
  refine ⟨MemoryQueue.numbered_of_receive hs.numbered h,
    fun m' hm' => hs.decoded m' (hlive.mem_iff.mp hm'), ?_, ?_, hs.requests, ?_⟩
  · rw [List.map_append, List.nodup_append]
    refine ⟨hs.receipts, by simp, fun r hr r' hr' => ?_⟩
    obtain ⟨e', he', rfl⟩ := List.mem_map.mp hr
    rw [List.mem_singleton.mp hr', hreceipt]
    exact hne e' he'
  · refine List.forall_mem_append.mpr ⟨fun e' he' => ?_, List.forall_mem_singleton.mpr
      ⟨m, message, he⟩⟩
    obtain ⟨m', message', hholds⟩ := hs.errands e' he'
    exact ⟨m', message', (hothers e'.receipt (hne e' he')).trans hholds.held, hholds.decoded,
      hholds.body, hholds.drives⟩
  · exact hs.accounted.of_perm ((hlive.filterMap _).append_right _) fun _ => Iff.rfl

/-- A delivery is received and begins to be handled. -/
theorem Balanced.receive (hs : s.Balanced) (p : Processor) (ctx : Context) :
    Balanced (Circulation.resume { s with queue := queue } s.errands
      ⟨receipt, d, .handling, p.handle d.body d.attempt ctx⟩ []) := by
  obtain ⟨m, message, rfl, hheld, hmessage⟩ := hs.exists_message h
  have hdrives : Drives message.id (p.handle m.delivery.body m.delivery.attempt ctx) :=
    p.drives_handle hmessage m.delivery.attempt ctx
  generalize p.handle m.delivery.body m.delivery.attempt ctx = program at hdrives ⊢
  have hholds : Holds ⟨receipt, m.delivery, .handling, program⟩ queue m message :=
    ⟨hheld, hmessage, rfl, hdrives⟩
  -- first the delivery is among those in hand, and then it goes on
  exact (hs.take h hholds rfl).carry rfl hholds (fun _ => Iff.rfl) rfl rfl hdrives

end Receive

end Errands

section Requests

variable {s : Circulation} {before after : List (GatewayProgram (Except Failure AcceptedJob))}
  {program program' : GatewayProgram (Except Failure AcceptedJob)}

/-- What is left of a request after a call is the rest of a request again. -/
theorem Balanced.owes (hs : s.Balanced) (hrequests : s.requests = before ++ program :: after)
    {owed : Option String} (howes : Owes owed program') :
    ∀ request ∈ before ++ program' :: after, ∃ owed, Owes owed request := by
  obtain ⟨hbefore, hrest⟩ := List.forall_mem_append.mp (hrequests ▸ hs.requests)
  exact List.forall_mem_append.mpr ⟨hbefore, List.forall_mem_cons.mpr
    ⟨⟨owed, howes⟩, (List.forall_mem_cons.mp hrest).2⟩⟩

/-- A request goes on. -/
theorem Balanced.request (hs : s.Balanced) (hrequests : s.requests = before ++ program :: after)
    {owed : Option String} (howes : Owes owed program') {store : JobStore}
    (haccounted : Accounted (owed.toList ++ tokens s.queue (before ++ after)) store) :
    Balanced { s with store := store, requests := before ++ program' :: after } := by
  have hperm := perm_tokens_request s.queue before after program'
  rw [howes.owed?_eq] at hperm
  exact ⟨hs.numbered, hs.decoded, hs.receipts, hs.errands, hs.owes hrequests howes,
    haccounted.of_perm hperm fun _ => Iff.rfl⟩

/-- A request publishes the message that it owes. -/
theorem Balanced.publish (hs : s.Balanced) (hrequests : s.requests = before ++ program :: after)
    (howes : Owes none program') {m : JobMessage} {queue : MemoryQueue}
    (h : s.queue.publish m.encode = .ok queue) (hbody : (JobMessage.decode? m.encode).isSome)
    (haccounted : Accounted (m.id :: tokens s.queue (before ++ after)) s.store) :
    Balanced { s with queue := queue, requests := before ++ program' :: after } := by
  obtain ⟨hlive, -, -⟩ := MemoryQueue.live_publish h
  have hcarried : QueueMessage.carried? ⟨s.queue.published, m.encode, 1⟩ = some m.id := by
    obtain ⟨m', hm'⟩ := Option.isSome_iff_exists.mp hbody
    unfold QueueMessage.carried?
    rw [hm', Option.map_some, JobMessage.id_of_decode? hm']
  refine ⟨MemoryQueue.numbered_publish hs.numbered h, fun m' hm' => ?_, hs.receipts,
    fun e he => ?_, hs.owes hrequests howes, ?_⟩
  · rcases List.mem_cons.mp (hlive.mem_iff.mp hm') with rfl | hm'
    · rw [hcarried]
      rfl
    · exact hs.decoded m' hm'
  · obtain ⟨m', message, hholds⟩ := hs.errands e he
    exact ⟨m', message, (MemoryQueue.held?_publish h e.receipt).trans hholds.held, hholds.decoded,
      hholds.body, hholds.drives⟩
  · have hperm := perm_tokens_request queue before after program'
    rw [howes.owed?_eq] at hperm
    have htokens := hlive.filterMap QueueMessage.carried?
    rw [List.filterMap_cons_some hcarried] at htokens
    exact haccounted.of_perm (hperm.trans (htokens.append_right _)) fun _ => Iff.rfl

/-- A call of a request is answered. -/
theorem Balanced.place (hs : s.Balanced) {c : GatewayCall} {answer : c.Answer}
    {next : c.Answer → GatewayProgram (Except Failure AcceptedJob)} {store : JobStore}
    {queue : MemoryQueue} (hrequests : s.requests = before ++ .call c next :: after)
    (h : Places s.store s.queue c answer store queue) :
    Balanced { s with
      store := store, queue := queue, requests := before ++ next answer :: after } := by
  obtain ⟨owed, howes⟩ := hs.requests (.call c next) (by
    rw [hrequests]
    exact List.mem_append_right before List.mem_cons_self)
  have hperm := perm_tokens_request s.queue before after (.call c next)
  rw [howes.owed?_eq, ← hrequests] at hperm
  have haccounted := hs.accounted.of_perm hperm.symm fun _ => Iff.rfl
  cases howes with
  | prepare hnext =>
    cases h with
    | prepared => exact hs.request hrequests (hnext answer) haccounted
  | insert herror hok =>
    cases h with
    | inserted id now h =>
      obtain ⟨hnew, hfound⟩ := JobStore.find?_of_insert h
      refine hs.request hrequests (hok _) (haccounted.cons hnew (fun key hkey => ?_) ?_)
      · rw [hfound, if_neg hkey]
      · exact ⟨_, (hfound _).trans (if_pos rfl), rfl⟩
    | refused id now h => exact hs.request hrequests (herror _) haccounted
  | @publish m _ hok _ herror =>
    generalize hbody : m.encode = body at h
    cases h with
    | published h hdecodes =>
      subst hbody
      exact hs.publish hrequests hok h hdecodes haccounted
    | unpublished h => exact hs.request hrequests (herror _) haccounted
  | @mark id t _ ht hnext =>
    cases h with
    | marked h =>
      have hjob := (haccounted.mem_iff id).mp List.mem_cons_self
      refine hs.request hrequests (hnext _) (haccounted.of_cons
        (fun key hkey => h.find?_eq_of_ne hkey) fun hgoes => ?_)
      exact absurd (ht.symm.trans ((h.of_unfinished hjob).2.mp hgoes)) (by decide)

end Requests

/-! ### Steps -/

/-- The books stay in order. -/
theorem balanced_of_step {s s' : Circulation} (h : Step s s') (hs : s.Balanced) : s'.Balanced := by
  cases h with
  | ask c source table r apiKey =>
    have howes := c.owes_enqueue source table r apiKey
    have htokens : tokens s.queue (s.requests ++ [c.enqueue source table r apiKey]) =
        tokens s.queue s.requests := by
      unfold tokens
      rw [List.filterMap_append, List.filterMap_cons_none howes.owed?_eq]
      simp
    exact ⟨hs.numbered, hs.decoded, hs.receipts, hs.errands, List.forall_mem_append.mpr
      ⟨hs.requests, List.forall_mem_cons.mpr ⟨⟨none, howes⟩, nofun⟩⟩, htokens ▸ hs.accounted⟩
  | place before after hrequests h => exact hs.place hrequests h
  | receive p ctx h => exact hs.receive h p ctx
  | serve before after herrands hrest h =>
    obtain ⟨m, message, he⟩ := hs.holds herrands
    obtain ⟨hother, honward⟩ := (hrest ▸ he.drives).of_serves (hs.unfinished he) h
    exact hs.resume herrands he rfl rfl hother honward
  | @overrun before after e _ _ o herrands hstage hrest hwaits =>
    obtain ⟨m, message, he⟩ := hs.holds herrands
    have hd : o.backstop e.delivery.attempt ≠ .ack := by
      unfold ConsumerOptions.backstop Disposition.refused
      split <;> decide
    have hdrives := Processor.drives_afterTimeout (he.body ▸ he.decoded) e.delivery.attempt hd
    exact hs.carry herrands he (fun _ => Iff.rfl) rfl rfl hdrives
  | @lose before after e herrands =>
    obtain ⟨m, message, he⟩ := hs.holds herrands
    obtain ⟨others, hbefore, hafter⟩ :=
      perm_tokens_settle hs.numbered he.held he.carried?_eq s.requests .requeue
    exact hs.settle herrands he (hs.accounted.of_perm (hafter.trans hbefore.symm) fun _ => Iff.rfl)
  | close =>
    exact ⟨⟨hs.numbered.nodup, hs.numbered.lt⟩, hs.decoded, hs.receipts,
      fun e he => by
        obtain ⟨m, message, hholds⟩ := hs.errands e he
        exact ⟨m, message, hholds.held, hholds.decoded, hholds.body, hholds.drives⟩,
      hs.requests, hs.accounted⟩

theorem balanced_of_reachable {s : Circulation} (h : s.Reachable) : s.Balanced := by
  induction h with
  | refl => exact balanced_empty
  | tail _ hstep ih => exact balanced_of_step hstep ih

/-- The record of a job that is over is not changed. -/
theorem over_of_step {s s' : Circulation} (h : Step s s') (hs : s.Balanced) {id : String}
    {job : Job} (hjob : s.store.find? id = some job) (hover : job.status.isTerminal = true) :
    s'.store.find? id = some job := by
  -- whatever is changed belongs to a job that is not over
  have hne : ∀ key, s.store.Unfinished key → id ≠ key := by
    rintro key hkey rfl
    exact absurd (hover.symm.trans ((JobStore.unfinished_iff hjob).mp hkey)) (by decide)
  cases h with
  | ask => exact hjob
  | place before after hrequests h =>
    cases h with
    | prepared => exact hjob
    | @inserted _ _ new id' now h =>
      obtain ⟨hnew, hfound⟩ := JobStore.find?_of_insert h
      rw [hfound, if_neg]
      · exact hjob
      · rintro rfl
        exact absurd (hnew.symm.trans hjob) nofun
    | refused => exact hjob
    | published => exact hjob
    | unpublished => exact hjob
    | @marked _ _ id' t answer h =>
      have howed : some id' ∈ s.requests.map owed? := by
        rw [hrequests, List.map_append]
        exact List.mem_append_right _ List.mem_cons_self
      obtain ⟨request, hrequest, howes⟩ := List.mem_map.mp howed
      have hunfinished := (hs.accounted.mem_iff id').mp
        (List.mem_append_right _ (List.mem_filterMap.mpr ⟨request, hrequest, howes⟩))
      exact (h.find?_eq_of_ne (hne id' hunfinished)).trans hjob
  | receive => rw [store_resume]; exact hjob
  | serve before after herrands hrest h =>
    obtain ⟨m, message, he⟩ := hs.holds herrands
    have hunfinished := hs.unfinished he
    obtain ⟨hother, -⟩ := (hrest ▸ he.drives).of_serves hunfinished h
    rw [store_resume]
    exact (hother id (hne _ hunfinished)).trans hjob
  | overrun => rw [store_resume]; exact hjob
  | lose => exact hjob
  | close => exact hjob

/-! ### What may happen -/

section Course

variable {s : Circulation}

/-- A request for all users comes, stores its job and is about to publish the message. -/
theorem exists_stored {id : String} {m : JobMessage} {store : JobStore}
    (hm : { Handling.usersMessage with id } = m)
    (h : s.store.insert { Handling.usersJob .queued with id } = .ok store) :
    ∃ next, Steps s { s with
      store := store
      requests := s.requests ++ [.call (.publish m.encode) next] } ∧
    (∃ result, next (.ok ()) = .done result) ∧
    ∀ e, ∃ result, next (.error e) =
      .call (.mark id (.fail Coordinator.unpublished none)) fun _ => .done result := by
  subst hm
  have hask : Steps s _ := .single (.ask s ⟨true⟩ "main" "users" {} none)
  have hprepare : Steps s _ := hask.tail (.place s.requests [] rfl (.prepared _ _ (.ok ())))
  have hinsert : Steps s _ := hprepare.tail (.place s.requests [] rfl (.inserted id .epoch h))
  exact ⟨_, hinsert, ⟨_, rfl⟩, fun _ => ⟨_, rfl⟩⟩

variable {m : JobMessage} {d : Delivery} {receipt : Nat} {job : Job}

/-- A delivery of a job that is not over is received, its job is marked as running, and it waits for
the answer to its query. -/
theorem exists_querying {noticed : Bool} {queue : MemoryQueue}
    (h : s.queue.receive noticed = (.delivery receipt d, queue))
    (hbody : JobMessage.decode? d.body = some m) (hjob : s.store.find? m.id = some job)
    (hgoes : job.status.isTerminal = false) :
    ∃ store c next, Steps s { s with
      store := store
      queue := queue
      errands := s.errands ++ [⟨receipt, d, .handling, .call c next⟩] } ∧
    Waits c ∧ (∃ running, store.find? m.id = some running ∧ running.status = .running) ∧
    ∀ key, key ≠ m.id → store.find? key = s.store.find? key := by
  let p : Processor := ⟨.ofMax 5⟩
  let ctx : Context := { token := ⟨0, []⟩ }
  obtain ⟨next, hprocess, -, hstart⟩ := p.exists_process_eq_call m d.attempt ctx
  obtain ⟨after, hnext, -, hrun⟩ := hstart job hgoes
  have hhandle : p.handle d.body d.attempt ctx = .call (.find m.id) next := by
    unfold Processor.handle
    rw [hbody]
    exact hprocess
  obtain ⟨store, hupdate⟩ := JobStore.update_of_find? hjob (Transition.run.update .epoch)
  have hfound := JobStore.find?_of_update hupdate
  have hrunning := hfound m.id
  rw [if_pos rfl] at hrunning
  have hreceive : Steps s _ := .single (.receive p ctx h)
  rw [resume_of_call _ _ _ hhandle] at hreceive
  have hfind : Steps s _ := hreceive.tail (.serve s.errands [] rfl hhandle (.found _ _))
  rw [hjob, resume_of_call _ _ _ hnext] at hfind
  have hmark : Steps s _ := hfind.tail (.serve s.errands [] rfl hnext (.marked .epoch hupdate))
  rw [hrun, resume_of_call _ _ _ rfl] at hmark
  refine ⟨store, _, _, hmark, nofun, ⟨_, hrunning, rfl⟩, fun key hkey => ?_⟩
  rw [hfound, if_neg hkey]

/-- A delivery that waits too long is cut off, its job is queued again, and its message is delivered
again. -/
theorem exists_cutOff {before : List Errand} {c : GatewayCall}
    {next : c.Answer → GatewayProgram Disposition}
    (hs : s.errands = before ++ [⟨receipt, d, .handling, .call c next⟩]) (hwaits : Waits c)
    (hattempt : ConsumerOptions.backstop {} d.attempt = .requeue)
    (hbody : JobMessage.decode? d.body = some m) (hjob : s.store.find? m.id = some job) :
    ∃ store, Steps s { s with
      store := store, queue := s.queue.settle receipt .requeue, errands := before } ∧
    (∃ queued, store.find? m.id = some queued ∧ queued.status = .queued) ∧
    ∀ key, key ≠ m.id → store.find? key = s.store.find? key := by
  obtain ⟨store, hupdate⟩ := JobStore.update_of_find? hjob
    ((Transition.retry Processor.timedOut).update .epoch)
  have hfound := JobStore.find?_of_update hupdate
  have hqueued := hfound m.id
  rw [if_pos rfl] at hqueued
  have hrest : (Processor.afterTimeout d.body d.attempt .requeue >>= fun _ => pure .requeue :
      GatewayProgram Disposition) =
        .call (.mark m.id (.retry Processor.timedOut)) fun _ => .done .requeue := by
    unfold Processor.afterTimeout
    rw [hbody]
    rfl
  have hoverrun : Steps s _ := .single (.overrun before [] {} hs rfl rfl hwaits)
  unfold Errand.cutOff at hoverrun
  rw [hattempt, resume_of_call _ _ _ hrest] at hoverrun
  have hnoted : Steps s _ := hoverrun.tail (.serve before [] rfl hrest (.marked .epoch hupdate))
  rw [resume_of_done _ _ _ rfl, List.append_nil] at hnoted
  refine ⟨store, hnoted, ⟨_, hqueued, rfl⟩, fun key hkey => ?_⟩
  rw [hfound, if_neg hkey]

end Course

/-- Between two deliveries of a message: it waits alone, its job is not over, and no request owes
anything.  The other id is not in use. -/
structure Rests (s : Circulation) (m : JobMessage) (message : QueueMessage) (other : String) :
    Prop where
  decoded : JobMessage.decode? message.body = some m
  waiting : s.queue.waiting = [message]
  inFlight : s.queue.inFlight = []
  opened : s.queue.isClosed = false
  errands : s.errands = []
  owed : ∀ request ∈ s.requests, owed? request = none
  goes : s.store.Unfinished m.id
  ne : other ≠ m.id
  free : s.store.find? other = none

section Rests

variable {s : Circulation} {m : JobMessage} {message : QueueMessage} {other : String}

/-- The queue when its only message is handed out. -/
def emptied (q : MemoryQueue) (message : QueueMessage) : MemoryQueue :=
  { q with
    waiting := []
    inFlight := q.inFlight ++ [(q.handedOut, message)]
    handedOut := q.handedOut + 1 }

/-- The message is handed out, and its query waits for an answer. -/
theorem Rests.exists_received (h : Rests s m message other) : ∃ store c next,
    Steps s { s with
      store := store
      queue := emptied s.queue message
      errands := [⟨s.queue.handedOut, message.delivery, .handling, .call c next⟩] } ∧
    Waits c ∧ (∃ running, store.find? m.id = some running ∧ running.status = .running) ∧
    store.find? other = none := by
  obtain ⟨job, hjob, hgoes⟩ := h.goes
  have hreceive := MemoryQueue.receive_of_waiting true (fun _ => h.opened) h.waiting
  obtain ⟨store, c, next, hreceived, hwaits, hrunning, hothers⟩ :=
    exists_querying hreceive h.decoded hjob hgoes
  rw [h.errands, List.nil_append] at hreceived
  exact ⟨store, c, next, hreceived, hwaits, hrunning, (hothers other h.ne).trans h.free⟩

/-- When the message is delivered again, nothing else has happened to the queue. -/
theorem Rests.again (h : Rests s m message other) {store : JobStore}
    (hgoes : store.Unfinished m.id) (hfree : store.find? other = none) :
    Rests { s with
      store := store
      queue := (emptied s.queue message).settle s.queue.handedOut .requeue
      errands := [] } m message.next other := by
  have hheld : (emptied s.queue message).held? s.queue.handedOut = some message := by
    simp [emptied, MemoryQueue.held?, h.inFlight]
  unfold MemoryQueue.settle
  rw [hheld]
  exact ⟨h.decoded, rfl, by simp [emptied, h.inFlight], h.opened, rfl, h.owed, hgoes, h.ne, hfree⟩

/-- A first delivery is cut off. -/
theorem Rests.exists_cutOff (h : Rests s m message other) (hfirst : message.attempt = 1) :
    ∃ s', Steps s s' ∧ Rests s' m message.next other := by
  have hattempt : ConsumerOptions.backstop {} message.delivery.attempt = .requeue := by
    unfold QueueMessage.delivery
    rw [hfirst]
    rfl
  obtain ⟨middle, c, next, hreceived, hwaits, ⟨running, hrunning, -⟩, hfree⟩ := h.exists_received
  obtain ⟨store, hcut, ⟨queued, hqueued, hstatus⟩, hothers⟩ :=
    Circulation.exists_cutOff
      (s := { s with store := middle, queue := emptied s.queue message, errands := _ })
      (show _ = [] ++ [_] from rfl) hwaits hattempt h.decoded hrunning
  refine ⟨_, hreceived.trans hcut, h.again ⟨queued, hqueued, ?_⟩ ((hothers other h.ne).trans hfree)⟩
  rw [hstatus]
  rfl

/-- A delivery is lost while it waits for the answer to its query. -/
theorem Rests.exists_lost (h : Rests s m message other) :
    ∃ s', Steps s s' ∧ Rests s' m message.next other := by
  obtain ⟨store, c, next, hreceived, -, ⟨running, hrunning, hstatus⟩, hfree⟩ := h.exists_received
  have hlost := hreceived.tail (.lose [] [] rfl)
  refine ⟨_, hlost, h.again ⟨running, hrunning, ?_⟩ hfree⟩
  rw [hstatus]
  rfl

/-- The queue is closed, another request stores its job and cannot publish the message, and the
message that waits is handed out all the same. -/
theorem Rests.exists_closed (h : Rests s m message other) :
    ∃ s' job, Steps s s' ∧ s'.queue.isClosed = true ∧
      s'.queue.inFlight = [(s.queue.handedOut, message)] ∧ s'.store.Unfinished m.id ∧
      (∀ request ∈ s'.requests, owed? request = none) ∧
      s'.store.find? other = some job ∧ job.status = .failed := by
  obtain ⟨job, hjob, hgoes⟩ := h.goes
  have hclosed : Steps s _ := .single (.close s)
  -- the other request comes too late
  have hinsert : s.store.insert { Handling.usersJob .queued with id := other } =
      .ok (s.store ++ [{ Handling.usersJob .queued with id := other }]) := by
    unfold JobStore.insert
    rw [h.free]
  obtain ⟨-, hinserted⟩ := JobStore.find?_of_insert hinsert
  obtain ⟨next, hstored, -, hmark⟩ :=
    exists_stored (s := { s with queue := s.queue.close }) rfl hinsert
  have hrefused := hstored.tail (.place s.requests [] rfl (.unpublished rfl))
  obtain ⟨last, hlast⟩ := hmark .closed
  rw [hlast] at hrefused
  obtain ⟨failed, hupdate⟩ := JobStore.update_of_find? ((hinserted other).trans (if_pos rfl))
    ((Transition.fail Coordinator.unpublished none).update .epoch)
  have hfound := JobStore.find?_of_update hupdate
  have hover := (hfound other).trans (if_pos rfl)
  have hfailed := hrefused.tail (.place s.requests [] rfl (.marked (.marked .epoch hupdate)))
  -- the message that waits is received
  have hfront : s.queue.close.waiting = [message] := h.waiting
  have hreceive := MemoryQueue.receive_of_waiting false nofun hfront
  have hwaiting : failed.find? m.id = some job := by
    rw [hfound, if_neg h.ne.symm, hinserted, if_neg h.ne.symm]
    exact hjob
  obtain ⟨store, c, rest, hreceived, -, ⟨running, hrunning, hstatus⟩, hothers⟩ :=
    exists_querying (s := { s with
      store := failed, queue := s.queue.close, requests := s.requests ++ [.done last] })
      hreceive h.decoded hwaiting hgoes
  refine ⟨_, _, (hclosed.trans hfailed).trans hreceived, rfl, ?_,
    ⟨running, hrunning, by rw [hstatus]; rfl⟩, ?_, (hothers other h.ne).trans hover, rfl⟩
  · simp [MemoryQueue.close, h.inFlight]
  · exact List.forall_mem_append.mpr ⟨h.owed, List.forall_mem_singleton.mpr rfl⟩

end Rests

/-- A request has published its message. -/
theorem exists_rests : ∃ s body, Reachable s ∧
    Rests s Handling.usersMessage ⟨0, body, 1⟩ "job-2" := by
  have hm := Handling.decode?_usersMessage
  have hbody : (JobMessage.decode? Handling.usersMessage.encode).isSome := by
    rw [hm]
    rfl
  have hinsert : JobStore.insert [] { Handling.usersJob .queued with id := "job-1" } =
      .ok [Handling.usersJob .queued] := rfl
  obtain ⟨next, hstored, ⟨accepted, hok⟩, -⟩ :=
    exists_stored (s := {}) (m := Handling.usersMessage) rfl hinsert
  have hpublished := hstored.tail (.place [] [] rfl (.published rfl hbody))
  rw [hok] at hpublished
  generalize Handling.usersMessage.encode = body at hm hpublished
  refine ⟨_, body, hpublished, hm, rfl, rfl, rfl, rfl, List.forall_mem_singleton.mpr rfl,
    ⟨_, Handling.find?_usersJob .queued, rfl⟩, by decide, ?_⟩
  simp [JobStore.find?, Handling.usersJob]

/-! ### In every state -/

/-- In every state that a gateway comes to, a job that is not over has exactly one message that
waits or is handed out, unless the request that stored it has not yet published or failed it; and
the record of a job that is over stays as it is. -/
theorem carried_once {s : Circulation} (hs : s.Reachable) {id : String} {job : Job}
    (hjob : s.store.find? id = some job) :
    (job.status.isTerminal = false → (∀ request ∈ s.requests, owed? request ≠ some id) →
      s.queue.live.countP (·.carried? == some id) = 1) ∧
    (job.status.isTerminal = true → ∀ s', Steps s s' → s'.store.find? id = some job) := by
  have hbalanced := balanced_of_reachable hs
  constructor
  · intro hgoes howed
    have hmem := (hbalanced.accounted.mem_iff id).mpr ⟨job, hjob, hgoes⟩
    have hmessage : id ∈ s.queue.live.filterMap QueueMessage.carried? := by
      refine (List.mem_append.mp hmem).resolve_right fun hrequest => ?_
      obtain ⟨request, hrequest, howes⟩ := List.mem_filterMap.mp hrequest
      exact howed request hrequest howes
    have hnodup := (List.nodup_append.mp hbalanced.accounted.nodup).1
    rw [← List.count_filterMap]
    rw [hnodup.count, if_pos hmessage]
  · intro hover s' hsteps
    induction hsteps with
    | refl => exact hjob
    | tail hsteps hstep ih =>
      exact over_of_step hstep (balanced_of_reachable (hs.trans hsteps)) ih hover

/-- A job whose delivery is cut off the first time and lost the second time, and a job whose message
comes after the queue is closed.  The message of the first is then handed out all the same. -/
theorem carried_once_users : ∃ (cut lost closed : Circulation) (body : Bytes) (failed : Job),
    (Reachable cut ∧ cut.queue.waiting = [⟨0, body, 2⟩] ∧
      cut.queue.live.countP (·.carried? == some "job-1") = 1) ∧
    (Steps cut lost ∧ lost.queue.waiting = [⟨0, body, 3⟩] ∧
      lost.queue.live.countP (·.carried? == some "job-1") = 1) ∧
    (Steps lost closed ∧ closed.queue.isClosed = true ∧
      closed.queue.inFlight = [(lost.queue.handedOut, ⟨0, body, 3⟩)] ∧
      closed.queue.live.countP (·.carried? == some "job-1") = 1) ∧
    closed.store.find? "job-2" = some failed ∧ failed.status = .failed ∧
      ∀ s', Steps closed s' → s'.store.find? "job-2" = some failed := by
  obtain ⟨s, body, hs, hrests⟩ := exists_rests
  obtain ⟨cut, hcut, hagain⟩ := hrests.exists_cutOff rfl
  obtain ⟨lost, hlost, hwaits⟩ := hagain.exists_lost
  obtain ⟨closed, failed, hclosed, hisClosed, hinFlight, hgoes, howed, hfailed, hstatus⟩ :=
    hwaits.exists_closed
  have hcount : ∀ {s : Circulation}, Reachable s → s.store.Unfinished "job-1" →
      (∀ request ∈ s.requests, owed? request = none) →
      s.queue.live.countP (·.carried? == some "job-1") = 1 := by
    intro s hs hgoes howed
    obtain ⟨job, hjob, hgoes⟩ := hgoes
    refine (carried_once hs hjob).1 hgoes fun request hrequest => ?_
    rw [howed request hrequest]
    nofun
  have hcut : Reachable cut := hs.trans hcut
  have hover : Reachable closed := (hcut.trans hlost).trans hclosed
  exact ⟨cut, lost, closed, body, failed,
    ⟨hcut, hagain.waiting, hcount hcut hagain.goes hagain.owed⟩,
    ⟨hlost, hwaits.waiting, hcount (hcut.trans hlost) hwaits.goes hwaits.owed⟩,
    ⟨hclosed, hisClosed, hinFlight, hcount hover hgoes howed⟩,
    hfailed, hstatus, (carried_once hover hfailed).2 (by rw [hstatus]; rfl)⟩

end Circulation
end QueryGateway
