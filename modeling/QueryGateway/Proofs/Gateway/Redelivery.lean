import QueryGateway.Proofs.Gateway.Serving

/-!
# Deliveries handled one after the other

A delivery is handled to its end, or it is cut off while one of its calls waits for its answer, and
then the overrun is recorded.  Only the handling looks a job up before it changes the record; the
overrun is recorded whatever has become of the job.  So the record of a job that is over stays as it
is just as long as no look-up of it is cut off.

## Main definitions

* `Delivered` — what one delivery does to the job store.

## Main results

* `find_of_goes` — handling a delivery of a job that is over makes no other call than the look-up.
* `over_fixed_iff` — when the record of a job that is over stays as it is.
-/

namespace QueryGateway

open Program GatewayCall

/-- What one delivery does to the memory job store, if handling may be cut off at some calls. -/
inductive Delivered (p : Processor) (cuts : JobStore → GatewayCall → Prop) :
    JobStore → JobStore → Prop
  | handled {store store' : JobStore} {body : Bytes} {attempt : UInt32} {ctx : Context}
      {d : Disposition} (h : Goes store (p.handle body attempt ctx) store' (.done d)) :
      Delivered p cuts store store'
  | overran {store middle store' : JobStore} {body : Bytes} {attempt : UInt32} {ctx : Context}
      {c : GatewayCall} {next : c.Answer → GatewayProgram Disposition} {d : Disposition}
      (h : Goes store (p.handle body attempt ctx) middle (.call c next)) (hcut : cuts middle c)
      (hd : d ≠ .ack)
      (hnote : Goes middle (Processor.afterTimeout body attempt d) store' (.done ())) :
      Delivered p cuts store store'

/-! ### A job that is over -/

section Over

variable {id : String} {job : Job} {store store' : JobStore} {body : Bytes} {attempt : UInt32}

/-- Handling a delivery leaves the record of a job that is over as it is. -/
theorem find?_of_goes_handle (hjob : store.find? id = some job)
    (hover : job.status.isTerminal = true) {p : Processor} {ctx : Context}
    {program : GatewayProgram Disposition}
    (h : Goes store (p.handle body attempt ctx) store' program) : store'.find? id = some job :=
  (not_commits_of_goes hover h (.handle p body attempt ctx) hjob
    (not_commits_handle p body attempt ctx id)).1

/-- As long as a delivery of a job that is over waits for an answer, it looks the job up. -/
theorem find_of_goes {m : JobMessage} (hbody : JobMessage.decode? body = some m)
    (hjob : store.find? m.id = some job) (hover : job.status.isTerminal = true) {p : Processor}
    {ctx : Context} {c : GatewayCall} {next : c.Answer → GatewayProgram Disposition}
    (h : Goes store (p.handle body attempt ctx) store' (.call c next)) : c = .find m.id := by
  unfold Processor.handle at h
  rw [hbody] at h
  obtain ⟨first, hprocess, hfirst, -⟩ := p.exists_process_eq_call m attempt ctx
  dsimp only at h
  rw [hprocess] at h
  cases h with
  | refl => rfl
  | call hserves rest =>
    cases hserves with
    | found =>
      -- the look-up finds the job, and there is nothing more to do
      rw [hjob] at rest
      rcases hfirst (.ok (some job)) with ⟨d, hd⟩ | ⟨other, hother, hgoes⟩
      · rw [hd] at rest
        exact absurd (goes_done.mp rest).2 nofun
      · obtain rfl := Option.some.inj (Except.ok.inj hother)
        exact absurd (hover.symm.trans hgoes) (by decide)

/-- Recording an overrun leaves the records of other jobs as they are. -/
theorem find?_of_goes_afterTimeout {d : Disposition}
    (hother : ∀ m, JobMessage.decode? body = some m → id ≠ m.id)
    (h : Goes store (Processor.afterTimeout body attempt d) store' (.done ())) :
    store'.find? id = store.find? id := by
  unfold Processor.afterTimeout at h
  split at h
  · rw [(goes_done.mp h).1]
  · next m hm =>
    split at h
    · rw [(goes_done.mp h).1]
    · obtain ⟨-, answer, hserves⟩ := goes_call_done.mp h
      exact hserves.find?_eq_of_ne (hother m hm)
    · obtain ⟨-, answer, hserves⟩ := goes_call_done.mp h
      exact hserves.find?_eq_of_ne (hother m hm)

/-- A delivery leaves the record of a job that is over as it is, unless its look-up is cut off. -/
theorem find?_of_delivered {p : Processor} {cuts : JobStore → GatewayCall → Prop}
    (hcuts : ∀ (store : JobStore) (job : Job), store.find? id = some job →
      job.status.isTerminal = true → ¬cuts store (.find id))
    (hjob : store.find? id = some job) (hover : job.status.isTerminal = true)
    (h : Delivered p cuts store store') : store'.find? id = some job := by
  cases h with
  | handled h => exact find?_of_goes_handle hjob hover h
  | overran h hcut hd hnote =>
    have hmiddle := find?_of_goes_handle hjob hover h
    rw [← hmiddle]
    refine find?_of_goes_afterTimeout (fun m hm => ?_) hnote
    rintro rfl
    have hfind := find_of_goes hm hjob hover h
    exact hcuts _ job hmiddle hover (hfind ▸ hcut)

end Over

/-! ### Changing a job that is over -/

/-- A message of the job with an id. -/
def JobMessage.withId (id : String) : JobMessage where
  id := id
  payloadHash := Request.hash {}
  apiKey := none
  dataSource := "main"
  table := "users"
  request := {}
  createdAt := .epoch

theorem JobMessage.decode?_withId (id : String) :
    JobMessage.decode? (JobMessage.withId id).encode = some (JobMessage.withId id) := by
  have hcreated : Instant.epoch.WellFormed := by decide
  exact (JobMessage.decode?_encode (Request.canonical_of_filter_eq_nil rfl) hcreated).mpr
    (Request.readsBackWithin_of_filter_eq_nil rfl)

/-- A job that is over is queued again by a delivery whose look-up is cut off. -/
theorem exists_delivered_of_cut (p : Processor) (cuts : JobStore → GatewayCall → Prop)
    {id : String} {store : JobStore} {job : Job} (hjob : store.find? id = some job)
    (hcut : cuts store (.find id)) :
    ∃ store' changed, Delivered p cuts store store' ∧ store'.find? id = some changed ∧
      changed.status = .queued := by
  have hbody := JobMessage.decode?_withId id
  obtain ⟨next, hprocess, -⟩ := p.exists_process_eq_call (JobMessage.withId id) 1
    { token := ⟨0, []⟩ }
  obtain ⟨store', hupdate⟩ := JobStore.update_of_find? hjob
    ((Transition.retry Processor.timedOut).update .epoch)
  have hfound := JobStore.find?_of_update hupdate id
  rw [if_pos rfl] at hfound
  have hstart : Goes store (p.handle (JobMessage.withId id).encode 1 { token := ⟨0, []⟩ }) store
      (.call (.find id) next) := by
    unfold Processor.handle
    rw [hbody]
    dsimp only
    rw [hprocess]
    exact .refl _ _
  have hnote : Goes store (Processor.afterTimeout (JobMessage.withId id).encode 1 .requeue) store'
      (.done ()) := by
    unfold Processor.afterTimeout
    rw [hbody]
    exact .call (.marked _ hupdate) (.refl _ _)
  exact ⟨store', _, .overran hstart hcut (by decide) hnote, hfound, rfl⟩

/-- Whatever is delivered in turn, the record of a job that is over stays as it is, just when no
look-up of it is cut off. -/
theorem over_fixed_iff (p : Processor) (cuts : JobStore → GatewayCall → Prop) (id : String) :
    (∀ (store : JobStore) (job : Job), store.find? id = some job → job.status.isTerminal = true →
      ∀ store', Relation.ReflTransGen (Delivered p cuts) store store' →
        store'.find? id = some job) ↔
    ∀ (store : JobStore) (job : Job), store.find? id = some job → job.status.isTerminal = true →
      ¬cuts store (.find id) := by
  constructor
  · intro hfixed store job hjob hover hcut
    obtain ⟨store', changed, hdelivered, hchanged, hqueued⟩ :=
      exists_delivered_of_cut p cuts hjob hcut
    obtain rfl : changed = job := Option.some.inj
      (hchanged.symm.trans (hfixed store job hjob hover store' (.single hdelivered)))
    rw [hqueued] at hover
    cases hover
  · intro hcuts store job hjob hover store' hsteps
    induction hsteps with
    | refl => exact hjob
    | tail _ hstep ih => exact find?_of_delivered hcuts ih hover hstep

/-- A job that is not over succeeds in one delivery. -/
theorem exists_delivered_succeeded (p : Processor) (cuts : JobStore → GatewayCall → Prop)
    {body : Bytes} {m : JobMessage} (hbody : JobMessage.decode? body = some m) {store : JobStore}
    {job : Job} (hjob : store.find? m.id = some job) (hgoes : job.status.isTerminal = false)
    (response : Response) : ∃ store' done, Delivered p cuts store store' ∧
      store'.find? m.id = some done ∧ done.status = .succeeded := by
  obtain ⟨next, hprocess, -, hstart⟩ := p.exists_process_eq_call m 1 { token := ⟨0, []⟩ }
  obtain ⟨rest, hnext, -, hrun⟩ := hstart job hgoes
  -- the record is there, so the store can change it each time
  obtain ⟨running, hrunning⟩ := JobStore.update_of_find? hjob (Transition.run.update .epoch)
  have hfound := JobStore.find?_of_update hrunning m.id
  rw [if_pos rfl] at hfound
  obtain ⟨succeeded, hsucceeded⟩ := JobStore.update_of_find? hfound
    ((Transition.succeed response.rowCount response.tookMs).update .epoch)
  have hlast := JobStore.find?_of_update hsucceeded m.id
  rw [if_pos rfl] at hlast
  have hquery : Goes running (p.run m 1 { token := ⟨0, []⟩ }) succeeded (.done .ack) :=
    .call (.queried _ (.ok response, 0)) (.call (.recorded _ _) (.call (.marked _ hsucceeded)
      (.refl _ _)))
  have hmark : Goes store (.call (.mark m.id .run) rest) succeeded (.done .ack) :=
    .call (.marked _ hrunning) (hrun _ ▸ hquery)
  have hhandle : Goes store (p.handle body 1 { token := ⟨0, []⟩ }) succeeded (.done .ack) := by
    unfold Processor.handle
    rw [hbody]
    dsimp only
    rw [hprocess]
    refine .call (.found store m.id) ?_
    rw [hjob, hnext]
    exact hmark
  exact ⟨succeeded, _, .handled hhandle, hlast, rfl⟩

/-- A queued job succeeds in its first delivery, and the second one, cut off while it waits for the
look-up, makes it a queued job again. -/
theorem exists_succeeded_requeued : ∃ (store store' store'' : JobStore) (job : Job),
    Delivered ⟨.ofMax 5⟩ (fun _ => Waits) store store' ∧ store'.find? "job-1" = some job ∧
      job.status = .succeeded ∧ Delivered ⟨.ofMax 5⟩ (fun _ => Waits) store' store'' ∧
      store''.find? "job-1" ≠ some job := by
  obtain ⟨store', job, hfirst, hjob, hsucceeded⟩ :=
    exists_delivered_succeeded ⟨.ofMax 5⟩ (fun _ => Waits) Handling.decode?_usersMessage
      (Handling.find?_usersJob .queued) rfl
      { rows := [], table := "users", tookMs := 3, total := none }
  obtain ⟨store'', changed, hsecond, hchanged, hqueued⟩ :=
    exists_delivered_of_cut ⟨.ofMax 5⟩ (fun _ => Waits) hjob nofun
  refine ⟨_, store', store'', job, hfirst, hjob, hsucceeded, hsecond, fun hsame => ?_⟩
  obtain rfl := Option.some.inj (hchanged.symm.trans hsame)
  rw [hsucceeded] at hqueued
  cases hqueued

end QueryGateway
