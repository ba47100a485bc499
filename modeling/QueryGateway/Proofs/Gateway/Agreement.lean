import QueryGateway.Proofs.Gateway.Repetition

/-!
# Dispositions and records

What becomes of a delivery and what becomes of the record of its job are told by different parts of
its handling.  They agree: a delivery is acknowledged if its job is over, comes back if its job
waits for it, and is put aside if its job has failed or there is none.

## Main definitions

* `Job.EndedWith`, `Job.WaitsAfter`, `Job.FailedFor` — the record of a job whose query gave rows, or
  failed and may be tried again, or failed for good.
* `GatewayEvent.Queried` — the query of a message was run, with an outcome.
* `Processor.Agreement` — what became of a delivery, of the job store and of the metrics agree.

## Main results

* `Processor.Course.agreement` — they agree in each of the courses.
* `Processor.handle_agrees` — a delivery comes to an end for every outcome of its query, and then
  they agree.
-/

namespace QueryGateway

open Program

/-! ### Texts of errors -/

theorem head?_toList_append {c : Char} {first rest : String}
    (h : first.toList.head? = some c) : (first ++ rest).toList.head? = some c := by
  rw [String.toList_append, List.head?_append, h]
  rfl

theorem Processor.head?_exhausted (attempt : UInt32) (reason : String) :
    (exhausted attempt reason).toList.head? = some 'f' :=
  head?_toList_append (head?_toList_append (head?_toList_append (by decide)))

/-- An error that stays has another first letter than one that was tried again and again. -/
theorem QueryError.head?_message {e : QueryError} (h : e.retryable = false) :
    ∃ c, e.message.toList.head? = some c ∧ c ≠ 'f' := by
  cases e with
  | connectionFailed | queryFailed | timeout | cancelled => cases h
  | invalidTable | invalidSchema => exact ⟨'i', by decide, by decide⟩
  | invalidColumn | invalidInput | internal =>
    exact ⟨'i', head?_toList_append (by decide), by decide⟩
  | columnBlocked => exact ⟨'c', head?_toList_append (by decide), by decide⟩
  | dataSourceNotFound => exact ⟨'d', head?_toList_append (by decide), by decide⟩
  | unsupportedType =>
    exact ⟨'u', head?_toList_append (head?_toList_append (by decide)), by decide⟩
  | statementRejected => exact ⟨'q', head?_toList_append (by decide), by decide⟩

/-! ### Records -/

namespace Job

/-- The record of a job whose query gave rows. -/
structure EndedWith (job : Job) (response : Response) : Prop where
  status : job.status = .succeeded
  rows : job.rows = some response.rowCount
  tookMs : job.tookMs = some response.tookMs
  finished : job.finishedAt ≠ none
  error : job.error = none

/-- The record of a job that waits for another attempt, after an error. -/
structure WaitsAfter (job : Job) (e : QueryError) : Prop where
  status : job.status = .queued
  error : job.error = some e.message
  rows : job.rows = none
  started : job.startedAt = none
  finished : job.finishedAt = none

/-- The record of a job that failed with an error in an attempt.  The text tells the number of
attempts exactly if the error was one that may pass. -/
structure FailedFor (job : Job) (attempt : UInt32) (e : QueryError) : Prop where
  status : job.status = .failed
  finished : job.finishedAt ≠ none
  rows : job.rows = none
  error : ∃ text, job.error = some text ∧ text ≠ "" ∧
    ((∃ reason, text = Processor.exhausted attempt reason) ↔ e.retryable = true)

end Job

/-- A record that was changed is the change of one that was there. -/
theorem Serves.exists_apply {store store' : JobStore} {id : String} {t : Transition} {job : Job}
    (h : Serves store (.mark id t) (.ok job) store') :
    ∃ old now, store.find? id = some old ∧ job = (t.update now).apply old := by
  cases h with
  | marked now h =>
    unfold JobStore.update at h
    split at h
    · cases h
    · next old hold =>
      obtain ⟨rfl, -⟩ := Prod.mk.inj (Except.ok.inj h)
      exact ⟨old, now, hold, rfl⟩

section Records

variable {middle store' : JobStore} {id : String} {job : Job}

theorem Job.endedWith_of_serves {response : Response} (h : Serves middle
    (.mark id (.succeed response.rowCount response.tookMs)) (.ok job) store') :
    job.EndedWith response := by
  obtain ⟨old, now, -, rfl⟩ := h.exists_apply
  exact ⟨rfl, rfl, rfl, Option.some_ne_none now, rfl⟩

theorem Job.waitsAfter_of_serves {e : QueryError}
    (h : Serves middle (.mark id (.retry e.message)) (.ok job) store') : job.WaitsAfter e := by
  obtain ⟨old, now, -, rfl⟩ := h.exists_apply
  exact ⟨rfl, rfl, rfl, rfl, rfl⟩

theorem Job.failedFor_of_serves {attempt : UInt32} {e : QueryError} {tookMs : Option Int64}
    (h : Serves middle (.mark id
      (.fail (if e.retryable then Processor.exhausted attempt e.message else e.message) tookMs))
      (.ok job) store') : job.FailedFor attempt e := by
  obtain ⟨old, now, -, rfl⟩ := h.exists_apply
  refine ⟨rfl, Option.some_ne_none now, rfl, _, rfl, ?_⟩
  cases he : e.retryable with
  | true =>
    have hhead := Processor.head?_exhausted attempt e.message
    refine ⟨?_, iff_of_true ⟨e.message, rfl⟩ rfl⟩
    intro hempty
    rw [if_pos rfl] at hempty
    rw [hempty] at hhead
    cases hhead
  | false =>
    obtain ⟨c, hhead, hc⟩ := QueryError.head?_message he
    simp only [Bool.false_eq_true, if_false, iff_false]
    constructor
    · intro hempty
      rw [hempty] at hhead
      cases hhead
    · rintro ⟨reason, hreason⟩
      rw [hreason, Processor.head?_exhausted] at hhead
      exact hc (Option.some.inj hhead).symm

end Records

/-! ### Agreement -/

namespace GatewayEvent

/-- A query is run. -/
def isQuery : GatewayEvent → Bool
  | ⟨.query _ _ _ _, _⟩ => true
  | _ => false

/-- A metric is recorded. -/
def isMetric : GatewayEvent → Bool
  | ⟨.record _, _⟩ => true
  | _ => false

/-- The query of a message was run, with this outcome. -/
def Queried (events : List GatewayEvent) (ctx : Context) (m : JobMessage)
    (outcome : Except QueryError Response) : Prop :=
  ∃ latency, (⟨.query ctx m.dataSource m.table m.request, (outcome, latency)⟩ : GatewayEvent) ∈
    events

end GatewayEvent

namespace Processor

open GatewayEvent

section Courses

variable {p : Processor} {m : JobMessage} {attempt : UInt32} {ctx : Context}
  {store store' : JobStore} {events : List GatewayEvent} {d : Disposition}

theorem allows_iff {policy : RetryPolicy} :
    policy.allows attempt = true ↔ attempt < policy.maxAttempts :=
  decide_eq_true_iff

/-- After an error the job waits and the delivery comes back, if another attempt is to be made;
otherwise the job fails and the delivery is put aside. -/
theorem afterError_cases (p : Processor) (attempt : UInt32) (e : QueryError) (tookMs : Int64) :
    (e.retryable = true ∧ attempt < p.retry.maxAttempts) ∧
        p.afterError attempt e tookMs = (.retry e.message, .requeue) ∨
      ¬(e.retryable = true ∧ attempt < p.retry.maxAttempts) ∧
        p.afterError attempt e tookMs =
          (.fail (if e.retryable then exhausted attempt e.message else e.message) (some tookMs),
            .reject) := by
  rw [← allows_iff, ← Bool.and_eq_true]
  unfold afterError
  cases e.retryable && p.retry.allows attempt with
  | true => exact Or.inl ⟨rfl, rfl⟩
  | false => exact Or.inr ⟨nofun, rfl⟩

namespace Course

/-- The query is run once at most, so it has one outcome. -/
theorem queried_unique (h : Course p m attempt ctx store events d store')
    {outcome outcome' : Except QueryError Response} (hqueried : Queried events ctx m outcome)
    (hqueried' : Queried events ctx m outcome') : outcome = outcome' := by
  obtain ⟨latency, hmem⟩ := hqueried
  obtain ⟨latency', hmem'⟩ := hqueried'
  cases h with
  | missing | ended => simp at hmem
  | succeeded | failed =>
    simp at hmem hmem'
    rw [hmem.1, hmem'.1]

/-- There is one metric if the query was run, and none otherwise. -/
theorem countP_isMetric (h : Course p m attempt ctx store events d store') :
    events.countP isMetric = if events.any isQuery then 1 else 0 := by
  cases h <;> rfl

/-- The job of an acknowledged delivery. -/
theorem acked (h : Course p m attempt ctx store events .ack store') :
    ∃ job, store.find? m.id = some job ∧ (job.status.isTerminal = true ∧ store' = store ∨
      job.status.isTerminal = false ∧ ∃ response ended, Queried events ctx m (.ok response) ∧
        store'.find? m.id = some ended ∧ ended.EndedWith response) := by
  cases h with
  | ended hfind hover => exact ⟨_, hfind, Or.inl ⟨hover, rfl⟩⟩
  | @succeeded _ _ ended _ _ response latency hfind hgoes _ hover =>
    exact ⟨_, hfind, Or.inr ⟨hgoes, response, ended, ⟨latency, by simp⟩, hover.of_ok.1,
      Job.endedWith_of_serves hover⟩⟩
  | @failed _ _ _ _ _ e latency _ _ _ _ _ _ hafter =>
    rcases p.afterError_cases attempt e latency with ⟨-, hcase⟩ | ⟨-, hcase⟩ <;>
      cases hafter.symm.trans hcase

/-- The job of a delivery that comes back. -/
theorem requeued (h : Course p m attempt ctx store events .requeue store') :
    ∃ job e queued, store.find? m.id = some job ∧ job.status.isTerminal = false ∧
      Queried events ctx m (.error e) ∧ (e.retryable = true ∧ attempt < p.retry.maxAttempts) ∧
        store'.find? m.id = some queued ∧ queued.WaitsAfter e := by
  cases h with
  | @failed _ _ queued _ _ e latency _ _ hfind hgoes _ hchanged hafter =>
    rcases p.afterError_cases attempt e latency with ⟨hagain, hcase⟩ | ⟨-, hcase⟩
    · obtain ⟨rfl, -⟩ := Prod.mk.inj (hafter.symm.trans hcase)
      exact ⟨_, e, queued, hfind, hgoes, ⟨latency, by simp⟩, hagain, hchanged.of_ok.1,
        Job.waitsAfter_of_serves hchanged⟩
    · cases hafter.symm.trans hcase

/-- The job of a delivery that is put aside, if there is one. -/
theorem rejected (h : Course p m attempt ctx store events .reject store') :
    store.find? m.id = none ∧ store' = store ∨ ∃ e failed, Queried events ctx m (.error e) ∧
      store'.find? m.id = some failed ∧ failed.FailedFor attempt e := by
  cases h with
  | missing hfind => exact Or.inl ⟨hfind, rfl⟩
  | @failed _ _ failed _ _ e latency _ _ _ _ _ hchanged hafter =>
    rcases p.afterError_cases attempt e latency with ⟨-, hcase⟩ | ⟨-, hcase⟩
    · cases hafter.symm.trans hcase
    · obtain ⟨rfl, -⟩ := Prod.mk.inj (hafter.symm.trans hcase)
      exact Or.inr ⟨e, failed, ⟨latency, by simp⟩, hchanged.of_ok.1,
        Job.failedFor_of_serves hchanged⟩

/-- A query that failed and is to be tried again sends the delivery back. -/
theorem eq_requeue (h : Course p m attempt ctx store events d store') {e : QueryError}
    (hqueried : Queried events ctx m (.error e)) (hretry : e.retryable = true)
    (hattempt : attempt < p.retry.maxAttempts) : d = .requeue := by
  obtain ⟨latency, hmem⟩ := hqueried
  cases h with
  | missing | ended | succeeded => simp at hmem
  | @failed _ _ _ _ _ e' latency' _ _ _ _ _ _ hafter =>
    obtain ⟨rfl, -⟩ : e = e' ∧ latency = latency' := by simpa using hmem
    rcases p.afterError_cases attempt e latency' with ⟨-, hcase⟩ | ⟨hlast, -⟩
    · exact (Prod.mk.inj (hafter.symm.trans hcase)).2
    · exact absurd ⟨hretry, hattempt⟩ hlast

end Course

end Courses

/-- What became of a delivery, of the job store and of the metrics agree. -/
structure Agreement (p : Processor) (body : Bytes) (attempt : UInt32) (ctx : Context)
    (store : JobStore) (events : List GatewayEvent) (d : Disposition) (store' : JobStore) :
    Prop where
  /-- An acknowledged delivery leaves a job that was over before, or whose query gave rows. -/
  acked : d = .ack → ∃ m job, JobMessage.decode? body = some m ∧ store.find? m.id = some job ∧
    (job.status.isTerminal = true ∧ store' = store ∨
      job.status.isTerminal = false ∧ ∃ response ended, Queried events ctx m (.ok response) ∧
        store'.find? m.id = some ended ∧ ended.EndedWith response)
  /-- A delivery comes back just if its query failed, and another attempt is to be made. -/
  requeued_iff : d = .requeue ↔ ∃ m job e, JobMessage.decode? body = some m ∧
    store.find? m.id = some job ∧ job.status.isTerminal = false ∧ Queried events ctx m (.error e) ∧
      e.retryable = true ∧ attempt < p.retry.maxAttempts
  /-- The job of a delivery that comes back waits. -/
  requeued : d = .requeue → ∀ m e, JobMessage.decode? body = some m →
    Queried events ctx m (.error e) →
      ∃ queued, store'.find? m.id = some queued ∧ queued.WaitsAfter e
  /-- A delivery that is put aside is of no job, or its job has failed. -/
  rejected : d = .reject → JobMessage.decode? body = none ∧ store' = store ∨
    ∃ m, JobMessage.decode? body = some m ∧ (store.find? m.id = none ∧ store' = store ∨
      ∃ e failed, Queried events ctx m (.error e) ∧ store'.find? m.id = some failed ∧
        failed.FailedFor attempt e)
  /-- Other records stay. -/
  others : ∀ key, (∀ m, JobMessage.decode? body = some m → key ≠ m.id) →
    store'.find? key = store.find? key
  /-- There is one metric if the query was run, and none otherwise. -/
  metrics : events.countP isMetric = if events.any isQuery then 1 else 0

section Agreement

variable {p : Processor} {body : Bytes} {m : JobMessage} {attempt : UInt32} {ctx : Context}
  {store store' : JobStore} {events : List GatewayEvent} {d : Disposition}

theorem Course.agreement (h : Course p m attempt ctx store events d store')
    (hm : JobMessage.decode? body = some m) :
    Agreement p body attempt ctx store events d store' where
  acked := by
    rintro rfl
    obtain ⟨job, hjob, hends⟩ := h.acked
    exact ⟨m, job, hm, hjob, hends⟩
  requeued_iff := by
    constructor
    · rintro rfl
      obtain ⟨job, e, -, hjob, hgoes, hqueried, hagain, -⟩ := h.requeued
      exact ⟨m, job, e, hm, hjob, hgoes, hqueried, hagain⟩
    · rintro ⟨m', job, e, hm', -, -, hqueried, hretry, hattempt⟩
      obtain rfl := Option.some.inj (hm.symm.trans hm')
      exact h.eq_requeue hqueried hretry hattempt
  requeued := by
    rintro rfl m' e hm' hqueried
    obtain rfl := Option.some.inj (hm.symm.trans hm')
    obtain ⟨-, e', queued, -, -, hqueried', -, hfind, hwaits⟩ := h.requeued
    obtain rfl := Except.error.inj (h.queried_unique hqueried hqueried')
    exact ⟨queued, hfind, hwaits⟩
  rejected := by
    rintro rfl
    exact Or.inr ⟨m, hm, h.rejected⟩
  others := fun key hkey => h.find?_eq_of_ne (hkey m hm)
  metrics := h.countP_isMetric

/-- What is no message is put aside. -/
theorem agreement_of_decode?_eq_none (hm : JobMessage.decode? body = none) :
    Agreement p body attempt ctx store [] .reject store where
  acked := nofun
  requeued_iff := by
    refine iff_of_false nofun ?_
    rintro ⟨m, job, e, hm', -⟩
    cases hm.symm.trans hm'
  requeued := nofun
  rejected := fun _ => Or.inl ⟨hm, rfl⟩
  others := fun _ _ => rfl
  metrics := rfl

/-- Whenever a delivery is handled to its end, what became of it, of the job store and of the
metrics agree. -/
theorem agreement_of_completes
    (h : Completes store (p.handle body attempt ctx) events d store') :
    Agreement p body attempt ctx store events d store' := by
  unfold handle at h
  cases hm : JobMessage.decode? body with
  | none =>
    rw [hm] at h
    obtain ⟨rfl, rfl, rfl⟩ := completes_done.mp h
    exact agreement_of_decode?_eq_none hm
  | some m =>
    rw [hm] at h
    exact (course_of_completes h).agreement hm

end Agreement

/-! ### Every outcome -/

section Outcomes

variable (p : Processor) {m : JobMessage} (attempt : UInt32) (ctx : Context) {store : JobStore}
  (outcome : Except QueryError Response)

/-- The query of a job that is there may have any outcome, and the run comes to its end. -/
theorem exists_completes_run {job : Job} (hjob : store.find? m.id = some job) :
    ∃ events d store', Completes store (p.run m attempt ctx) events d store' ∧
      Queried events ctx m outcome := by
  cases outcome with
  | ok response =>
    obtain ⟨after, hafter⟩ := JobStore.update_of_find? hjob
      ((Transition.succeed response.rowCount response.tookMs).update .epoch)
    have hrun : Completes store (p.run m attempt ctx) _ .ack after :=
      .call (.queried _ (.ok response, 0)) (.call (.recorded _ _)
        (.call (.marked _ hafter) (.done _ _)))
    exact ⟨_, _, _, hrun, 0, by simp⟩
  | error e =>
    obtain ⟨after, hafter⟩ := JobStore.update_of_find? hjob
      ((p.afterError attempt e 0).1.update .epoch)
    have hmark : Completes store (.call (.mark m.id (p.afterError attempt e 0).1) fun _ =>
        .done (p.afterError attempt e 0).2) _ _ after := .call (.marked _ hafter) (.done _ _)
    rw [← fail_eq] at hmark
    have hrun : Completes store (p.run m attempt ctx) _ _ after :=
      .call (.queried _ (.error e, 0)) (.call (.recorded _ _) hmark)
    exact ⟨_, _, _, hrun, 0, by simp⟩

/-- Handling a delivery comes to an end, whatever the outcome of its query. -/
theorem exists_completes (body : Bytes) (store : JobStore) : ∃ events d store',
    Completes store (p.handle body attempt ctx) events d store' ∧
      ∀ m job, JobMessage.decode? body = some m → store.find? m.id = some job →
        job.status.isTerminal = false → Queried events ctx m outcome := by
  unfold handle
  cases hm : JobMessage.decode? body with
  | none =>
    refine ⟨[], .reject, store, .done _ _, ?_⟩
    rintro m job ⟨⟩
  | some m =>
    obtain ⟨next, hprocess, hdone, hstart⟩ := p.exists_process_eq_call m attempt ctx
    dsimp only
    rw [hprocess]
    rcases hdone (.ok (store.find? m.id)) with ⟨d, hd⟩ | ⟨job, hjob, hgoes⟩
    · have hrest : Completes store (next (.ok (store.find? m.id))) [] d store := by
        rw [hd]
        exact .done _ _
      refine ⟨_, d, store, .call (.found store m.id) hrest, ?_⟩
      rintro m' job hm' hjob hgoes
      obtain rfl := Option.some.inj hm'
      obtain ⟨after, hnext, -⟩ := hstart job hgoes
      rw [hjob, hnext] at hd
      cases hd
    · obtain ⟨after, hnext, -, hrun⟩ := hstart job hgoes
      have hfind := Except.ok.inj hjob
      obtain ⟨running, hrunning⟩ := JobStore.update_of_find? hfind (Transition.run.update .epoch)
      have hfound := JobStore.find?_of_update hrunning m.id
      rw [if_pos rfl] at hfound
      obtain ⟨events, d, store', hevents, hqueried⟩ :=
        exists_completes_run p attempt ctx outcome hfound
      have hmark : Completes store (.call (.mark m.id .run) after) _ d store' :=
        .call (.marked _ hrunning) (hrun _ ▸ hevents)
      rw [← hnext, ← hjob] at hmark
      refine ⟨_, d, store', .call (.found store m.id) hmark, ?_⟩
      rintro m' job' hm' - -
      obtain rfl := Option.some.inj hm'
      obtain ⟨latency, hmem⟩ := hqueried
      exact ⟨latency, List.mem_cons_of_mem _ (List.mem_cons_of_mem _ hmem)⟩

end Outcomes

/-- A delivery is handled to its end for every content of the job store and every outcome of its
query; then what became of it, of the record of its job and of the metrics agree. -/
theorem handle_agrees (p : Processor) (body : Bytes) (attempt : UInt32) (ctx : Context)
    (store : JobStore) :
    (∀ outcome, ∃ events d store',
      Completes store (p.handle body attempt ctx) events d store' ∧
        ∀ m job, JobMessage.decode? body = some m → store.find? m.id = some job →
          job.status.isTerminal = false → Queried events ctx m outcome) ∧
      ∀ events d store', Completes store (p.handle body attempt ctx) events d store' →
        Agreement p body attempt ctx store events d store' :=
  ⟨fun outcome => exists_completes p attempt ctx outcome body store,
    fun _ _ _ h => agreement_of_completes h⟩

/-- The query of a queued job is cancelled in the first of five attempts: the delivery comes back,
and the job waits for it. -/
theorem handle_agrees_cancelled : ∃ events store',
    Completes [Handling.usersJob .queued] (handle ⟨.ofMax 5⟩ Handling.usersMessage.encode 1
      { token := ⟨0, []⟩ }) events .requeue store' ∧
    ∃ queued, store'.find? "job-1" = some queued ∧ queued.WaitsAfter .cancelled := by
  have hm := Handling.decode?_usersMessage
  have hjob := Handling.find?_usersJob .queued
  obtain ⟨hruns, hall⟩ := handle_agrees ⟨.ofMax 5⟩ Handling.usersMessage.encode 1
    { token := ⟨0, []⟩ } [Handling.usersJob .queued]
  obtain ⟨events, d, store', h, hqueried⟩ := hruns (.error .cancelled)
  have hagreement := hall events d store' h
  have hqueried := hqueried _ _ hm hjob rfl
  have hd : d = .requeue :=
    hagreement.requeued_iff.mpr ⟨_, _, .cancelled, hm, hjob, rfl, hqueried, rfl, by decide⟩
  subst hd
  exact ⟨events, store', h, hagreement.requeued rfl _ .cancelled hm hqueried⟩

end Processor
end QueryGateway
