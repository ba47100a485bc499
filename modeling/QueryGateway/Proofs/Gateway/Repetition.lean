import QueryGateway.Proofs.Gateway.Serving

/-!
# Deliveries that are repeated

The messages of any number of jobs are delivered in any order and any number of times, and each
delivery is handled to its end before the next one.  Handling a delivery takes one of four courses,
and only one of them runs a query that succeeds: it ends with the job over.  From then on every
delivery of the job takes the course that does nothing but look the job up.

## Main definitions

* `Completes` — a program runs to its end over the memory job store.
* `Processor.afterError` — what becomes of a job whose query failed.
* `Processor.Course` — the courses that handling a delivery may take.
* `Completion`, `Handles` — deliveries handled one after the other.

## Main results

* `Processor.course_of_completes` — handling a delivery of a message takes one of the courses.
* `Handles.idle` — the deliveries of a job that is over.
* `handled_once` — what deliveries that are repeated come to.
-/

namespace QueryGateway

open Program

/-! ### Programs that run to their end -/

/-- A call of a program, with its answer. -/
abbrev GatewayEvent := (c : GatewayCall) × c.Answer

/-- The program makes these calls in turn over the memory job store, with nothing beside it, gets
these answers and has this result. -/
inductive Completes {α : Type} :
    JobStore → GatewayProgram α → List GatewayEvent → α → JobStore → Prop
  | done (store : JobStore) (result : α) : Completes store (.done result) [] result store
  | call {store middle store' : JobStore} {c : GatewayCall} {answer : c.Answer}
      {next : c.Answer → GatewayProgram α} {events : List GatewayEvent} {result : α}
      (h : Serves store c answer middle)
      (rest : Completes middle (next answer) events result store') :
      Completes store (.call c next) (⟨c, answer⟩ :: events) result store'

section Completes

variable {α : Type} {store store' : JobStore} {events : List GatewayEvent} {result : α}

theorem completes_done {value : α} : Completes store (.done value) events result store' ↔
    events = [] ∧ result = value ∧ store' = store := by
  constructor
  · intro h
    cases h
    exact ⟨rfl, rfl, rfl⟩
  · rintro ⟨rfl, rfl, rfl⟩
    exact .done _ _

/-- A program that begins with a call goes on with its answer. -/
theorem completes_perform_bind {c : GatewayCall} {f : c.Answer → GatewayProgram α} :
    Completes store (perform c >>= f) events result store' ↔
      ∃ answer middle rest, events = ⟨c, answer⟩ :: rest ∧ Serves store c answer middle ∧
        Completes middle (f answer) rest result store' := by
  rw [perform_bind]
  constructor
  · intro h
    cases h with
    | call h rest => exact ⟨_, _, _, rfl, h, rest⟩
  · rintro ⟨answer, middle, rest, rfl, h, hrest⟩
    exact .call h hrest

end Completes

/-! ### The courses of a delivery -/

/-- What becomes of a job whose query failed, and of the delivery. -/
def Processor.afterError (p : Processor) (attempt : UInt32) (e : QueryError) (tookMs : Int64) :
    Transition × Disposition :=
  if e.retryable && p.retry.allows attempt then (.retry e.message, .requeue)
  else (.fail (if e.retryable then exhausted attempt e.message else e.message) (some tookMs),
    .reject)

/-- The courses that handling a delivery of a message may take: what is called, what becomes of the
delivery, and the store afterwards. -/
inductive Processor.Course (p : Processor) (m : JobMessage) (attempt : UInt32) (ctx : Context)
    (store : JobStore) : List GatewayEvent → Disposition → JobStore → Prop
  /-- There is no such job. -/
  | missing (hfind : store.find? m.id = none) :
      Course p m attempt ctx store [⟨.find m.id, .ok none⟩] .reject store
  /-- The job is over. -/
  | ended {job : Job} (hfind : store.find? m.id = some job) (hover : job.status.isTerminal = true) :
      Course p m attempt ctx store [⟨.find m.id, .ok (some job)⟩] .ack store
  /-- The query gives rows. -/
  | succeeded {job running ended : Job} {middle store' : JobStore} {response : Response}
      {latency : Int64} (hfind : store.find? m.id = some job)
      (hgoes : job.status.isTerminal = false)
      (hrun : Serves store (.mark m.id .run) (.ok running) middle)
      (hover : Serves middle (.mark m.id (.succeed response.rowCount response.tookMs)) (.ok ended)
        store') :
      Course p m attempt ctx store
        [⟨.find m.id, .ok (some job)⟩, ⟨.mark m.id .run, .ok running⟩,
          ⟨.query ctx m.dataSource m.table m.request, (.ok response, latency)⟩,
          ⟨.record (Processor.metricOf m
            (.success m.dataSource m.table latency response.rowCount)), ()⟩,
          ⟨.mark m.id (.succeed response.rowCount response.tookMs), .ok ended⟩]
        .ack store'
  /-- The query fails; the job is queued again or is over. -/
  | failed {job running changed : Job} {middle store' : JobStore} {e : QueryError}
      {latency : Int64} {t : Transition} {d : Disposition}
      (hfind : store.find? m.id = some job) (hgoes : job.status.isTerminal = false)
      (hrun : Serves store (.mark m.id .run) (.ok running) middle)
      (hchanged : Serves middle (.mark m.id t) (.ok changed) store')
      (hafter : p.afterError attempt e latency = (t, d)) :
      Course p m attempt ctx store
        [⟨.find m.id, .ok (some job)⟩, ⟨.mark m.id .run, .ok running⟩,
          ⟨.query ctx m.dataSource m.table m.request, (.error e, latency)⟩,
          ⟨.record (Processor.metricOf m (.error m.dataSource m.table latency)), ()⟩,
          ⟨.mark m.id t, .ok changed⟩]
        d store'

/-- A record that could be changed is found as it is then. -/
theorem Serves.of_ok {store store' : JobStore} {id : String} {t : Transition} {job : Job}
    (h : Serves store (.mark id t) (.ok job) store') :
    store'.find? id = some job ∧ job.status.isTerminal = t.ends := by
  cases h with
  | marked now h =>
    refine ⟨by rw [JobStore.find?_of_update h, if_pos rfl], ?_⟩
    unfold JobStore.update at h
    split at h
    · cases h
    · obtain ⟨rfl, -⟩ := Prod.mk.inj (Except.ok.inj h)
      exact t.isTerminal_status_update now

namespace Processor

variable {p : Processor} {m : JobMessage} {attempt : UInt32} {ctx : Context}
  {store store' : JobStore} {events : List GatewayEvent} {d : Disposition}

/-- Recording a failed attempt is one change of the record. -/
theorem fail_eq (p : Processor) (id : String) (e : QueryError) (attempt : UInt32)
    (tookMs : Int64) : p.fail id e attempt tookMs =
      .call (.mark id (p.afterError attempt e tookMs).1) fun _ =>
        .done (p.afterError attempt e tookMs).2 := by
  unfold fail afterError
  cases e.retryable && p.retry.allows attempt <;> rfl

theorem exists_of_completes_fail {id : String} {e : QueryError} {tookMs : Int64}
    (h : Completes store (p.fail id e attempt tookMs) events d store') : ∃ t answer,
      events = [⟨.mark id t, answer⟩] ∧ Serves store (.mark id t) answer store' ∧
        p.afterError attempt e tookMs = (t, d) := by
  rw [fail_eq] at h
  obtain ⟨answer, middle, rest, rfl, hserves, hdone⟩ := completes_perform_bind.mp h
  obtain ⟨rfl, rfl, rfl⟩ := completes_done.mp hdone
  exact ⟨_, answer, rfl, hserves, rfl⟩

/-- Handling a delivery of a message takes one of the courses. -/
theorem course_of_completes (h : Completes store (p.process m attempt ctx) events d store') :
    Course p m attempt ctx store events d store' := by
  unfold process at h
  obtain ⟨found, middle, rest, rfl, hserves, h⟩ := completes_perform_bind.mp h
  cases hserves
  cases hfind : store.find? m.id with
  | none =>
    rw [hfind] at h
    obtain ⟨rfl, rfl, rfl⟩ := completes_done.mp h
    exact .missing hfind
  | some job =>
    rw [hfind] at h
    dsimp only at h
    split at h
    · next hover =>
      obtain ⟨rfl, rfl, rfl⟩ := completes_done.mp h
      exact .ended hfind hover
    · next hnot =>
      have hgoes : job.status.isTerminal = false := Bool.eq_false_iff.mpr hnot
      obtain ⟨marked, running, rest, rfl, hrun, h⟩ := completes_perform_bind.mp h
      -- the record is there, so it can be changed each time
      obtain ⟨⟨job', rfl⟩, hunfinished⟩ := hrun.of_unfinished ⟨job, hfind, hgoes⟩
      have hunfinished := hunfinished.mpr rfl
      unfold run at h
      obtain ⟨⟨result, latency⟩, middle, rest, rfl, hquery, h⟩ := completes_perform_bind.mp h
      cases hquery
      cases result with
      | ok response =>
        obtain ⟨_, middle, rest, rfl, hrecord, h⟩ := completes_perform_bind.mp h
        cases hrecord
        obtain ⟨answer, last, rest, rfl, hover, h⟩ := completes_perform_bind.mp h
        obtain ⟨⟨ended, rfl⟩, -⟩ := hover.of_unfinished hunfinished
        obtain ⟨rfl, rfl, rfl⟩ := completes_done.mp h
        exact .succeeded hfind hgoes hrun hover
      | error e =>
        obtain ⟨_, middle, rest, rfl, hrecord, h⟩ := completes_perform_bind.mp h
        cases hrecord
        obtain ⟨t, answer, rfl, hchanged, hafter⟩ := exists_of_completes_fail h
        obtain ⟨⟨changed, rfl⟩, -⟩ := hchanged.of_unfinished hunfinished
        exact .failed hfind hgoes hrun hchanged hafter

end Processor

/-! ### Deliveries in turn -/

namespace GatewayEvent

/-- A query gave rows. -/
def isSuccess : GatewayEvent → Bool
  | ⟨.query _ _ _ _, (.ok _, _)⟩ => true
  | _ => false

/-- A metric of a job whose query gave rows is recorded. -/
def isSuccessMetric (id : String) : GatewayEvent → Bool
  | ⟨.record m, _⟩ => m.outcome = .success && m.jobId = some id
  | _ => false

end GatewayEvent

/-- A delivery that is handled to its end. -/
structure Completion where
  delivery : Delivery
  ctx : Context
  /-- The job store when the delivery comes. -/
  before : JobStore
  events : List GatewayEvent
  disposition : Disposition
  after : JobStore

namespace Completion

/-- Whether the delivery is of a message of a job. -/
def isFor (c : Completion) (id : String) : Bool :=
  (JobMessage.decode? c.delivery.body).any (·.id = id)

/-- How many queries of a job gave rows. -/
def successes (id : String) (past : List Completion) : Nat :=
  ((past.filter (·.isFor id)).flatMap Completion.events).countP GatewayEvent.isSuccess

/-- How many metrics of queries of a job that gave rows were recorded. -/
def successMetrics (id : String) (past : List Completion) : Nat :=
  (past.flatMap Completion.events).countP (GatewayEvent.isSuccessMetric id)

theorem successes_cons (id : String) (c : Completion) (past : List Completion) :
    successes id (c :: past) = successes id [c] + successes id past := by
  unfold successes
  by_cases h : c.isFor id <;> simp [h]

theorem successMetrics_cons (id : String) (c : Completion) (past : List Completion) :
    successMetrics id (c :: past) = successMetrics id [c] + successMetrics id past := by
  simp [successMetrics]

theorem successes_singleton (id : String) (c : Completion) :
    successes id [c] = if c.isFor id then c.events.countP GatewayEvent.isSuccess else 0 := by
  unfold successes
  by_cases h : c.isFor id <;> simp [h]

@[simp] theorem successMetrics_singleton (id : String) (c : Completion) :
    successMetrics id [c] = c.events.countP (GatewayEvent.isSuccessMetric id) := by
  simp [successMetrics]

/-- A processor handles the delivery to its end. -/
def IsOf (c : Completion) (p : Processor) : Prop :=
  Completes c.before (p.handle c.delivery.body c.delivery.attempt c.ctx) c.events c.disposition
    c.after

/-- A delivery of a message takes one of the courses. -/
theorem IsOf.course {c : Completion} {p : Processor} (h : c.IsOf p) {m : JobMessage}
    (hm : JobMessage.decode? c.delivery.body = some m) :
    Processor.Course p m c.delivery.attempt c.ctx c.before c.events c.disposition c.after := by
  unfold IsOf Processor.handle at h
  rw [hm] at h
  exact Processor.course_of_completes h

/-- What is no message is put aside. -/
theorem IsOf.refused {c : Completion} {p : Processor} (h : c.IsOf p)
    (hm : JobMessage.decode? c.delivery.body = none) :
    c.events = [] ∧ c.disposition = .reject ∧ c.after = c.before := by
  unfold IsOf Processor.handle at h
  rw [hm] at h
  exact completes_done.mp h

end Completion

namespace Processor.Course

variable {p : Processor} {m : JobMessage} {attempt : UInt32} {ctx : Context}
  {store store' : JobStore} {events : List GatewayEvent} {d : Disposition}

/-- The records of other jobs are left alone. -/
theorem find?_eq_of_ne (h : Course p m attempt ctx store events d store') {id : String}
    (hne : id ≠ m.id) : store'.find? id = store.find? id := by
  cases h with
  | missing | ended => rfl
  | succeeded _ _ hrun hover => rw [hover.find?_eq_of_ne hne, hrun.find?_eq_of_ne hne]
  | failed _ _ hrun hchanged => rw [hchanged.find?_eq_of_ne hne, hrun.find?_eq_of_ne hne]

/-- A delivery of a job that is over does nothing but look the job up. -/
theorem idle (h : Course p m attempt ctx store events d store') {job : Job}
    (hjob : store.find? m.id = some job) (hover : job.status.isTerminal = true) :
    d = .ack ∧ events = [⟨.find m.id, .ok (some job)⟩] ∧ store' = store := by
  cases h with
  | missing hfind => simp [hfind] at hjob
  | ended hfind =>
    obtain rfl := Option.some.inj (hjob.symm.trans hfind)
    exact ⟨rfl, rfl, rfl⟩
  | succeeded hfind hgoes =>
    obtain rfl := Option.some.inj (hjob.symm.trans hfind)
    simp [hover] at hgoes
  | failed hfind hgoes =>
    obtain rfl := Option.some.inj (hjob.symm.trans hfind)
    simp [hover] at hgoes

/-- A query that gives rows comes with one metric of its job, and then the job is over. -/
theorem counts (h : Course p m attempt ctx store events d store') :
    (events.countP GatewayEvent.isSuccess = 0 ∧
      ∀ id, events.countP (GatewayEvent.isSuccessMetric id) = 0) ∨
    (events.countP GatewayEvent.isSuccess = 1 ∧
      (∀ id, events.countP (GatewayEvent.isSuccessMetric id) = if m.id = id then 1 else 0) ∧
      ∃ ended, store'.find? m.id = some ended ∧ ended.status.isTerminal = true) := by
  cases h with
  | missing | ended => exact Or.inl ⟨rfl, fun _ => rfl⟩
  | failed => exact Or.inl ⟨rfl, fun _ => rfl⟩
  | succeeded _ _ _ hover =>
    obtain ⟨hfind, hstatus⟩ := hover.of_ok
    refine Or.inr ⟨rfl, fun id => ?_, _, hfind, hstatus⟩
    by_cases hid : m.id = id <;>
      simp [GatewayEvent.isSuccessMetric, metricOf, Metric.withApiKey, Metric.withJob,
        Metric.success, hid]

end Processor.Course

namespace Completion

variable {c : Completion} {p : Processor} {id : String}

/-- A delivery of another job, or of none, leaves the record of a job alone. -/
theorem IsOf.find?_eq (h : c.IsOf p) (hother : c.isFor id = false) :
    c.after.find? id = c.before.find? id := by
  cases hm : JobMessage.decode? c.delivery.body with
  | none => rw [(h.refused hm).2.2]
  | some m =>
    refine (h.course hm).find?_eq_of_ne ?_
    rintro rfl
    simp [isFor, hm] at hother

/-- A delivery that comes when a job is over does nothing, if it is one of that job, and leaves its
record alone in any case. -/
theorem IsOf.idle (h : c.IsOf p) {job : Job} (hjob : c.before.find? id = some job)
    (hover : job.status.isTerminal = true) : c.after.find? id = some job ∧
      (c.isFor id = true → c.disposition = .ack ∧ c.events = [⟨.find id, .ok (some job)⟩] ∧
        c.after = c.before) := by
  cases hfor : c.isFor id with
  | false => exact ⟨(h.find?_eq hfor).trans hjob, nofun⟩
  | true =>
    cases hm : JobMessage.decode? c.delivery.body with
    | none => simp [isFor, hm] at hfor
    | some m =>
      obtain rfl : m.id = id := by simpa [isFor, hm] using hfor
      obtain ⟨hack, hevents, hafter⟩ := (h.course hm).idle hjob hover
      exact ⟨hafter ▸ hjob, fun _ => ⟨hack, hevents, hafter⟩⟩

/-- A delivery brings a job one success at most, with its metric, and then the job is over. -/
theorem IsOf.counts (h : c.IsOf p) (id : String) :
    successMetrics id [c] = successes id [c] ∧ (successes id [c] = 0 ∨
      (successes id [c] = 1 ∧ ∃ ended, c.after.find? id = some ended ∧
        ended.status.isTerminal = true)) := by
  rw [successes_singleton, successMetrics_singleton]
  cases hm : JobMessage.decode? c.delivery.body with
  | none => simp [(h.refused hm).1]
  | some m =>
    have hfor : c.isFor id = decide (m.id = id) := by simp [isFor, hm]
    rcases (h.course hm).counts with ⟨hsuccess, hmetric⟩ | ⟨hsuccess, hmetric, hover⟩
    · simp [hsuccess, hmetric]
    · by_cases hid : m.id = id
      · subst hid
        simp [hsuccess, hmetric, hfor, hover]
      · simp [hmetric, hfor, hid]

/-- A delivery that comes when a job is over brings it no success. -/
theorem IsOf.successes_eq_zero (h : c.IsOf p) {job : Job} (hjob : c.before.find? id = some job)
    (hover : job.status.isTerminal = true) : successes id [c] = 0 := by
  rw [successes_singleton]
  split
  · next hfor =>
    rw [((h.idle hjob hover).2 hfor).2.1]
    rfl
  · rfl

end Completion

/-- A processor handles deliveries one after the other. -/
inductive Handles (p : Processor) : JobStore → List Completion → JobStore → Prop
  | nil (store : JobStore) : Handles p store [] store
  | cons {c : Completion} {past : List Completion} {store' : JobStore} (h : c.IsOf p)
      (rest : Handles p c.after past store') : Handles p c.before (c :: past) store'

namespace Handles

variable {p : Processor} {store store' : JobStore} {past : List Completion}

theorem isOf (h : Handles p store past store') : ∀ c ∈ past, c.IsOf p := by
  induction h with
  | nil => exact nofun
  | cons hc _ ih => exact List.forall_mem_cons.mpr ⟨hc, ih⟩

/-- What follows some deliveries begins with the store that the next one meets. -/
theorem of_append {earlier later : List Completion} {c : Completion}
    (h : Handles p store (earlier ++ c :: later) store') :
    Handles p c.before (c :: later) store' := by
  induction earlier generalizing store with
  | nil =>
    cases h with
    | cons hc rest => exact .cons hc rest
  | cons first earlier ih =>
    cases h with
    | cons _ rest => exact ih rest

/-- The deliveries that come when a job is over. -/
theorem idle (h : Handles p store past store') {id : String} {job : Job}
    (hjob : store.find? id = some job) (hover : job.status.isTerminal = true) : ∀ c ∈ past,
      c.after.find? id = some job ∧ (c.isFor id = true → c.disposition = .ack ∧
        c.events = [⟨.find id, .ok (some job)⟩] ∧ c.after = c.before) := by
  induction h with
  | nil => exact nofun
  | cons hc _ ih =>
    have hidle := hc.idle hjob hover
    exact List.forall_mem_cons.mpr ⟨hidle, ih hidle.1⟩

/-- A job that is over has no more successes. -/
theorem successes_eq_zero (h : Handles p store past store') {id : String} {job : Job}
    (hjob : store.find? id = some job) (hover : job.status.isTerminal = true) :
    Completion.successes id past = 0 := by
  induction h with
  | nil => rfl
  | cons hc _ ih =>
    rw [Completion.successes_cons, hc.successes_eq_zero hjob hover, ih (hc.idle hjob hover).1]

/-- A job has one success at most. -/
theorem successes_le_one (h : Handles p store past store') (id : String) :
    Completion.successes id past ≤ 1 := by
  induction h with
  | nil => exact Nat.zero_le 1
  | cons hc rest ih =>
    rw [Completion.successes_cons]
    rcases (hc.counts id).2 with hzero | ⟨hone, ended, hfind, hover⟩
    · omega
    · have hrest := rest.successes_eq_zero hfind hover
      omega

theorem successMetrics_eq (h : Handles p store past store') (id : String) :
    Completion.successMetrics id past = Completion.successes id past := by
  induction h with
  | nil => rfl
  | cons hc _ ih =>
    rw [Completion.successes_cons, Completion.successMetrics_cons, (hc.counts id).1, ih]

end Handles

/-! ### Handling comes to an end -/

namespace Completion

variable (p : Processor) (ctx : Context) {m : JobMessage} {store : JobStore}

/-- The query of a delivery of a job that is not over may give rows. -/
theorem exists_succeeded {body : Bytes} (attempt : UInt32)
    (hm : JobMessage.decode? body = some m) {job : Job}
    (hjob : store.find? m.id = some job) (hgoes : job.status.isTerminal = false)
    (response : Response) : ∃ c : Completion, c.IsOf p ∧ c.delivery = ⟨body, attempt⟩ ∧
      c.ctx = ctx ∧ c.before = store ∧ c.events.countP GatewayEvent.isSuccess = 1 ∧
      ∃ ended, c.after.find? m.id = some ended ∧ ended.status = .succeeded := by
  obtain ⟨next, hprocess, -, hstart⟩ := p.exists_process_eq_call m attempt ctx
  obtain ⟨rest, hnext, -, hrun⟩ := hstart job hgoes
  -- the record is there, so the store can change it each time
  obtain ⟨running, hrunning⟩ := JobStore.update_of_find? hjob (Transition.run.update .epoch)
  have hfound := JobStore.find?_of_update hrunning m.id
  rw [if_pos rfl] at hfound
  obtain ⟨after, hafter⟩ := JobStore.update_of_find? hfound
    ((Transition.succeed response.rowCount response.tookMs).update .epoch)
  have hlast := JobStore.find?_of_update hafter m.id
  rw [if_pos rfl] at hlast
  have hquery : ∃ events, Completes running (p.run m attempt ctx) events .ack after ∧
      events.countP GatewayEvent.isSuccess = 1 :=
    ⟨_, .call (.queried _ (.ok response, 0)) (.call (.recorded _ _)
      (.call (.marked _ hafter) (.done _ _))), rfl⟩
  obtain ⟨events, hevents, hcount⟩ := hquery
  have hmark : ∃ events, Completes store (.call (.mark m.id .run) rest) events .ack after ∧
      events.countP GatewayEvent.isSuccess = 1 :=
    ⟨_, .call (.marked _ hrunning) (hrun _ ▸ hevents), hcount⟩
  obtain ⟨events, hevents, hcount⟩ := hmark
  rw [← hnext, ← hjob] at hevents
  refine ⟨⟨⟨body, attempt⟩, ctx, store, ⟨.find m.id, .ok (store.find? m.id)⟩ :: events, .ack,
    after⟩, ?_, rfl, rfl, rfl, hcount, _, hlast, rfl⟩
  unfold IsOf Processor.handle
  rw [hm]
  dsimp only
  rw [hprocess]
  exact .call (.found store m.id) hevents

/-- Handling a delivery comes to an end. -/
theorem exists_isOf (delivery : Delivery) (store : JobStore) :
    ∃ c : Completion, c.IsOf p ∧ c.delivery = delivery ∧ c.ctx = ctx ∧ c.before = store := by
  obtain ⟨body, attempt⟩ := delivery
  cases hm : JobMessage.decode? body with
  | none =>
    refine ⟨⟨⟨body, attempt⟩, ctx, store, [], .reject, store⟩, ?_, rfl, rfl, rfl⟩
    unfold IsOf Processor.handle
    rw [hm]
    exact .done _ _
  | some m =>
    obtain ⟨next, hprocess, hdone, -⟩ := p.exists_process_eq_call m attempt ctx
    rcases hdone (.ok (store.find? m.id)) with ⟨d, hd⟩ | ⟨job, hjob, hgoes⟩
    · have hrest : Completes store (next (.ok (store.find? m.id))) [] d store := by
        rw [hd]
        exact .done _ _
      refine ⟨⟨⟨body, attempt⟩, ctx, store, [⟨.find m.id, .ok (store.find? m.id)⟩], d, store⟩, ?_,
        rfl, rfl, rfl⟩
      unfold IsOf Processor.handle
      rw [hm]
      dsimp only
      rw [hprocess]
      exact .call (.found store m.id) hrest
    · obtain ⟨c, hc, hdelivery, hctx, hbefore, -⟩ := exists_succeeded p ctx attempt hm
        (Except.ok.inj hjob) hgoes { rows := [], table := m.table, tookMs := 0, total := none }
      exact ⟨c, hc, hdelivery, hctx, hbefore⟩

end Completion

/-- Whatever is delivered, in any order and however often: a job has at most one query that gives
rows and one metric of it.  Once the job is over, a delivery of it is acknowledged after its look-up
and changes nothing.  A delivery never changes the record of another job, and handling one more
always comes to an end. -/
theorem handled_once {p : Processor} {store store' : JobStore} {past : List Completion}
    (h : Handles p store past store') :
    (∀ id, Completion.successes id past ≤ 1 ∧
        Completion.successMetrics id past = Completion.successes id past) ∧
      (∀ earlier c later, past = earlier ++ c :: later →
        ∀ id job, c.before.find? id = some job → job.status.isTerminal = true →
          ∀ c' ∈ c :: later, c'.after.find? id = some job ∧
            (c'.isFor id = true → c'.disposition = .ack ∧
              c'.events = [⟨.find id, .ok (some job)⟩] ∧ c'.after = c'.before)) ∧
      (∀ c ∈ past, ∀ id, c.isFor id = false → c.after.find? id = c.before.find? id) ∧
      ∀ delivery ctx, ∃ c : Completion, c.IsOf p ∧ c.delivery = delivery ∧ c.ctx = ctx ∧
        c.before = store' := by
  refine ⟨fun id => ?_, ?_, fun c hc id hother => ?_, fun delivery ctx => ?_⟩
  · exact ⟨h.successes_le_one id, h.successMetrics_eq id⟩
  · rintro earlier c later rfl id job hjob hover
    exact h.of_append.idle hjob hover
  · exact (h.isOf c hc).find?_eq hother
  · exact Completion.exists_isOf p ctx delivery store'

/-- The message of a queued job is delivered twice: its query gives rows, and the second delivery,
which is called a first attempt, does nothing. -/
theorem handled_once_twice : ∃ (first second : Completion) (store' : JobStore) (job : Job),
    Handles ⟨.ofMax 5⟩ [Handling.usersJob .queued] [first, second] store' ∧
      second.before.find? "job-1" = some job ∧ job.status = .succeeded ∧
      second.isFor "job-1" = true ∧ second.delivery.attempt = 1 ∧
      Completion.successes "job-1" [first, second] = 1 ∧
      second.disposition = .ack ∧ second.after = second.before := by
  have hm := Handling.decode?_usersMessage
  have hfor : ∀ c : Completion, c.delivery = ⟨Handling.usersMessage.encode, 1⟩ →
      c.isFor "job-1" = true := by
    intro c hc
    rw [Completion.isFor, hc, hm]
    rfl
  obtain ⟨first, hfirst, hfirstFor, -, hbefore, hcount, job, hjob, hstatus⟩ :=
    Completion.exists_succeeded ⟨.ofMax 5⟩ { token := ⟨0, []⟩ } 1 hm
      (Handling.find?_usersJob .queued) rfl
      { rows := [], table := "users", tookMs := 3, total := none }
  obtain ⟨second, hsecond, hsecondFor, -, hmiddle⟩ :=
    Completion.exists_isOf ⟨.ofMax 5⟩ { token := ⟨0, []⟩ } ⟨Handling.usersMessage.encode, 1⟩
      first.after
  have hover : job.status.isTerminal = true := by
    rw [hstatus]
    rfl
  have hfind : second.before.find? "job-1" = some job := by
    rw [hmiddle]
    exact hjob
  have hhandled : Handles ⟨.ofMax 5⟩ first.before [first, second] second.after :=
    .cons hfirst (hmiddle ▸ .cons hsecond (.nil _))
  rw [hbefore] at hhandled
  obtain ⟨honce, hidle, -⟩ := handled_once hhandled
  obtain ⟨-, hdone⟩ := hidle [first] second [] rfl "job-1" job hfind hover second
    List.mem_cons_self
  obtain ⟨hack, -, hafter⟩ := hdone (hfor second hsecondFor)
  refine ⟨first, second, _, job, hhandled, hfind, hstatus, hfor second hsecondFor, ?_, ?_, hack,
    hafter⟩
  · rw [hsecondFor]
  · have hle := (honce "job-1").1
    have hsum := Completion.successes_cons "job-1" first [second]
    rw [Completion.successes_singleton, if_pos (hfor first hfirstFor), hcount] at hsum
    omega

end QueryGateway
