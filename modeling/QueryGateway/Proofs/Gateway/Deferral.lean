import QueryGateway.Proofs.Gateway.Acceptance
import QueryGateway.Proofs.Gateway.Serving
import QueryGateway.Proofs.Service.Query

/-!
# Requests that are answered later

A request for later is prepared, its job is stored and a message is published, and each of these may
fail.  Whatever fails, the caller is told so: then there is no job, or it has failed.  If the caller
is told that the request was accepted, there is one new job that waits, and one new message of it.

## Main definitions

* `Backstage` — what requests work with: the job store, the messages that were published, and the
  calls of the query service.
* `Supplies` — the answers that the calls of a request may get from it.
* `Coordinator.AllOrNothing` — what may be found after a request for later.

## Main results

* `Service.prepare_unique` — what is prepared depends on the data sources only.
* `Coordinator.all_or_nothing` — a request for later, for every outcome of each of its parts.
-/

namespace QueryGateway

open Program

/-! ### Preparing a request -/

/-- The data sources are those that are found under their names. -/
def Looks (sources : String → Option Source) : (c : ServiceCall) × c.Answer → Prop
  | ⟨.source name, found⟩ => found = sources name
  | _ => True

namespace Service

variable {sources : String → Option Source} {name table : String} {r : Request}
  {events events' : List ((c : ServiceCall) × c.Answer)}

/-- A request is prepared with one look-up of its data source at most. -/
theorem prepare_cases {result : Except QueryError Prepared}
    (h : (prepare name table r).Trace events result) :
    (∃ e, checkTarget table r.schemaName = .error e ∧ events = [] ∧ result = .error e) ∨
      checkTarget table r.schemaName = .ok () ∧ ∃ found, events = [⟨.source name, found⟩] ∧
        result = match found with
          | none => .error (.dataSourceNotFound name)
          | some source =>
            (compile table r source).map fun compiled => { source, table, compiled } := by
  unfold prepare at h
  split at h
  · next e he =>
    obtain ⟨rfl, rfl⟩ := trace_done.mp h
    exact Or.inl ⟨e, he, rfl, rfl⟩
  · next hok =>
    obtain ⟨found, rest, rfl, hfound⟩ := trace_perform_bind.mp h
    refine Or.inr ⟨hok, found, ?_⟩
    cases found with
    | none =>
      obtain ⟨rfl, rfl⟩ := trace_done.mp hfound
      exact ⟨rfl, rfl⟩
    | some source =>
      obtain ⟨rfl, rfl⟩ := trace_done.mp hfound
      exact ⟨rfl, rfl⟩

/-- What is prepared depends on the data sources only. -/
theorem prepare_unique {result result' : Except QueryError Prepared}
    (h : (prepare name table r).Trace events result) (hlooks : ∀ e ∈ events, Looks sources e)
    (h' : (prepare name table r).Trace events' result') (hlooks' : ∀ e ∈ events', Looks sources e) :
    result = result' := by
  rcases prepare_cases h with ⟨e, he, -, rfl⟩ | ⟨hok, found, rfl, rfl⟩
  · rcases prepare_cases h' with ⟨e', he', -, rfl⟩ | ⟨hok', -⟩
    · rw [Except.error.inj (he.symm.trans he')]
    · cases he.symm.trans hok'
  · rcases prepare_cases h' with ⟨e', he', -, -⟩ | ⟨-, found', rfl, rfl⟩
    · cases hok.symm.trans he'
    · have hfound : found = sources name := hlooks _ (List.mem_singleton_self _)
      have hfound' : found' = sources name := hlooks' _ (List.mem_singleton_self _)
      rw [hfound, hfound']

/-- Preparing a request comes to an end. -/
theorem exists_trace_prepare (sources : String → Option Source) (name table : String)
    (r : Request) : ∃ events result, (prepare name table r).Trace events result ∧
      ∀ e ∈ events, Looks sources e := by
  unfold prepare
  split
  · exact ⟨[], _, .done _, List.forall_mem_nil _⟩
  · cases hfound : sources name with
    | none => exact ⟨[⟨.source name, none⟩], _, .call (.done _), by simp [Looks, hfound]⟩
    | some source =>
      exact ⟨[⟨.source name, some source⟩], _, .call (.done _), by simp [Looks, hfound]⟩

/-- A request that cannot be prepared is answered with the error. -/
theorem queryTable_of_prepare {s : Service} {ctx : Context} {e : QueryError}
    (h : (prepare name table r).Trace events (.error e)) (hlooks : ∀ e ∈ events, Looks sources e)
    {result : Except QueryError Response}
    (hquery : (s.queryTable ctx name table r).Trace events' result)
    (hlooks' : ∀ e ∈ events', Looks sources e) : result = .error e := by
  unfold queryTable at hquery
  obtain ⟨preparing, executing, prepared, rfl, hprepare, hexecute⟩ := trace_bind.mp hquery
  have hprepared : .error e = prepared :=
    prepare_unique h hlooks hprepare fun e he => hlooks' e (List.mem_append_left _ he)
  subst hprepared
  exact (trace_done.mp hexecute).2.symm

end Service

/-! ### What requests work with -/

/-- The job store, the messages that were published in turn, and the calls that the query service
has made. -/
structure Backstage where
  store : JobStore
  published : List Bytes := []
  served : List ((c : ServiceCall) × c.Answer) := []

/-- The answers that the calls of a request may get from the query service, the memory job store and
a queue.  The job store may fail to store a job, and the queue to publish a message. -/
inductive Supplies (s : Service) (sources : String → Option Source) :
    Backstage → (c : GatewayCall) → c.Answer → Backstage → Prop
  | prepared (w : Backstage) {name table : String} {r : Request}
      {events : List ((c : ServiceCall) × c.Answer)} {result : Except QueryError Prepared}
      (h : (Service.prepare name table r).Trace events result)
      (hlooks : ∀ e ∈ events, Looks sources e) :
      Supplies s sources w (.prepare name table r) (result.map fun _ => ())
        { w with served := w.served ++ events }
  | queried (w : Backstage) {ctx : Context} {name table : String} {r : Request}
      {events : List ((c : ServiceCall) × c.Answer)} {result : Except QueryError Response}
      (latency : Int64) (h : (s.queryTable ctx name table r).Trace events result)
      (hlooks : ∀ e ∈ events, Looks sources e) :
      Supplies s sources w (.query ctx name table r) (result, latency)
        { w with served := w.served ++ events }
  | recorded (w : Backstage) (m : Metric) : Supplies s sources w (.record m) () w
  | inserted {w : Backstage} {new : NewJob} {store : JobStore} (id : String) (now : Instant)
      (h : w.store.insert (new.queued id now) = .ok store) :
      Supplies s sources w (.insert new) (.ok (new.queued id now)) { w with store }
  | refused (w : Backstage) (new : NewJob) (e : JobError) :
      Supplies s sources w (.insert new) (.error e) w
  | published (w : Backstage) (body : Bytes) :
      Supplies s sources w (.publish body) (.ok ()) { w with published := w.published ++ [body] }
  | unpublished (w : Backstage) (body : Bytes) (e : QueueError) :
      Supplies s sources w (.publish body) (.error e) w
  | marked {w : Backstage} {id : String} {t : Transition} {answer : Except JobError Job}
      {store : JobStore} (h : Serves w.store (.mark id t) answer store) :
      Supplies s sources w (.mark id t) answer { w with store }

section Courses

variable {s : Service} {sources : String → Option Source} {w w' : Backstage}

/-- A request that was prepared, or not, has changed nothing but the calls of the query service. -/
theorem Supplies.of_prepare {name table : String} {r : Request} {answer : Except QueryError Unit}
    (h : Supplies s sources w (.prepare name table r) answer w') : ∃ events result,
      (Service.prepare name table r).Trace events result ∧ (∀ e ∈ events, Looks sources e) ∧
        answer = result.map (fun _ => ()) ∧ w' = { w with served := w.served ++ events } := by
  cases h with
  | prepared h hlooks => exact ⟨_, _, h, hlooks, rfl, rfl⟩

/-- A job that was stored is new and is the last one. -/
theorem Supplies.of_insert {new : NewJob} {job : Job}
    (h : Supplies s sources w (.insert new) (.ok job) w') : ∃ id now, job = new.queued id now ∧
      w.store.find? job.id = none ∧ w' = { w with store := w.store ++ [job] } := by
  cases h with
  | inserted id now h =>
    obtain ⟨hnone, rfl⟩ := JobStore.eq_append_of_insert h
    exact ⟨id, now, rfl, hnone, rfl⟩

/-- A job that was not stored leaves everything as it is. -/
theorem Supplies.of_insert_error {new : NewJob} {e : JobError}
    (h : Supplies s sources w (.insert new) (.error e) w') : w' = w := by
  cases h
  rfl

/-- A message that was published is the last one. -/
theorem Supplies.of_publish {body : Bytes}
    (h : Supplies s sources w (.publish body) (.ok ()) w') :
    w' = { w with published := w.published ++ [body] } := by
  cases h
  rfl

/-- A message that was not published leaves everything as it is. -/
theorem Supplies.of_publish_error {body : Bytes} {e : QueueError}
    (h : Supplies s sources w (.publish body) (.error e) w') : w' = w := by
  cases h
  rfl

/-- A change of the job that was stored last leaves the others alone. -/
theorem Supplies.of_mark {job : Job} {t : Transition} {answer : Except JobError Job}
    {store : JobStore} (h : Supplies s sources { w with store := store ++ [job] } (.mark job.id t)
      answer w') (hnew : store.find? job.id = none) : ∃ now : Instant,
    w' = { w with store := store ++ [(t.update now).apply job] } := by
  cases h with
  | marked h =>
    cases h with
    | marked now h =>
      rw [JobStore.update_append_of_new hnew] at h
      obtain ⟨-, rfl⟩ := Prod.mk.inj (Except.ok.inj h)
      exact ⟨now, rfl⟩
    | missing now h =>
      rw [JobStore.update_append_of_new hnew] at h
      cases h

end Courses

/-! ### All or nothing -/

/-- A finished run of a program over what requests work with. -/
def Finishes {α : Type} (s : Service) (sources : String → Option Source) (w : Backstage)
    (program : GatewayProgram α) (events : List ((c : GatewayCall) × c.Answer)) (result : α)
    (w' : Backstage) : Prop :=
  program.Trace events result ∧ Served (Supplies s sources) w events w'

/-- The record of a job is of a request. -/
structure Job.MadeFor (job : Job) (source table : String) (r : Request)
    (apiKey : Option String) : Prop where
  payloadHash : job.payloadHash = r.hash
  apiKey : job.apiKey = apiKey
  dataSource : job.dataSource = source
  table : job.table = table

theorem Job.madeFor_of_queued {job : Job} {source table id : String} {r : Request}
    {apiKey : Option String} {now : Instant}
    (h : job =
      NewJob.queued { payloadHash := r.hash, apiKey, dataSource := source, table } id now) :
    job.MadeFor source table r apiKey := by
  rw [h]
  exact ⟨rfl, rfl, rfl, rfl⟩

/-- A change of the record leaves it of the same request. -/
theorem Job.MadeFor.apply {job : Job} {source table : String} {r : Request}
    {apiKey : Option String} (h : job.MadeFor source table r apiKey) (u : JobUpdate) :
    (u.apply job).MadeFor source table r apiKey :=
  ⟨h.payloadHash, h.apiKey, h.dataSource, h.table⟩

/-- A message tells of a job and its request. -/
structure JobMessage.TellsOf (m : JobMessage) (job : Job) (r : Request) : Prop where
  id : m.id = job.id
  payloadHash : m.payloadHash = job.payloadHash
  apiKey : m.apiKey = job.apiKey
  dataSource : m.dataSource = job.dataSource
  table : m.table = job.table
  createdAt : m.createdAt = job.createdAt
  request : m.request = r

namespace Coordinator

/-- A request that is answered at once has this result, whatever the context and whatever was done
before. -/
def AnswersAtOnce (s : Service) (sources : String → Option Source) (source table : String)
    (r : Request) (result : Except Failure QueryOutcome) : Prop :=
  ∀ (c : Coordinator) (ctx : Context) (apiKey : Option String) (w : Backstage),
    (∃ events w', Finishes s sources w (c.execute ctx source table r apiKey .sync) events result
      w') ∧
    ∀ events result' w',
      Finishes s sources w (c.execute ctx source table r apiKey .sync) events result' w' →
        result' = result

/-- What may be found after a request for later. -/
structure AllOrNothing (s : Service) (sources : String → Option Source) (source table : String)
    (r : Request) (apiKey : Option String) (w : Backstage)
    (events : List ((c : GatewayCall) × c.Answer)) (result : Except Failure QueryOutcome)
    (w' : Backstage) : Prop where
  /-- A request that cannot be prepared leaves nothing, and fails as it would at once. -/
  refused : ∀ e, ⟨.prepare source table r, .error e⟩ ∈ events →
    w'.store = w.store ∧ w'.published = w.published ∧ (∃ failure, result = .error failure) ∧
      AnswersAtOnce s sources source table r result
  /-- A job that cannot be stored leaves nothing. -/
  unstored : ∀ new e, ⟨.insert new, .error e⟩ ∈ events →
    w'.store = w.store ∧ w'.published = w.published ∧
      result = .error (.internal "failed to persist job")
  /-- A request that is accepted leaves one new job that waits, and one message of it. -/
  accepted : ∀ outcome, result = .ok outcome → ∃ (job : Job) (m : JobMessage),
    w.store.find? job.id = none ∧ w'.store = w.store ++ [job] ∧
      job.MadeFor source table r apiKey ∧ job.status = .queued ∧
      w'.published = w.published ++ [m.encode] ∧ m.TellsOf job r ∧
        outcome = .accepted ⟨job.id, r.hash⟩
  /-- A message that cannot be published leaves one new job, which has failed. -/
  unpublished : ∀ body e, ⟨.publish body, .error e⟩ ∈ events → ∃ job,
    w.store.find? job.id = none ∧ w'.store = w.store ++ [job] ∧
      job.MadeFor source table r apiKey ∧ job.status = .failed ∧
        job.error = some "queue publish failed" ∧ job.finishedAt ≠ none ∧
          w'.published = w.published ∧ result = .error (.internal "failed to enqueue job")
  /-- There is no other outcome. -/
  complete : (∃ outcome, result = .ok outcome) ∨
    (∃ e, ⟨.prepare source table r, .error e⟩ ∈ events) ∨
      (∃ new e, ⟨.insert new, .error e⟩ ∈ events) ∨ ∃ body e, ⟨.publish body, .error e⟩ ∈ events
  /-- The query service does no more than look the data source up. -/
  unqueried : ∃ served, w'.served = w.served ++ served ∧
    ∀ event ∈ served, ∃ name found, event = ⟨.source name, found⟩

section Runs

variable {s : Service} {sources : String → Option Source} {source table : String} {r : Request}
  {apiKey : Option String} {ctx : Context} {w w' : Backstage}
  {events : List ((c : GatewayCall) × c.Answer)} {result : Except Failure QueryOutcome}

/-- A request that cannot be prepared fails with that error when it is answered at once. -/
theorem answersAtOnce_of_prepare {prepared : List ((c : ServiceCall) × c.Answer)} {e : QueryError}
    (h : (Service.prepare source table r).Trace prepared (.error e))
    (hlooks : ∀ e ∈ prepared, Looks sources e) :
    AnswersAtOnce s sources source table r (.error e.failure) := by
  intro c ctx apiKey w
  constructor
  · have hquery : (s.queryTable ctx source table r).Trace prepared (.error e) := by
      unfold Service.queryTable
      exact trace_bind.mpr ⟨prepared, [], _, (List.append_nil _).symm, h, .done _⟩
    have htrace : (c.execute ctx source table r apiKey .sync).Trace
        [⟨.query ctx source table r, (.error e, 0)⟩,
          ⟨.record ((Metric.error source table 0).withApiKey apiKey), ()⟩] (.error e.failure) :=
      .call (.call (.done _))
    exact ⟨_, _, htrace, .cons (.queried w 0 hquery hlooks) (.cons (.recorded _ _) (.nil _))⟩
  · rintro events result w' ⟨htrace, hserved⟩
    obtain ⟨running, rest, answer, rfl, hrun, hdone⟩ := trace_bind.mp htrace
    obtain ⟨rfl, rfl⟩ := trace_done.mp hdone
    obtain ⟨⟨queried, latency⟩, _, rfl, hqueried⟩ := trace_perform_bind.mp hrun
    obtain ⟨middle, hsupplied, -⟩ := served_cons.mp (List.append_nil _ ▸ hserved)
    cases hsupplied with
    | queried latency hquery hlooks' =>
      obtain rfl := Service.queryTable_of_prepare h hlooks hquery hlooks'
      obtain ⟨_, _, rfl, hrecorded⟩ := trace_perform_bind.mp hqueried
      obtain ⟨rfl, rfl⟩ := trace_done.mp hrecorded
      rfl

/-- The query service has looked the data source up at most. -/
theorem exists_source_of_prepare {name : String}
    {prepared : List ((c : ServiceCall) × c.Answer)} {answer : Except QueryError Prepared}
    (h : (Service.prepare name table r).Trace prepared answer) :
    ∀ event ∈ prepared, ∃ name found, event = ⟨.source name, found⟩ := by
  rcases Service.prepare_cases h with ⟨_, -, rfl, -⟩ | ⟨-, found, rfl, -⟩
  · exact List.forall_mem_nil _
  · intro event hevent
    exact ⟨name, found, List.mem_singleton.mp hevent⟩

/-- What the course of a request for later leaves. -/
theorem Course.allOrNothing {made : Except Failure AcceptedJob}
    (h : Course source table r apiKey events made)
    (hserved : Served (Supplies s sources) w events w') :
    AllOrNothing s sources source table r apiKey w events (made.map .accepted) w' := by
  cases h with
  | refused e =>
    obtain ⟨_, hprepare, hnil⟩ := served_cons.mp hserved
    obtain rfl := served_nil.mp hnil
    obtain ⟨prepared, answer, htrace, hlooks, hanswer, rfl⟩ := hprepare.of_prepare
    cases answer with
    | ok => cases hanswer
    | error e' =>
      obtain rfl := Except.error.inj hanswer
      exact {
        refused := fun _ _ => ⟨rfl, rfl, ⟨_, rfl⟩, answersAtOnce_of_prepare htrace hlooks⟩
        unstored := by simp
        accepted := nofun
        unpublished := by simp
        complete := Or.inr (Or.inl ⟨e, by simp⟩)
        unqueried := ⟨prepared, rfl, exists_source_of_prepare htrace⟩ }
  | unstored e =>
    obtain ⟨_, hprepare, hrest⟩ := served_cons.mp hserved
    obtain ⟨_, hinsert, hnil⟩ := served_cons.mp hrest
    obtain rfl := served_nil.mp hnil
    obtain ⟨prepared, answer, htrace, -, -, rfl⟩ := hprepare.of_prepare
    obtain rfl := hinsert.of_insert_error
    exact {
      refused := by simp
      unstored := fun _ _ _ => ⟨rfl, rfl, rfl⟩
      accepted := nofun
      unpublished := by simp
      complete := Or.inr (Or.inr (Or.inl
        ⟨_, e, List.mem_cons_of_mem _ (List.mem_singleton_self _)⟩))
      unqueried := ⟨prepared, rfl, exists_source_of_prepare htrace⟩ }
  | unpublished job e answer =>
    obtain ⟨_, hprepare, hrest⟩ := served_cons.mp hserved
    obtain ⟨_, hinsert, hrest⟩ := served_cons.mp hrest
    obtain ⟨_, hpublish, hrest⟩ := served_cons.mp hrest
    obtain ⟨_, hmark, hnil⟩ := served_cons.mp hrest
    obtain rfl := served_nil.mp hnil
    obtain ⟨prepared, _, htrace, -, -, rfl⟩ := hprepare.of_prepare
    obtain ⟨id, made, hjob, hnew, rfl⟩ := hinsert.of_insert
    obtain rfl := hpublish.of_publish_error
    obtain ⟨now, rfl⟩ := hmark.of_mark hnew
    have hmade := Job.madeFor_of_queued hjob
    exact {
      refused := by simp
      unstored := by simp
      accepted := nofun
      unpublished := fun _ _ _ =>
        ⟨((Transition.fail Coordinator.unpublished none).update now).apply job, hnew, rfl,
          hmade.apply _, rfl, rfl, Option.some_ne_none now, rfl, rfl⟩
      complete := Or.inr (Or.inr (Or.inr ⟨(JobMessage.ofJob job r).encode, e, by simp⟩))
      unqueried := ⟨prepared, rfl, exists_source_of_prepare htrace⟩ }
  | accepted job =>
    obtain ⟨_, hprepare, hrest⟩ := served_cons.mp hserved
    obtain ⟨_, hinsert, hrest⟩ := served_cons.mp hrest
    obtain ⟨_, hpublish, hnil⟩ := served_cons.mp hrest
    obtain rfl := served_nil.mp hnil
    obtain ⟨prepared, _, htrace, -, -, rfl⟩ := hprepare.of_prepare
    obtain ⟨id, made, hjob, hnew, rfl⟩ := hinsert.of_insert
    obtain rfl := hpublish.of_publish
    have hmade := Job.madeFor_of_queued hjob
    have hstatus : job.status = .queued := by
      rw [hjob]
      rfl
    exact {
      refused := by simp [acceptance]
      unstored := by simp [acceptance]
      accepted := fun _ houtcome => ⟨job, JobMessage.ofJob job r, hnew, rfl, hmade, hstatus, rfl,
        ⟨rfl, rfl, rfl, rfl, rfl, rfl, rfl⟩, (Except.ok.inj houtcome).symm⟩
      unpublished := by simp [acceptance]
      complete := Or.inl ⟨_, rfl⟩
      unqueried := ⟨prepared, rfl, exists_source_of_prepare htrace⟩ }

end Runs

/-- A request for later takes one of the courses. -/
theorem trace_execute_async {ctx : Context} {source table : String} {r : Request}
    {apiKey : Option String} {events : List ((c : GatewayCall) × c.Answer)}
    {result : Except Failure QueryOutcome} :
    (execute ⟨true⟩ ctx source table r apiKey .async).Trace events result ↔
      ∃ made, Course source table r apiKey events made ∧ result = made.map .accepted := by
  constructor
  · intro h
    obtain ⟨making, _, made, rfl, hmake, hdone⟩ := trace_bind.mp h
    obtain ⟨rfl, rfl⟩ := trace_done.mp hdone
    rw [List.append_nil]
    exact ⟨made, course_of_trace hmake, rfl⟩
  · rintro ⟨made, hcourse, rfl⟩
    exact trace_bind.mpr ⟨events, [], made, (List.append_nil _).symm, hcourse.trace, .done _⟩

/-- A request for later comes to an end, whatever comes of storing the job and publishing its
message. -/
theorem exists_finishes (s : Service) (sources : String → Option Source) (ctx : Context)
    (source table : String) (r : Request) (apiKey : Option String) {w : Backstage}
    (inserted : Except JobError String) (published : Except QueueError Unit) (now : Instant)
    (hnew : ∀ id, inserted = .ok id → w.store.find? id = none) : ∃ events result w',
      Finishes s sources w (execute ⟨true⟩ ctx source table r apiKey .async) events result w' ∧
        (∀ new answer, ⟨.insert new, answer⟩ ∈ events →
          answer = inserted.map fun id => new.queued id now) ∧
        ∀ body answer, ⟨.publish body, answer⟩ ∈ events → answer = published := by
  obtain ⟨served, prepared, htrace, hlooks⟩ := Service.exists_trace_prepare sources source table r
  have hprepare := Supplies.prepared (s := s) w htrace hlooks
  cases prepared with
  | error e =>
    exact ⟨_, _, _, ⟨trace_execute_async.mpr ⟨_, .refused e, rfl⟩, .cons hprepare (.nil _)⟩,
      by simp, by simp⟩
  | ok p =>
    cases inserted with
    | error e =>
      exact ⟨_, _, _, ⟨trace_execute_async.mpr ⟨_, .unstored e, rfl⟩,
        .cons hprepare (.cons (.refused _ _ e) (.nil _))⟩, by simp [Except.map], by simp⟩
    | ok id =>
      -- the id is new, so the job is stored at the end
      have hnone : w.store.find? ((NewJob.mk r.hash apiKey source table).queued id now).id = none :=
        hnew id rfl
      have hinsert : Supplies s sources { w with served := w.served ++ served } _ _ _ :=
        .inserted id now (JobStore.insert_of_new hnone)
      cases published with
      | ok _ =>
        exact ⟨_, _, _, ⟨trace_execute_async.mpr ⟨_, .accepted _, rfl⟩,
          .cons hprepare (.cons hinsert (.cons (.published _ _) (.nil _)))⟩,
          by simp [acceptance, Except.map], by simp [acceptance]⟩
      | error e =>
        have hmark := JobStore.update_append_of_new hnone
          ((Transition.fail unpublished none).update now)
        exact ⟨_, _, _, ⟨trace_execute_async.mpr ⟨_, .unpublished _ e _, rfl⟩,
          .cons hprepare (.cons hinsert (.cons (.unpublished _ _ e)
            (.cons (.marked (.marked now hmark)) (.nil _))))⟩, by simp [Except.map], by simp⟩

/-- A request for later comes to an end for every outcome of storing its job and publishing its
message.  Whatever the outcome, there is all that the caller is told of, or nothing that lives. -/
theorem all_or_nothing (s : Service) (sources : String → Option Source) (ctx : Context)
    (source table : String) (r : Request) (apiKey : Option String) (w : Backstage) :
    (∀ (inserted : Except JobError String) (published : Except QueueError Unit) (now : Instant),
      (∀ id, inserted = .ok id → w.store.find? id = none) → ∃ events result w',
        Finishes s sources w (execute ⟨true⟩ ctx source table r apiKey .async) events result w' ∧
          (∀ new answer, ⟨.insert new, answer⟩ ∈ events →
            answer = inserted.map fun id => new.queued id now) ∧
          ∀ body answer, ⟨.publish body, answer⟩ ∈ events → answer = published) ∧
      ∀ events result w',
        Finishes s sources w (execute ⟨true⟩ ctx source table r apiKey .async) events result w' →
          AllOrNothing s sources source table r apiKey w events result w' := by
  constructor
  · exact exists_finishes s sources ctx source table r apiKey
  · rintro events result w' ⟨htrace, hserved⟩
    obtain ⟨made, hcourse, rfl⟩ := trace_execute_async.mp htrace
    exact hcourse.allOrNothing hserved

/-- A request for users whose message is not published, as the queue is closed: its job is there and
has failed. -/
theorem all_or_nothing_closed : ∃ events result w',
    Finishes ⟨4000⟩ (fun _ => some (Service.usersSource "users.password")) { store := [] }
      (execute ⟨true⟩ { token := ⟨0, []⟩ } "main" "users" {} none .async) events result w' ∧
    ∃ job, w'.store = [job] ∧ job.status = .failed ∧ w'.published = [] := by
  have hprepare : Supplies ⟨4000⟩ (fun _ => some (Service.usersSource "users.password"))
      { store := [] } (.prepare "main" "users" {}) (.ok ()) _ :=
    .prepared _ (Service.trace_prepare "main" (Service.compile_users "users.password"))
      (by simp [Looks])
  have hnone : JobStore.find? [] ((Api.usersJob {}).queued "job-1" .epoch).id = none := rfl
  have hmark := JobStore.update_append_of_new hnone
    ((Transition.fail unpublished none).update .epoch)
  have hfinishes : Finishes ⟨4000⟩ (fun _ => some (Service.usersSource "users.password"))
      { store := [] } (execute ⟨true⟩ { token := ⟨0, []⟩ } "main" "users" {} none .async) _ _ _ :=
    ⟨trace_execute_async.mpr ⟨_, .unpublished _ .closed _, rfl⟩,
      .cons hprepare (.cons (.inserted "job-1" .epoch (JobStore.insert_of_new hnone))
        (.cons (.unpublished _ _ .closed) (.cons (.marked (.marked .epoch hmark)) (.nil _))))⟩
  obtain ⟨job, -, hstore, -, hstatus, -, -, hpublished, -⟩ :=
    ((all_or_nothing ⟨4000⟩ _ _ _ _ _ _ _).2 _ _ _ hfinishes).unpublished _ .closed
      (List.mem_cons_of_mem _ (List.mem_cons_of_mem _ List.mem_cons_self))
  exact ⟨_, _, _, hfinishes, job, hstore, hstatus, hpublished⟩

end Coordinator
end QueryGateway
