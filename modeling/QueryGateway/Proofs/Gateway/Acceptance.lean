import QueryGateway.Gateway.Processor
import QueryGateway.Gateway.Api
import QueryGateway.Proofs.Job.Message
import QueryGateway.Proofs.Program

/-!
# Accepted requests

A request that is accepted to run later has been read from the body, prepared, recorded as a job and
published as a message.  The message gives the request back just when every operand is read back one
level of nesting deeper.

## Main definitions

* `Records` — what the job store answers when a job is inserted.
* `acceptance` — the calls of a run that accepts a request.
* `Coordinator.Course` — the courses that making a job of a request may take.
* `Recovers` — what a worker needs of a message.

## Main results

* `Coordinator.course_of_trace` — making a job of a request takes one of the courses.
* `Api.accepted_of_trace` — a run that answers 202 accepted a request.
* `Api.recovers_published_iff` — when the message of an accepted request gives it back.
-/

namespace QueryGateway

open Json Program

variable {events : List ((c : GatewayCall) × c.Answer)}

/-- A new job is recorded as it is given, at an instant of the clock. -/
def Records (events : List ((c : GatewayCall) × c.Answer)) : Prop :=
  ∀ new job, ⟨.insert new, .ok job⟩ ∈ events → ∃ id now, job = new.queued id now ∧ now.WellFormed

/-- The calls of a run that accepts a request for a table: it is prepared, its job is recorded, and
the message of the job is published. -/
def acceptance (source table : String) (r : Request) (apiKey : Option String) (job : Job) :
    List ((c : GatewayCall) × c.Answer) :=
  [⟨.prepare source table r, .ok ()⟩,
    ⟨.insert { payloadHash := r.hash, apiKey, dataSource := source, table }, .ok job⟩,
    ⟨.publish (JobMessage.ofJob job r).encode, .ok ()⟩]

/-! ### Statuses -/

/-- No failure has the status of an accepted request. -/
theorem ErrorCode.status_ne (code : ErrorCode) : code.status ≠ 202 := by
  cases code <;> decide

theorem QueryError.status_failure_ne (e : QueryError) : e.failure.status ≠ 202 := by
  have hstatus : e.failure.status = e.code.status := by
    unfold QueryError.failure
    cases e.detail? <;> rfl
  rw [hstatus]
  exact e.code.status_ne

namespace Coordinator

/-- The courses that making a job of a request may take: what is called, and the result. -/
inductive Course (source table : String) (r : Request) (apiKey : Option String) :
    List ((c : GatewayCall) × c.Answer) → Except Failure AcceptedJob → Prop
  /-- The request cannot be prepared. -/
  | refused (e : QueryError) :
      Course source table r apiKey [⟨.prepare source table r, .error e⟩] (.error e.failure)
  /-- The job cannot be stored. -/
  | unstored (e : JobError) :
      Course source table r apiKey
        [⟨.prepare source table r, .ok ()⟩,
          ⟨.insert { payloadHash := r.hash, apiKey, dataSource := source, table }, .error e⟩]
        (.error (.internal "failed to persist job"))
  /-- The message cannot be published, and the job is failed. -/
  | unpublished (job : Job) (e : QueueError) (answer : Except JobError Job) :
      Course source table r apiKey
        [⟨.prepare source table r, .ok ()⟩,
          ⟨.insert { payloadHash := r.hash, apiKey, dataSource := source, table }, .ok job⟩,
          ⟨.publish (JobMessage.ofJob job r).encode, .error e⟩,
          ⟨.mark job.id (.fail unpublished none), answer⟩]
        (.error (.internal "failed to enqueue job"))
  | accepted (job : Job) :
      Course source table r apiKey (acceptance source table r apiKey job)
        (.ok { jobId := job.id, payloadHash := r.hash })

/-- Making a job of a request takes one of the courses, if there are a job store and a queue. -/
theorem course_of_trace {source table : String} {r : Request} {apiKey : Option String}
    {result : Except Failure AcceptedJob}
    (h : (enqueue ⟨true⟩ source table r apiKey).Trace events result) :
    Course source table r apiKey events result := by
  obtain ⟨prepared, rest, rfl, hprepared⟩ := trace_perform_bind.mp h
  cases prepared with
  | error e =>
    obtain ⟨rfl, rfl⟩ := trace_done.mp hprepared
    exact .refused e
  | ok _ =>
    obtain ⟨inserted, rest, rfl, hinserted⟩ := trace_perform_bind.mp hprepared
    cases inserted with
    | error e =>
      obtain ⟨rfl, rfl⟩ := trace_done.mp hinserted
      exact .unstored e
    | ok job =>
      obtain ⟨published, rest, rfl, hpublished⟩ := trace_perform_bind.mp hinserted
      cases published with
      | ok _ =>
        obtain ⟨rfl, rfl⟩ := trace_done.mp hpublished
        exact .accepted job
      | error e =>
        obtain ⟨answer, rest, rfl, hmarked⟩ := trace_perform_bind.mp hpublished
        obtain ⟨rfl, rfl⟩ := trace_done.mp hmarked
        exact .unpublished job e answer

/-- Each of the courses can be taken. -/
theorem Course.trace {source table : String} {r : Request} {apiKey : Option String}
    {result : Except Failure AcceptedJob} (h : Course source table r apiKey events result) :
    (enqueue ⟨true⟩ source table r apiKey).Trace events result := by
  cases h with
  | refused e => exact .call (.done _)
  | unstored e => exact .call (.call (.done _))
  | unpublished job e answer => exact .call (.call (.call (.call (.done _))))
  | accepted job => exact .call (.call (.call (.done _)))

/-- A job is accepted when its message is published; what else may happen is a failure, and has
another status. -/
theorem accepted_of_trace {c : Coordinator} {source table : String} {r : Request}
    {apiKey : Option String} {result : Except Failure AcceptedJob}
    (h : (c.enqueue source table r apiKey).Trace events result) :
    (∃ job, events = acceptance source table r apiKey job) ∨
      ∃ e, result = .error e ∧ e.status ≠ 202 := by
  obtain ⟨hasQueue⟩ := c
  cases hasQueue with
  | false =>
    -- without a queue there is no call at all
    obtain ⟨-, rfl⟩ := trace_done.mp h
    exact Or.inr ⟨_, rfl, by decide⟩
  | true =>
    cases course_of_trace h with
    | refused e => exact Or.inr ⟨_, rfl, e.status_failure_ne⟩
    | unstored => exact Or.inr ⟨_, rfl, by decide⟩
    | unpublished => exact Or.inr ⟨_, rfl, by decide⟩
    | accepted job => exact Or.inl ⟨job, rfl⟩

/-- The failure of a request that is answered at once is that of its query. -/
theorem status_ne_of_trace {ctx : Context} {source table : String} {r : Request}
    {apiKey : Option String} {e : Failure}
    (h : (runNow ctx source table r apiKey).Trace events (.error e)) : e.status ≠ 202 := by
  obtain ⟨⟨answer, latency⟩, rest, rfl, hanswered⟩ := trace_perform_bind.mp h
  cases answer with
  | ok response =>
    obtain ⟨_, _, rfl, hrecorded⟩ := trace_perform_bind.mp hanswered
    obtain ⟨-, hresult⟩ := trace_done.mp hrecorded
    cases hresult
  | error e =>
    -- the failure is that of the query, after its metric was recorded
    obtain ⟨_, _, rfl, hrecorded⟩ := trace_perform_bind.mp hanswered
    obtain ⟨-, hresult⟩ := trace_done.mp hrecorded
    obtain rfl := Except.error.inj hresult
    exact e.status_failure_ne

end Coordinator

/-! ### Messages of accepted requests -/

/-- What a worker needs of the message of a job: it is read, and gives the job and the request back,
so that the request is prepared for the worker as it was when it was accepted. -/
def Recovers (body : Bytes) (source table : String) (r : Request) (job : Job) : Prop :=
  ∃ m, JobMessage.decode? body = some m ∧ m = JobMessage.ofJob job r ∧
    Service.prepare m.dataSource m.table m.request = Service.prepare source table r

theorem recovers_encode_iff {new : NewJob} {id : String} {now : Instant} {r : Request}
    (hr : r.Canonical) (hnow : now.WellFormed) :
    Recovers (JobMessage.ofJob (new.queued id now) r).encode new.dataSource new.table r
      (new.queued id now) ↔ r.ReadsBackWithin 123 := by
  have hdecode : JobMessage.decode? (JobMessage.ofJob (new.queued id now) r).encode =
      some (JobMessage.ofJob (new.queued id now) r) ↔ r.ReadsBackWithin 123 :=
    JobMessage.decode?_encode hr hnow
  rw [← hdecode]
  constructor
  · rintro ⟨m, hm, rfl, -⟩
    exact hm
  · intro hm
    exact ⟨_, hm, rfl, rfl⟩

namespace Api

/-- A run that answers 202 accepted the request of its body. -/
theorem accepted_of_trace {api : Api} {ctx : Context} {http : HttpRequest} {source table : String}
    {response : HttpResponse} (h : (api.queryTable ctx http source table).Trace events response)
    (hstatus : response.status = 202) :
    ∃ r job, Request.ofBytes? http.body = some r ∧
      events = acceptance source table r http.headers.apiKey job := by
  unfold queryTable at h
  split at h
  · obtain ⟨-, rfl⟩ := trace_done.mp h
    cases hstatus
  · split at h
    · obtain ⟨-, rfl⟩ := trace_done.mp h
      cases hstatus
    · next parameter _ _ r hr =>
      -- the answer is made of the result without another call
      obtain ⟨running, answering, result, rfl, hrun, hanswer⟩ := trace_bind.mp h
      obtain ⟨rfl, rfl⟩ := trace_done.mp hanswer
      rw [List.append_nil]
      cases hmode : api.coordinator.modeFor (asyncRequested parameter http.headers) with
      | sync =>
        rw [hmode] at hrun
        obtain ⟨_, _, answer, rfl, hquery, hresult⟩ := trace_bind.mp hrun
        obtain ⟨rfl, rfl⟩ := trace_done.mp hresult
        cases answer with
        | ok _ => cases hstatus
        | error e => exact absurd hstatus (Coordinator.status_ne_of_trace hquery)
      | async =>
        rw [hmode] at hrun
        obtain ⟨_, _, answer, rfl, henqueue, hresult⟩ := trace_bind.mp hrun
        obtain ⟨rfl, rfl⟩ := trace_done.mp hresult
        rw [List.append_nil]
        rcases Coordinator.accepted_of_trace henqueue with ⟨job, hjob⟩ | ⟨e, rfl, he⟩
        · exact ⟨r, job, hr, hjob⟩
        · exact absurd hstatus he

/-! ### Operands that nest -/

/-- Arrays around null, so many deep. -/
def nested : Nat → Value
  | 0 => .null
  | n + 1 => .array [nested n]

theorem nested_spec (n : Nat) :
    (nested n).depth = n ∧ (nested n).numbers = [] ∧ (nested n).Canonical := by
  induction n with
  | zero => exact ⟨rfl, rfl, trivial⟩
  | succ n ih =>
    obtain ⟨hdepth, hnumbers, hcanonical⟩ := ih
    refine ⟨?_, ?_, hcanonical, trivial⟩
    · rw [nested, Value.depth, Value.depthItems, Value.depthItems, hdepth, Nat.max_zero]
    · rw [nested, Value.numbers, Value.numbersItems, Value.numbersItems, hnumbers]
      rfl

/-- A request with an operand that nests so deep. -/
def nestedRequest (n : Nat) : Request where
  filter := [("id", { eq := some (nested n) })]

theorem operand?_nestedRequest {n : Nat} {entry : String × Conditions}
    (hentry : entry ∈ (nestedRequest n).filter) {op : Comparison} {v : Value} :
    entry.2.operand? op = some v ↔ op = .eq ∧ v = nested n := by
  obtain rfl := List.mem_singleton.mp hentry
  cases op <;> simp [Conditions.operand?, eq_comm]

theorem canonical_nestedRequest {n : Nat} (h : n ≠ 0) : (nestedRequest n).Canonical := by
  refine ⟨List.pairwise_singleton _ _, fun entry hentry op v hv => ?_⟩
  obtain ⟨-, rfl⟩ := (operand?_nestedRequest hentry).mp hv
  refine ⟨?_, (nested_spec n).2.2⟩
  cases n with
  | zero => exact absurd rfl h
  | succ n => exact nofun

theorem readsBackWithin_nestedRequest {n levels : Nat} :
    (nestedRequest n).ReadsBackWithin levels ↔ n ≤ levels := by
  obtain ⟨hdepth, hnumbers, -⟩ := nested_spec n
  constructor
  · intro h
    have hoperand := h _ (List.mem_singleton_self _) .eq (nested n) rfl
    exact hdepth ▸ hoperand.1
  · intro h entry hentry op v hv
    obtain ⟨-, rfl⟩ := (operand?_nestedRequest hentry).mp hv
    refine ⟨Nat.le_trans (Nat.le_of_eq hdepth) h, fun number hnumber => ?_⟩
    rw [hnumbers] at hnumber
    exact absurd hnumber List.not_mem_nil

/-- A request to be run later. -/
def laterRequest (r : Request) : HttpRequest where
  method := "POST"
  target := "/data/main/users?async=true"
  body := r.toJson.bytes

theorem body_laterRequest (r : Request) : (laterRequest r).body = r.toJson.bytes := rfl

/-- The job of a request for users. -/
def usersJob (r : Request) : NewJob where
  payloadHash := r.hash
  apiKey := none
  dataSource := "main"
  table := "users"

/-- The run that accepts a request for users. -/
def usersAcceptance (r : Request) : List ((c : GatewayCall) × c.Answer) :=
  acceptance "main" "users" r none ((usersJob r).queued "job-1" .epoch)

theorem records_acceptance (r : Request) : Records (usersAcceptance r) := by
  intro new job hmem
  simp only [usersAcceptance, acceptance, List.mem_cons, Sigma.mk.injEq, reduceCtorEq, false_and,
    false_or, List.not_mem_nil, or_false, GatewayCall.insert.injEq] at hmem
  obtain ⟨rfl, hjob⟩ := hmem
  obtain rfl := Except.ok.inj (eq_of_heq hjob)
  exact ⟨"job-1", .epoch, rfl, by decide⟩

theorem asyncParameter_laterRequest (r : Request) :
    (laterRequest r).asyncParameter = .ok (some "true") := by
  have hquery : (laterRequest r).query = "async=true" := by
    show String.ofList ((("/data/main/users?async=true".toList.takeWhile (· ≠ '#')).dropWhile
      (· ≠ '?')).drop 1) = _
    decide +kernel
  have hfields : Percent.formFields "async=true" = [("async", "true")] := by decide +kernel
  unfold HttpRequest.asyncParameter
  rw [hquery, hfields]
  rfl

theorem ofBytes?_nestedRequest {n : Nat} (hne : n ≠ 0) (h : n ≤ 124) :
    Request.ofBytes? (laterRequest (nestedRequest n)).body = some (nestedRequest n) := by
  rw [body_laterRequest, Request.ofBytes?_bytes (canonical_nestedRequest hne)]
  exact readsBackWithin_nestedRequest.mpr h

theorem trace_acceptance {r : Request} (h : Request.ofBytes? (laterRequest r).body = some r)
    (ctx : Context) : (queryTable ⟨"test", true, ⟨true⟩⟩ ctx (laterRequest r) "main" "users").Trace
      (usersAcceptance r)
      { status := 202, body := .json (AcceptedJob.toJson ⟨"job-1", r.hash⟩) } := by
  unfold queryTable
  rw [asyncParameter_laterRequest]
  dsimp only
  rw [h]
  exact .call (.call (.call (.done _)))

/-! ### When the message gives the request back -/

/-- The message of an accepted request gives it back just when every operand is read back within the
levels of nesting that the message leaves. -/
theorem recovers_published_iff {api : Api} {ctx : Context} {http : HttpRequest}
    {source table : String} {response : HttpResponse}
    (h : (api.queryTable ctx http source table).Trace events response)
    (hstatus : response.status = 202) (hrecords : Records events) :
    ∃ r job, Request.ofBytes? http.body = some r ∧
      events = acceptance source table r http.headers.apiKey job ∧
      (Recovers (JobMessage.ofJob job r).encode source table r job ↔ r.ReadsBackWithin 123) := by
  obtain ⟨r, job, hr, rfl⟩ := accepted_of_trace h hstatus
  refine ⟨r, job, hr, rfl, ?_⟩
  obtain ⟨id, now, rfl, hnow⟩ := hrecords _ _ (.tail _ (.head _))
  exact recovers_encode_iff (Request.canonical_of_ofBytes? hr) hnow

/-- An operand that is as deep as a message admits. -/
theorem recovers_published_iff_nested : ∃ events response,
    (queryTable ⟨"test", true, ⟨true⟩⟩ { token := ⟨0, []⟩ } (laterRequest (nestedRequest 123))
      "main" "users").Trace events response ∧ response.status = 202 ∧ Records events ∧
    ∃ r job, Request.ofBytes? (laterRequest (nestedRequest 123)).body = some r ∧
      events = acceptance "main" "users" r (laterRequest (nestedRequest 123)).headers.apiKey job ∧
      (Recovers (JobMessage.ofJob job r).encode "main" "users" r job ↔ r.ReadsBackWithin 123) := by
  have hread := ofBytes?_nestedRequest (show 123 ≠ 0 by decide) (by decide)
  have h := trace_acceptance hread { token := ⟨0, []⟩ }
  have hrecords := records_acceptance (nestedRequest 123)
  exact ⟨_, _, h, rfl, hrecords, recovers_published_iff h rfl hrecords⟩

/-- An operand that is one level deeper: the request is accepted, and its message does not give it
back. -/
theorem exists_accepted_not_recovered : ∃ events response r job,
    (queryTable ⟨"test", true, ⟨true⟩⟩ { token := ⟨0, []⟩ } (laterRequest (nestedRequest 124))
      "main" "users").Trace events response ∧ response.status = 202 ∧ Records events ∧
    Request.ofBytes? (laterRequest (nestedRequest 124)).body = some r ∧
    events = acceptance "main" "users" r none job ∧
    ¬Recovers (JobMessage.ofJob job r).encode "main" "users" r job := by
  have hread := ofBytes?_nestedRequest (show 124 ≠ 0 by decide) (by decide)
  have hrecovers : Recovers _ "main" "users" (nestedRequest 124)
      ((usersJob (nestedRequest 124)).queued "job-1" .epoch) ↔
      (nestedRequest 124).ReadsBackWithin 123 :=
    recovers_encode_iff (canonical_nestedRequest (by decide)) (by decide)
  refine ⟨_, _, nestedRequest 124, _, trace_acceptance hread { token := ⟨0, []⟩ }, rfl,
    records_acceptance _, hread, rfl, ?_⟩
  intro h
  have hle : 124 ≤ 123 := readsBackWithin_nestedRequest.mp (hrecovers.mp h)
  omega

end Api
end QueryGateway
