import Mathlib.Logic.Relation
import QueryGateway.Gateway.Processor
import QueryGateway.Proofs.Job.Message
import QueryGateway.Proofs.Job.Store

/-!
# Deliveries handled side by side

Any number of deliveries are handled at a time, of one job or of several, and between any two calls
of one of them the others may go on.  A delivery looks its job up once, before it first changes the
record, and never again.  So the record of a job that is over stays as it is just as long as no
delivery has passed its look-up and is still at work on the job.

## Main definitions

* `Handling` — the job store and what is left of the deliveries.
* `Handling.Step` — a delivery arrives, or one of them makes its next call.
* `Commits` — a delivery that will not look the job up again before it changes its record.

## Main results

* `Handling.stage_of_step` — what is left of a delivery after a call.
* `Handling.untouched_of_step` — a record that no delivery has committed to is not changed.
* `Handling.record_fixed_iff` — when the record of a job that is over stays as it is.
-/

namespace QueryGateway

open Program GatewayCall

/-! ### Answers -/

/-- The answers to the calls of a delivery, at some instant of the clock, and the store afterwards.
The store may fail at any call and then changes nothing; a query may have any outcome. -/
inductive Answers : JobStore → (c : GatewayCall) → c.Answer → JobStore → Prop
  | found (store : JobStore) (id : String) : Answers store (.find id) (.ok (store.find? id)) store
  | unread (store : JobStore) (id : String) (e : JobError) :
      Answers store (.find id) (.error e) store
  | marked {store store' : JobStore} {id : String} {t : Transition} {now : Instant} {job : Job}
      (h : store.update id (t.update now) = .ok (job, store')) :
      Answers store (.mark id t) (.ok job) store'
  | unmarked (store : JobStore) (id : String) (t : Transition) (e : JobError) :
      Answers store (.mark id t) (.error e) store
  | queried (store : JobStore) {ctx : Context} {source table : String} {r : Request}
      (answer : Except QueryError Response × Int64) :
      Answers store (.query ctx source table r) answer store
  | recorded (store : JobStore) (m : Metric) : Answers store (.record m) () store

/-! ### What is left of a delivery -/

/-- The program never looks a job up, and changes no record but that of one job. -/
inductive Marks (id : String) : GatewayProgram Disposition → Prop
  | done (d : Disposition) : Marks id (.done d)
  | mark {t : Transition} {next : Except JobError Job → GatewayProgram Disposition}
      (h : ∀ answer, Marks id (next answer)) : Marks id (.call (.mark id t) next)
  | query {ctx : Context} {source table : String} {r : Request}
      {next : Except QueryError Response × Int64 → GatewayProgram Disposition}
      (h : ∀ answer, Marks id (next answer)) : Marks id (.call (.query ctx source table r) next)
  | record {m : Metric} {next : Unit → GatewayProgram Disposition} (h : Marks id (next ())) :
      Marks id (.call (.record m) next)

/-- The next use that the program makes of the job store may be a change of the record of a job. -/
inductive Commits (id : String) : GatewayProgram Disposition → Prop
  | mark {t : Transition} {next : Except JobError Job → GatewayProgram Disposition} :
      Commits id (.call (.mark id t) next)
  | query {ctx : Context} {source table : String} {r : Request}
      {next : Except QueryError Response × Int64 → GatewayProgram Disposition}
      (answer : Except QueryError Response × Int64) (h : Commits id (next answer)) :
      Commits id (.call (.query ctx source table r) next)
  | record {m : Metric} {next : Unit → GatewayProgram Disposition} (h : Commits id (next ())) :
      Commits id (.call (.record m) next)

theorem eq_of_commits {i id : String} {program : GatewayProgram Disposition}
    (h : Commits id program) (hmarks : Marks i program) : i = id := by
  induction h with
  | mark =>
    cases hmarks with
    | mark h => rfl
  | query answer _ ih =>
    cases hmarks with
    | query h => exact ih (h answer)
  | record _ ih =>
    cases hmarks with
    | record h => exact ih h

namespace Processor

/-- After its job is marked as running, a delivery never looks it up again. -/
theorem marks_run (p : Processor) (m : JobMessage) (attempt : UInt32) (ctx : Context) :
    Marks m.id (p.run m attempt ctx) := by
  refine .query ?_
  intro answer
  obtain ⟨result, latency⟩ := answer
  cases result with
  | ok response =>
    refine .record (.mark fun answer => ?_)
    cases answer with
    | ok _ => exact .done _
    | error _ => exact .done _
  | error e =>
    refine .record ?_
    unfold fail
    split
    · exact .mark fun _ => .done _
    · exact .mark fun _ => .done _

/-- The handling of a message begins with a look-up of its job.  It goes on only if the job is found
and is not over; then the job is marked as running, and if that succeeds its query is run. -/
theorem exists_process_eq_call (p : Processor) (m : JobMessage) (attempt : UInt32) (ctx : Context) :
    ∃ next, p.process m attempt ctx = .call (.find m.id) next ∧
      (∀ answer, (∃ d, next answer = .done d) ∨
        ∃ job, answer = .ok (some job) ∧ job.status.isTerminal = false) ∧
      ∀ job, job.status.isTerminal = false →
        ∃ after, next (.ok (some job)) = .call (.mark m.id .run) after ∧
          (∀ e, ∃ d, after (.error e) = .done d) ∧
          ∀ job, after (.ok job) = p.run m attempt ctx := by
  refine ⟨_, rfl, fun answer => ?_, fun job hgoes => ?_⟩
  · match answer with
    | .error _ => exact Or.inl ⟨_, rfl⟩
    | .ok none => exact Or.inl ⟨_, rfl⟩
    | .ok (some job) =>
      cases hover : job.status.isTerminal with
      | false => exact Or.inr ⟨job, rfl, hover⟩
      | true =>
        refine Or.inl ⟨.ack, ?_⟩
        show (if job.status.isTerminal then _ else _) = _
        rw [if_pos hover]
        rfl
  · show ∃ after, (if job.status.isTerminal then _ else _) = _ ∧ _
    rw [if_neg (Bool.eq_false_iff.mp hgoes)]
    refine ⟨_, rfl, fun e => ?_, fun _ => rfl⟩
    cases e with
    | notFound id => exact ⟨_, rfl⟩
    | alreadyExists id => exact ⟨_, rfl⟩
    | storage reason => exact ⟨_, rfl⟩
    | invalidData reason => exact ⟨_, rfl⟩

/-- What follows the look-up of a job that is not over. -/
theorem marks_start (p : Processor) {m : JobMessage} {attempt : UInt32} {ctx : Context}
    {after : Except JobError Job → GatewayProgram Disposition}
    (herror : ∀ e, ∃ d, after (.error e) = .done d)
    (hok : ∀ job, after (.ok job) = p.run m attempt ctx) :
    Marks m.id (.call (.mark m.id .run) after) := by
  refine .mark ?_
  intro answer
  cases answer with
  | error e =>
    obtain ⟨d, hd⟩ := herror e
    rw [hd]
    exact .done d
  | ok job =>
    rw [hok job]
    exact p.marks_run m attempt ctx

end Processor

/-- What may be left of a delivery: all of its handling, or what follows its look-up. -/
inductive Stage : GatewayProgram Disposition → Prop
  | handle (p : Processor) (body : Bytes) (attempt : UInt32) (ctx : Context) :
      Stage (p.handle body attempt ctx)
  | marks {i : String} {program : GatewayProgram Disposition} (h : Marks i program) : Stage program

/-- A delivery that arrives has not committed to a change. -/
theorem not_commits_handle (p : Processor) (body : Bytes) (attempt : UInt32) (ctx : Context)
    (id : String) : ¬Commits id (p.handle body attempt ctx) := by
  unfold Processor.handle
  split
  · next m _ =>
    obtain ⟨next, hprocess, -⟩ := p.exists_process_eq_call m attempt ctx
    rw [hprocess]
    exact nofun
  · exact nofun

section Call

variable {store store' : JobStore} {c : GatewayCall} {answer : c.Answer}
  {next : c.Answer → GatewayProgram Disposition}

/-- After its look-up, a delivery changes a record only if it has committed to it. -/
theorem marks_of_answers {i : String} (hmarks : Marks i (.call c next))
    (h : Answers store c answer store') : Marks i (next answer) ∧
      ∀ id, ¬Commits id (.call c next) →
        store'.find? id = store.find? id ∧ ¬Commits id (next answer) := by
  cases hmarks with
  | mark hnext =>
    refine ⟨hnext answer, fun id hnot => ?_⟩
    have hne : id ≠ i := by
      rintro rfl
      exact hnot .mark
    refine ⟨?_, fun hcommits => hne (eq_of_commits hcommits (hnext answer)).symm⟩
    cases h with
    | marked hupdate => rw [JobStore.find?_of_update hupdate, if_neg hne]
    | unmarked => rfl
  | query hnext =>
    cases h with
    | queried =>
      exact ⟨hnext answer, fun id hnot => ⟨rfl, fun hcommits => hnot (.query answer hcommits)⟩⟩
  | record hnext =>
    cases h with
    | recorded => exact ⟨hnext, fun id hnot => ⟨rfl, fun hcommits => hnot (.record hcommits)⟩⟩

/-- What a call of a delivery can be: a look-up after which it is over, a look-up of a job that is
not over, or a call that follows the look-up. -/
theorem cases_of_answers (hstage : Stage (.call c next)) (h : Answers store c answer store') :
    (store' = store ∧ ∃ d, next answer = .done d) ∨
    (store' = store ∧ ∃ i job, Marks i (next answer) ∧ store.find? i = some job ∧
      job.status.isTerminal = false) ∨
    ∃ i, Marks i (.call c next) := by
  generalize hprogram : Program.call c next = program at hstage
  cases hstage with
  | marks hmarks => exact Or.inr (Or.inr ⟨_, hmarks⟩)
  | handle p body attempt ctx =>
    -- a body that is no message makes no call, and a message is looked up first
    unfold Processor.handle at hprogram
    split at hprogram
    · next m _ =>
      obtain ⟨after, hprocess, hafter, hgoes⟩ := p.exists_process_eq_call m attempt ctx
      -- the call of the stage is the look-up, so its continuation is known
      rw [hprocess] at hprogram
      obtain ⟨rfl, hnext⟩ := Program.call.inj hprogram
      obtain rfl := eq_of_heq hnext
      have hstore : store' = store := by
        cases h with
        | found => rfl
        | unread => rfl
      rcases hafter answer with hdone | ⟨job, rfl, hjob⟩
      · exact Or.inl ⟨hstore, hdone⟩
      · obtain ⟨after, hstart, herror, hok⟩ := hgoes job hjob
        refine Or.inr (Or.inl ⟨hstore, m.id, job, hstart ▸ p.marks_start herror hok, ?_, hjob⟩)
        generalize hanswer : (Except.ok (some job) : Except JobError (Option Job)) = found at h
        cases h with
        | unread => cases hanswer
        | found => exact (Except.ok.inj hanswer).symm
    · cases hprogram

/-- What is left of a delivery after a call is a stage again. -/
theorem stage_of_answers (hstage : Stage (.call c next)) (h : Answers store c answer store') :
    Stage (next answer) := by
  rcases cases_of_answers hstage h with ⟨-, d, hd⟩ | ⟨-, i, job, hmarks, -⟩ | ⟨i, hmarks⟩
  -- a program that is over changes no record, whatever the job
  · rw [hd]
    exact .marks (i := "") (.done d)
  · exact .marks hmarks
  · exact .marks (marks_of_answers hmarks h).1

/-- A delivery that has not committed to a change of a job that is over leaves its record alone and
does not commit to it. -/
theorem not_commits_of_answers {id : String} {job : Job} (hjob : store.find? id = some job)
    (hover : job.status.isTerminal = true) (hstage : Stage (.call c next))
    (hnot : ¬Commits id (.call c next)) (h : Answers store c answer store') :
    store'.find? id = some job ∧ ¬Commits id (next answer) := by
  rcases cases_of_answers hstage h with
    ⟨rfl, d, hd⟩ | ⟨rfl, i, other, hmarks, hother, hgoes⟩ | ⟨i, hmarks⟩
  · rw [hd]
    exact ⟨hjob, nofun⟩
  · refine ⟨hjob, fun hcommits => ?_⟩
    -- the job that was found would be the one that is over
    obtain rfl := eq_of_commits hcommits hmarks
    obtain rfl := Option.some.inj (hjob.symm.trans hother)
    exact absurd (hover.symm.trans hgoes) (by decide)
  · obtain ⟨hstore, hnext⟩ := (marks_of_answers hmarks h).2 id hnot
    exact ⟨hstore.trans hjob, hnext⟩

end Call

/-! ### Deliveries side by side -/

/-- The job store and what is left of the deliveries that are being handled. -/
structure Handling where
  store : JobStore
  tasks : List (GatewayProgram Disposition)

namespace Handling

/-- A delivery arrives, or one of those that are being handled makes its next call. -/
inductive Step : Handling → Handling → Prop
  | deliver (s : Handling) (p : Processor) (body : Bytes) (attempt : UInt32) (ctx : Context) :
      Step s { s with tasks := s.tasks ++ [p.handle body attempt ctx] }
  | call {store store' : JobStore} {before after : List (GatewayProgram Disposition)}
      {c : GatewayCall} {answer : c.Answer} {next : c.Answer → GatewayProgram Disposition}
      (h : Answers store c answer store') :
      Step ⟨store, before ++ .call c next :: after⟩ ⟨store', before ++ next answer :: after⟩

/-- Any number of steps. -/
abbrev Steps : Handling → Handling → Prop := Relation.ReflTransGen Step

/-- The states that come about when deliveries arrive at a store. -/
def Reachable (s : Handling) : Prop := ∃ store, Steps ⟨store, []⟩ s

/-- Every task is what is left of a delivery. -/
theorem stage_of_step {s s' : Handling} (h : Step s s') (hs : ∀ task ∈ s.tasks, Stage task) :
    ∀ task ∈ s'.tasks, Stage task := by
  cases h with
  | deliver _ p body attempt ctx =>
    refine List.forall_mem_append.mpr ⟨hs, fun task htask => ?_⟩
    obtain rfl := List.mem_singleton.mp htask
    exact .handle p body attempt ctx
  | call hanswer =>
    obtain ⟨hbefore, hrest⟩ := List.forall_mem_append.mp hs
    obtain ⟨htask, hafter⟩ := List.forall_mem_cons.mp hrest
    exact List.forall_mem_append.mpr ⟨hbefore, List.forall_mem_cons.mpr
      ⟨stage_of_answers htask hanswer, hafter⟩⟩

theorem stage_of_reachable {s : Handling} (h : s.Reachable) : ∀ task ∈ s.tasks, Stage task := by
  obtain ⟨store, hsteps⟩ := h
  induction hsteps with
  | refl => exact nofun
  | tail _ hstep ih => exact stage_of_step hstep ih

/-- The record of a job, and that no delivery has committed to a change of it. -/
structure Untouched (id : String) (job : Job) (s : Handling) : Prop where
  stages : ∀ task ∈ s.tasks, Stage task
  record : s.store.find? id = some job
  free : ∀ task ∈ s.tasks, ¬Commits id task

/-- The record of a job that is over is not changed in a step, unless a delivery has committed to
it. -/
theorem untouched_of_step {id : String} {job : Job} (hover : job.status.isTerminal = true)
    {s s' : Handling} (h : Step s s') (hs : s.Untouched id job) : s'.Untouched id job := by
  have hstages := stage_of_step h hs.stages
  cases h with
  | deliver _ p body attempt ctx =>
    refine ⟨hstages, hs.record, List.forall_mem_append.mpr ⟨hs.free, fun task htask => ?_⟩⟩
    obtain rfl := List.mem_singleton.mp htask
    exact not_commits_handle p body attempt ctx id
  | call hanswer =>
    obtain ⟨-, hrest⟩ := List.forall_mem_append.mp hs.stages
    obtain ⟨hstage, -⟩ := List.forall_mem_cons.mp hrest
    obtain ⟨hbefore, hrest⟩ := List.forall_mem_append.mp hs.free
    obtain ⟨hnot, hafter⟩ := List.forall_mem_cons.mp hrest
    obtain ⟨hrecord, hnext⟩ := not_commits_of_answers hs.record hover hstage hnot hanswer
    exact ⟨hstages, hrecord, List.forall_mem_append.mpr ⟨hbefore, List.forall_mem_cons.mpr
      ⟨hnext, hafter⟩⟩⟩

theorem untouched_of_steps {id : String} {job : Job} (hover : job.status.isTerminal = true)
    {s s' : Handling} (h : Steps s s') (hs : s.Untouched id job) : s'.Untouched id job := by
  induction h with
  | refl => exact hs
  | tail _ hstep ih => exact untouched_of_step hover hstep ih

/-- A delivery that has committed to a change of a job that is over can change its record. -/
theorem exists_change_of_commits {id : String} {job : Job} (hover : job.status.isTerminal = true)
    {task : GatewayProgram Disposition} (h : Commits id task) {store : JobStore}
    (hjob : store.find? id = some job) (before after : List (GatewayProgram Disposition)) :
    ∃ s', Steps ⟨store, before ++ task :: after⟩ s' ∧ s'.store.find? id ≠ some job := by
  -- the induction is on the calls before the change, which may be answered in any way
  induction h with
  | @mark t next =>
    obtain ⟨now, hnow⟩ := t.exists_apply_ne hover
    obtain ⟨store', hupdate⟩ := JobStore.update_of_find? hjob (t.update now)
    refine ⟨_, .single (.call (.marked hupdate)), fun hsame => hnow ?_⟩
    rw [JobStore.find?_of_update hupdate, if_pos rfl] at hsame
    exact Option.some.inj hsame
  | query answer _ ih =>
    obtain ⟨s', hsteps, hchange⟩ := ih
    exact ⟨s', .head (.call (.queried store answer)) hsteps, hchange⟩
  | @record m next _ ih =>
    obtain ⟨s', hsteps, hchange⟩ := ih
    exact ⟨s', .head (.call (.recorded store m)) hsteps, hchange⟩

/-- A delivery of a job that is not over can look it up, and has then committed to a change. -/
theorem exists_commits (p : Processor) {m : JobMessage} (attempt : UInt32) (ctx : Context)
    {store : JobStore} {job : Job} (hjob : store.find? m.id = some job)
    (hgoes : job.status.isTerminal = false) (before after : List (GatewayProgram Disposition)) :
    ∃ task, Step ⟨store, before ++ p.process m attempt ctx :: after⟩
      ⟨store, before ++ task :: after⟩ ∧ Commits m.id task := by
  obtain ⟨next, hprocess, -, hstart⟩ := p.exists_process_eq_call m attempt ctx
  obtain ⟨rest, hnext, -⟩ := hstart job hgoes
  have hstep : Step ⟨store, before ++ p.process m attempt ctx :: after⟩
      ⟨store, before ++ .call (.mark m.id .run) rest :: after⟩ := by
    rw [hprocess, ← hnext, ← hjob]
    exact .call (.found store m.id)
  exact ⟨_, hstep, .mark⟩

/-- A delivery of a job that is not over can be handled until the job has succeeded. -/
theorem exists_succeeded (p : Processor) {m : JobMessage} (attempt : UInt32) (ctx : Context)
    {store : JobStore} {job : Job} (hjob : store.find? m.id = some job)
    (hgoes : job.status.isTerminal = false) (response : Response) (now : Instant)
    (before after : List (GatewayProgram Disposition)) :
    ∃ store' task done, Steps ⟨store, before ++ p.process m attempt ctx :: after⟩
      ⟨store', before ++ task :: after⟩ ∧ store'.find? m.id = some done ∧
      done.status = .succeeded := by
  obtain ⟨next, hprocess, -, hstart⟩ := p.exists_process_eq_call m attempt ctx
  obtain ⟨rest, hnext, -, hrun⟩ := hstart job hgoes
  have hfind : Step ⟨store, before ++ p.process m attempt ctx :: after⟩
      ⟨store, before ++ .call (.mark m.id .run) rest :: after⟩ := by
    rw [hprocess, ← hnext, ← hjob]
    exact .call (.found store m.id)
  -- the record is there, so the store can change it each time
  obtain ⟨running, hrunning⟩ := JobStore.update_of_find? hjob (Transition.run.update now)
  have hmark : Step ⟨store, before ++ .call (.mark m.id .run) rest :: after⟩
      ⟨running, before ++ p.run m attempt ctx :: after⟩ := by
    rw [← hrun]
    exact .call (.marked hrunning)
  have hfound := JobStore.find?_of_update hrunning m.id
  rw [if_pos rfl] at hfound
  obtain ⟨succeeded, hsucceeded⟩ := JobStore.update_of_find? hfound
    ((Transition.succeed response.rowCount response.tookMs).update now)
  have hlast := JobStore.find?_of_update hsucceeded m.id
  rw [if_pos rfl] at hlast
  exact ⟨succeeded, _, _, .head hfind (.head hmark (.head (.call (.queried _ (.ok response, 0)))
    (.head (.call (.recorded _ _)) (.single (.call (.marked hsucceeded)))))), hlast, rfl⟩

/-- Two deliveries of a job that is not over: while the first is handled until the job has
succeeded, the second has looked the job up already, and then changes the record. -/
theorem exists_change_of_two {body : Bytes} {m : JobMessage}
    (hbody : JobMessage.decode? body = some m) (p : Processor) (ctx : Context) {store : JobStore}
    {job : Job} (hjob : store.find? m.id = some job) (hgoes : job.status.isTerminal = false)
    (response : Response) : ∃ s s' done, Steps ⟨store, []⟩ s ∧
      s.store.find? m.id = some done ∧ done.status = .succeeded ∧ Steps s s' ∧
      s'.store.find? m.id ≠ some done := by
  have hhandle : p.handle body 1 ctx = p.process m 1 ctx := by
    unfold Processor.handle
    rw [hbody]
  -- both deliveries arrive before either of them makes a call
  have harrive : Steps ⟨store, []⟩ ⟨store, [p.process m 1 ctx, p.process m 1 ctx]⟩ := by
    rw [← hhandle]
    exact .head (.deliver ⟨store, []⟩ p body 1 ctx) (.single (.deliver _ p body 1 ctx))
  obtain ⟨late, hlook, hcommits⟩ :=
    exists_commits p 1 ctx hjob hgoes [p.process m 1 ctx] []
  obtain ⟨store', task, done, hsteps, hdone, hsucceeded⟩ :=
    exists_succeeded p 1 ctx hjob hgoes response .epoch [] [late]
  have hover : done.status.isTerminal = true := by
    rw [hsucceeded]
    rfl
  obtain ⟨s', hlate, hchange⟩ := exists_change_of_commits hover hcommits hdone [task] []
  exact ⟨_, s', done, harrive.trans (.head hlook hsteps), hdone, hsucceeded, hlate, hchange⟩

/-- The message of a request for all users. -/
def usersMessage : JobMessage where
  id := "job-1"
  payloadHash := Request.hash {}
  apiKey := none
  dataSource := "main"
  table := "users"
  request := {}
  createdAt := .epoch

/-- The record of its job. -/
def usersJob (status : JobStatus) : Job where
  id := "job-1"
  payloadHash := Request.hash {}
  apiKey := none
  dataSource := "main"
  table := "users"
  status := status
  createdAt := .epoch

theorem decode?_usersMessage : JobMessage.decode? usersMessage.encode = some usersMessage :=
  (JobMessage.decode?_encode (Request.canonical_of_filter_eq_nil rfl) (by decide)).mpr
    (Request.readsBackWithin_of_filter_eq_nil rfl)

theorem find?_usersJob (status : JobStatus) :
    JobStore.find? [usersJob status] "job-1" = some (usersJob status) := by
  simp [JobStore.find?, usersJob]

/-! ### When a record stays as it is -/

/-- The record of a job that is over stays as it is, whatever the deliveries do, just when none of
those that are being handled has committed to a change of it. -/
theorem record_fixed_iff {s : Handling} (hs : s.Reachable) {id : String} {job : Job}
    (hjob : s.store.find? id = some job) (hover : job.status.isTerminal = true) :
    (∀ s', Steps s s' → s'.store.find? id = some job) ↔ ∀ task ∈ s.tasks, ¬Commits id task := by
  constructor
  · intro hfixed task htask hcommits
    obtain ⟨before, after, htasks⟩ := List.append_of_mem htask
    obtain ⟨store, tasks⟩ := s
    obtain rfl : tasks = before ++ task :: after := htasks
    obtain ⟨s', hsteps, hchange⟩ := exists_change_of_commits hover hcommits hjob before after
    exact hchange (hfixed s' hsteps)
  · intro hfree s' hsteps
    exact (untouched_of_steps hover hsteps ⟨stage_of_reachable hs, hjob, hfree⟩).record

/-- A job that has succeeded, and a delivery of its message that has just arrived. -/
def redelivered : Handling where
  store := [usersJob .succeeded]
  tasks := [Processor.handle ⟨.ofMax 5⟩ usersMessage.encode 2 { token := ⟨0, []⟩ }]

theorem record_fixed_iff_redelivered : redelivered.Reachable ∧
    redelivered.store.find? "job-1" = some (usersJob .succeeded) ∧
    (usersJob .succeeded).status.isTerminal = true ∧
    ((∀ s', Steps redelivered s' → s'.store.find? "job-1" = some (usersJob .succeeded)) ↔
      ∀ task ∈ redelivered.tasks, ¬Commits "job-1" task) := by
  have hs : redelivered.Reachable := ⟨[usersJob .succeeded], .single (.deliver _ _ _ _ _)⟩
  exact ⟨hs, find?_usersJob .succeeded, rfl,
    record_fixed_iff hs (find?_usersJob .succeeded) rfl⟩

/-- Two deliveries of the message of a queued job: the job succeeds, and then its record changes. -/
theorem exists_succeeded_changed : ∃ s s' job, Reachable s ∧ s.store.find? "job-1" = some job ∧
    job.status = .succeeded ∧ Steps s s' ∧ s'.store.find? "job-1" ≠ some job := by
  obtain ⟨s, s', job, hs, hjob, hsucceeded, hsteps, hchange⟩ :=
    exists_change_of_two decode?_usersMessage ⟨.ofMax 5⟩ { token := ⟨0, []⟩ }
      (find?_usersJob .queued) rfl { rows := [], table := "users", tookMs := 3, total := none }
  exact ⟨s, s', job, ⟨_, hs⟩, hjob, hsucceeded, hsteps, hchange⟩

end Handling
end QueryGateway
