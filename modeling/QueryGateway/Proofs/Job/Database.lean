import Mathlib.Data.List.Perm.Basic
import QueryGateway.Proofs.Job.Table

/-!
# Jobs in a database and in memory

A server that executes commands as SQL defines them keeps jobs just as the store in memory does: the
same calls have the same answers, and leave the same jobs.  The rows of the table are at any time
those of the jobs in memory, in some order; one call keeps this so, whatever the server is.

The server counts microseconds, so the times of jobs are whole.  A time within a leap second is
whole as well, but the server has no such times: it comes back as a time in the second after it.

## Main definitions

* `StoreCall.Storable` — calls whose texts and times the server can hold.
* `JobTable.serve`, `JobTable.run` — calls answered from a table on a server.
* `JobTable.Holds` — the rows of a table are those of the jobs in memory.
* `JobTable.Agrees` — the calls have the same answers and leave the same jobs.
* `JobTable.States` — the text of a change and its parameters say what the change does.

## Main results

* `JobTable.rows_answer` — what a server answers to a statement that is a command.
* `JobTable.serve_eq` — one call has the same answer and keeps the rows those of the jobs.
* `JobTable.agrees_run` — calls from an empty table agree with calls from an empty store.
-/

namespace QueryGateway

/-- The texts that the call sends have no zero character, and the times can be held; the jobs of a
request are not asked for. -/
def StoreCall.Storable (held : Instant → Prop) : StoreCall → Prop
  | .insert job => job.Storable held
  | .update id u => '\x00' ∉ id.toList ∧ u.Storable held
  | .find id => '\x00' ∉ id.toList
  | .byHash _ => False

namespace JobTable

open Postgres Sql

variable {σ : Type}

/-! ### Calls -/

/-- What a server answers to a statement, and its state after it.  A statement is not sent with
values that do not fit. -/
def answer (server : Server σ) (s : σ) (statement : Statement) : Answer × σ :=
  match server.prepare s statement.sql with
  | .error e => (.refused e, s)
  | .ok types =>
    match statement.sent? types with
    | none => (.prepared types .lost, s)
    | some values =>
      let (execution, s') := server.execute s statement.sql values
      (.prepared types execution, s')

/-- The answer to a call, and the state of the server after it. -/
def serve (server : Server σ) (s : σ) : StoreCall → StoreAnswer × σ
  | .insert job =>
    let (reply, s') := answer server s (insert job)
    (.inserted (inserted job reply), s')
  | .update id u =>
    let (reply, s') := answer server s (update id u)
    (.updated (updated id u reply), s')
  | .find id =>
    let (reply, s') := answer server s (select id)
    (.found (found id reply), s')
  | .byHash hash =>
    let (reply, s') := answer server s (selectByHash hash)
    (.listed (foundByHash hash reply), s')

/-- The answers to calls in turn, and the state of the server after them. -/
def run (server : Server σ) (s : σ) : List StoreCall → List StoreAnswer × σ
  | [] => ([], s)
  | call :: calls =>
    let (answer, next) := serve server s call
    let (answers, last) := run server next calls
    (answer :: answers, last)

theorem run_insert_find (server : Server σ) (s : σ) (job : Job) (id : String) :
    (run server s [.insert job, .find id]).1 =
      [.inserted (inserted job (answer server s (insert job)).1),
        .found (found id (answer server (answer server s (insert job)).2 (select id)).1)] := rfl

/-! ### Statements -/

section Answers

variable {server : Server σ} {t : TableDefinition} {s : σ} {statement : Statement} {c : Command}

/-- A statement that is a command has its rows as answer, in some order, or its error. -/
theorem rows_answer (hserver : server.Executes t) (hc : Command.ofText? statement.sql = some c)
    (hfits : c.Fits t) (htypes : c.types? t = some (statement.params.map Field.columnType))
    (hparams : ∀ f ∈ statement.params, f.Storable server.times) :
    match c.perform t (statement.params.map Field.bytes) (server.rows s) with
    | .ok (result, after) =>
      (∃ rows : List Tuple, rows.Perm result ∧
        statement.rows (answer server s statement).1 = .ok (tableRows ⟨c.heads t, rows⟩)) ∧
      (server.rows (answer server s statement).2).Perm after
    | .error code =>
      (∃ e, e.code = code ∧ statement.rows (answer server s statement).1 = .error (.server e)) ∧
      (server.rows (answer server s statement).2).Perm (server.rows s) := by
  have hprepare := hserver.prepare s statement.sql c _ hc hfits htypes
  rw [List.map_map] at hprepare
  have hgives := hserver.execute s statement.sql c _ _ hc hfits htypes (forall₂_admits hparams)
  have hanswer : answer server s statement =
      (.prepared (statement.params.map fun f => f.columnType.sqlType)
        (server.execute s statement.sql (statement.params.map Field.bytes)).1,
        (server.execute s statement.sql (statement.params.map Field.bytes)).2) := by
    have hsent := Statement.sent?_eq hparams
    unfold answer
    rw [hprepare]
    simp only [Function.comp_def, hsent]
  rw [hanswer]
  unfold Server.Gives at hgives
  cases hperform : c.perform t (statement.params.map Field.bytes) (server.rows s) with
  | ok outcome =>
    obtain ⟨result, after⟩ := outcome
    rw [hperform] at hgives
    obtain ⟨⟨rows, hexecution, hrows⟩, hafter⟩ := hgives
    refine ⟨⟨rows, hrows, ?_⟩, hafter⟩
    unfold Statement.rows
    simp only [Statement.bound_eq, hexecution]
    rfl
  | error code =>
    rw [hperform] at hgives
    obtain ⟨⟨e, hexecution, hcode⟩, hafter⟩ := hgives
    refine ⟨⟨e, hcode, ?_⟩, hafter⟩
    unfold Statement.rows
    simp only [Statement.bound_eq, hexecution]
    rfl

/-- An answer with one row is the job in it. -/
theorem found_eq {id : String} {reply : Answer} {row : TableRow} {job : Job}
    (h : (select id).rows reply = .ok [row]) (hread : readJob row = .ok job) :
    found id reply = .ok (some job) := by
  have hmapM : Option.mapM readJob (some row) = .ok (some job) := by
    show some <$> readJob row = _
    rw [hread]
    rfl
  simp only [found, Statement.outcome, h, single, bind, Except.bind, hmapM]

theorem updated_eq {id : String} {u : JobUpdate} {reply : Answer} {row : TableRow} {job : Job}
    (h : (update id u).rows reply = .ok [row]) (hread : readJob row = .ok job) :
    updated id u reply = .ok job := by
  simp only [updated, Statement.outcome, h, single, bind, Except.bind, hread]

end Answers

/-! ### One call -/

/-- The rows of the table are those of the jobs in memory, whose ids differ; the server can hold
them. -/
structure Holds (server : Server σ) (s : σ) (store : JobStore) : Prop where
  rows : (server.rows s).Perm (store.map tuple)
  nodup : (store.map Job.id).Nodup
  storable : ∀ job ∈ store, job.Storable (Instant.Held server.times)

/-- The jobs with an id in a store are the one that is found under it. -/
theorem filter_id_eq {store : JobStore} (h : (store.map Job.id).Nodup) (id : String) :
    (store.filter fun job => decide (job.id = id)) = (store.find? id).toList := by
  induction store with
  | nil => rfl
  | cons job store ih =>
    obtain ⟨hjob, hstore⟩ := List.nodup_cons.mp h
    have ih := ih hstore
    unfold JobStore.find? at ih ⊢
    by_cases hid : job.id = id
    · -- no other job has the id
      have hnone : store.filter (fun job => decide (job.id = id)) = [] := by
        rw [List.filter_eq_nil_iff]
        intro other hother
        simp only [decide_eq_true_eq]
        rintro rfl
        exact hjob (List.mem_map.mpr ⟨other, hother, hid.symm⟩)
      simp [hid, hnone]
    · simpa [hid] using ih

theorem any_id_eq (store : JobStore) (id : String) :
    (store.any fun job => decide (job.id = id)) = (store.find? id).isSome := by
  unfold JobStore.find?
  rw [Bool.eq_iff_iff, List.any_eq_true, List.find?_isSome]

section Steps

variable {server : Server σ} {s : σ} {store : JobStore}

/-- The rows in their order are those of the jobs in some order. -/
theorem Holds.exists_jobs (h : Holds server s store) :
    ∃ jobs : List Job, server.rows s = jobs.map tuple ∧ jobs.Perm store :=
  (iff_of_eq (congrFun₂ (List.eq_map_comp_perm tuple) _ _)).mpr h.rows

/-- A row of an answer is read as the job that it was made of. -/
theorem rows_singleton {job : Job} {rows : List Tuple} (h : rows.Perm [tuple job]) :
    tableRows ⟨heads, rows⟩ = [heads.zip (tuple job)] := by
  obtain rfl := List.perm_singleton.mp h
  rfl

theorem serve_insert (hserver : server.Executes definition) (h : Holds server s store) {job : Job}
    (hjob : job.Storable (Instant.Held server.times)) :
    (serve server s (.insert job)).1 = (store.serve (.insert job)).1 ∧
      Holds server (serve server s (.insert job)).2 (store.serve (.insert job)).2 := by
  obtain ⟨jobs, hrows, hperm⟩ := h.exists_jobs
  have hanswer := rows_answer (s := s) hserver (ofText?_insert job) fits_insertCommand
    (types?_insertCommand job) (storable_of_mem_fields (fun _ ht => ht.accepted) hjob)
  have hparams : (insert job).params.map Field.bytes = tuple job := rfl
  rw [hparams, hrows, perform_insert, hperm.any_eq, any_id_eq] at hanswer
  cases hfind : store.find? job.id with
  | none =>
    rw [hfind] at hanswer
    obtain ⟨⟨rows, -, hreply⟩, hafter⟩ := hanswer
    rw [JobStore.serve_insert_of_new hfind]
    refine ⟨?_, hafter.trans (((hperm.append_right [job])).map tuple), ?_, ?_⟩
    · simp only [serve, inserted, hreply]
    · have := JobStore.nodup_ids_serve h.nodup (.insert job)
      rwa [JobStore.serve_insert_of_new hfind] at this
    · intro other hother
      rcases List.mem_append.mp hother with hother | hother
      · exact h.storable other hother
      · obtain rfl := List.mem_singleton.mp hother
        exact hjob
  | some other =>
    rw [hfind] at hanswer
    obtain ⟨⟨e, hcode, hreply⟩, hafter⟩ := hanswer
    rw [JobStore.serve_insert_of_find? hfind]
    refine ⟨?_, hafter.trans (hperm.map tuple), h.nodup, h.storable⟩
    have hcode : e.code = "23505" := hcode
    simp only [serve, inserted, hreply, hcode, if_true]

theorem serve_find (hserver : server.Executes definition) (h : Holds server s store) {id : String}
    (hid : '\x00' ∉ id.toList) :
    (serve server s (.find id)).1 = (store.serve (.find id)).1 ∧
      Holds server (serve server s (.find id)).2 (store.serve (.find id)).2 := by
  obtain ⟨jobs, hrows, hperm⟩ := h.exists_jobs
  have hparams : ∀ f ∈ (select id).params, f.Storable server.times := by
    intro f hf
    obtain rfl := List.mem_singleton.mp hf
    rintro _ ⟨⟩
    exact hid
  have hanswer := rows_answer (s := s) hserver (ofText?_select id) fits_selectCommand
    (types?_selectCommand id) hparams
  rw [hrows, perform_select] at hanswer
  obtain ⟨⟨rows, hresult, hreply⟩, hafter⟩ := hanswer
  have hresult := hresult.trans ((hperm.filter _).map tuple)
  rw [filter_id_eq h.nodup] at hresult
  refine ⟨?_, hafter.trans (hperm.map tuple), h.nodup, h.storable⟩
  cases hfind : store.find? id with
  | none =>
    rw [hfind] at hresult
    obtain rfl := hresult.eq_nil
    simp only [serve, found, Statement.outcome, hreply, JobStore.serve, hfind]
    rfl
  | some job =>
    rw [hfind] at hresult
    have hjob := h.storable job (List.mem_of_find?_eq_some hfind)
    have hrow : tableRows ⟨selectCommand.heads definition, rows⟩ = [heads.zip (tuple job)] :=
      rows_singleton hresult
    rw [hrow] at hreply
    simp only [serve, JobStore.serve, hfind,
      found_eq hreply (readJob_tuple_of_held hjob)]

theorem serve_update (hserver : server.Executes definition) (h : Holds server s store) {id : String}
    (hid : '\x00' ∉ id.toList) {u : JobUpdate} (hu : u.Storable (Instant.Held server.times)) :
    (serve server s (.update id u)).1 = (store.serve (.update id u)).1 ∧
      Holds server (serve server s (.update id u)).2 (store.serve (.update id u)).2 := by
  obtain ⟨jobs, hrows, hperm⟩ := h.exists_jobs
  have hanswer := rows_answer (s := s) hserver (ofText?_update id u) (fits_updateCommand id u)
    (types?_updateCommand id u) (storable_of_mem_params (fun _ ht => ht.accepted) hid hu)
  rw [hrows, perform_update] at hanswer
  obtain ⟨⟨rows, hresult, hreply⟩, hafter⟩ := hanswer
  have hresult := hresult.trans ((hperm.filter _).map _)
  have hafter := hafter.trans ((hperm.map _).map tuple)
  rw [filter_id_eq h.nodup] at hresult
  cases hfind : store.find? id with
  | none =>
    rw [hfind] at hresult
    obtain rfl := hresult.eq_nil
    -- no job has the id, so every row stays
    have hsame : (store.map fun job => if job.id = id then u.apply job else job) = store := by
      refine (List.map_congr_left fun job hjob => ?_).trans (List.map_id store)
      have hne := List.find?_eq_none.mp hfind job hjob
      rw [if_neg (by simpa using hne), id_eq]
    rw [JobStore.serve_update_of_missing hfind]
    refine ⟨?_, hsame ▸ hafter, h.nodup, h.storable⟩
    simp only [serve, updated, Statement.outcome, hreply]
    rfl
  | some job =>
    rw [hfind] at hresult
    have hjob := h.storable job (List.mem_of_find?_eq_some hfind)
    have hrow : tableRows ⟨(updateCommand id u).heads definition, rows⟩ =
        [heads.zip (tuple (u.apply job))] := rows_singleton hresult
    rw [hrow] at hreply
    rw [JobStore.serve_update_of_find? hfind]
    refine ⟨?_, hafter, ?_, ?_⟩
    · simp only [serve, updated_eq hreply (readJob_tuple_of_held (hu.apply hjob))]
    · have := JobStore.nodup_ids_serve h.nodup (.update id u)
      rwa [JobStore.serve_update_of_find? hfind] at this
    · intro other hother
      obtain ⟨before, hbefore, rfl⟩ := List.mem_map.mp hother
      have hstored := h.storable before hbefore
      split
      · exact hu.apply hstored
      · exact hstored

/-- One call has the same answer, and keeps the rows those of the jobs. -/
theorem serve_eq (hserver : server.Executes definition) (h : Holds server s store)
    {call : StoreCall} (hcall : call.Storable (Instant.Held server.times)) :
    (serve server s call).1 = (store.serve call).1 ∧
      Holds server (serve server s call).2 (store.serve call).2 := by
  cases call with
  | insert job => exact serve_insert hserver h hcall
  | update id u => exact serve_update hserver h hcall.1 hcall.2
  | find id => exact serve_find hserver h hcall
  | byHash hash => exact hcall.elim

/-- Calls in turn have the same answers, and keep the rows those of the jobs. -/
theorem run_eq (hserver : server.Executes definition) (h : Holds server s store)
    {calls : List StoreCall} (hcalls : ∀ call ∈ calls, call.Storable (Instant.Held server.times)) :
    (run server s calls).1 = (store.run calls).1 ∧
      Holds server (run server s calls).2 (store.run calls).2 := by
  induction calls generalizing s store with
  | nil => exact ⟨rfl, h⟩
  | cons call calls ih =>
    obtain ⟨hanswer, hholds⟩ := serve_eq hserver h (hcalls call List.mem_cons_self)
    obtain ⟨hanswers, hlast⟩ := ih hholds fun c hc => hcalls c (List.mem_cons_of_mem call hc)
    exact ⟨congrArg₂ List.cons hanswer hanswers, hlast⟩

end Steps

/-! ### Agreement -/

/-- The job in a row of a table. -/
def readRow (table : TableDefinition) (row : Tuple) : Except JobError Job :=
  readJob ((table.heads table.names).zip row)

/-- From a state of the server, the calls have the same answers as from an empty store, and leave
the same jobs. -/
structure Agrees (server : Server σ) (table : TableDefinition) (s : σ) (calls : List StoreCall) :
    Prop where
  answers : (run server s calls).1 = (JobStore.run [] calls).1
  jobs : ((server.rows (run server s calls).2).map (readRow table)).Perm
    ((JobStore.run [] calls).2.map .ok)

/-- The text of a change is a command that gives some columns what it is to give them.  Its
parameters have the numbers from one in order, and the last is the id. -/
structure States (table : TableDefinition) (id : String) (u : JobUpdate)
    (changes : List (String × Operand)) : Prop where
  read : Command.ofText? (update id u).sql =
    some (.update table.name changes ⟨"id", (update id u).params.length⟩ table.names)
  numbered : (changes.filterMap slot?).map Prod.fst ++ [(update id u).params.length] =
    List.range' 1 (update id u).params.length
  id_last : (update id u).params.getLast? = some (.text (some id))
  /-- A column that is cleared is given null, one that is kept is left out, and one that is set is
  given a parameter with the value. -/
  stands : ∀ column, Stands (update id u).params (changeOf u column) (changes.lookup column)

/-- The row that adding a job stores is read as the job. -/
def Stores (table : TableDefinition) (job : Job) : Prop :=
  ∃ c row, Command.ofText? (insert job).sql = some c ∧
    c.perform table ((insert job).params.map Field.bytes) [] = .ok ([], [row]) ∧
    readRow table row = .ok job

theorem states_update (id : String) (u : JobUpdate) :
    States definition id u (operands 0 (assignments u)) where
  read := ofText?_update id u
  numbered := by
    have hnumbers := map_fst_slots_updateCommand id u
    unfold updateCommand Command.slots at hnumbers
    rwa [List.map_append] at hnumbers
  id_last := List.getLast?_concat
  stands := fun column => by
    rw [← lookup_assignments]
    exact stands_operands 0 column [] [.text (some id)] rfl rfl

theorem stores_insert {times : Int → Prop} {job : Job} (h : job.Storable (Instant.Held times)) :
    Stores definition job :=
  ⟨insertCommand, tuple job, ofText?_insert job, perform_insert job [], readJob_tuple_of_held h⟩

/-- Whatever server executes commands on the table that is created, as SQL defines them: calls whose
texts and times it can hold have the same answers from an empty table as from an empty store in
memory, and leave the same jobs. -/
theorem agrees_run (server : Server σ) {table : TableDefinition}
    (htable : TableDefinition.ofText? createTable = some table) (hserver : server.Executes table)
    {s : σ} (hs : server.rows s = []) {calls : List StoreCall}
    (hcalls : ∀ call ∈ calls, call.Storable (Instant.Held server.times)) :
    Agrees server table s calls ∧ (∀ id u, ∃ changes, States table id u changes) ∧
      ∀ job : Job, job.Storable (Instant.Held server.times) → Stores table job := by
  obtain rfl := Option.some.inj (ofText?_createTable.symm.trans htable)
  -- the table and the store are empty, and every call keeps them alike
  have hempty : Holds server s [] := ⟨hs ▸ List.Perm.refl _, List.nodup_nil, List.forall_mem_nil _⟩
  obtain ⟨hanswers, hlast⟩ := run_eq hserver hempty hcalls
  refine ⟨⟨hanswers, ?_⟩, fun id u => ⟨_, states_update id u⟩, fun job h => stores_insert h⟩
  refine (hlast.rows.map (readRow definition)).trans (List.Perm.of_eq ?_)
  rw [List.map_map]
  exact List.map_congr_left fun job hjob => readJob_tuple_of_held (hlast.storable job hjob)

/-- A job is added twice, is done, and is found; another one is not there. -/
def someCalls : List StoreCall :=
  let job := NewJob.queued ⟨"hash", none, "main", "users"⟩ "a" ⟨1483228800, 1000⟩
  [.insert job, .insert job,
    .update "a" ⟨.succeeded, .set 3, .keep, .clear, .keep, .set ⟨1483228801, 0⟩⟩,
    .update "b" { status := .running }, .find "a", .find "b"]

theorem storable_queued {held : Instant → Prop} {t : Instant} (h : held t) :
    (NewJob.queued ⟨"hash", none, "main", "users"⟩ "a" t).Storable held := by
  have htexts : ∀ s ∈ ["a", "hash", "main", "users"], '\x00' ∉ s.toList := by decide
  exact ⟨htexts "a" (by simp), htexts "hash" (by simp), by rintro _ ⟨⟩, htexts "main" (by simp),
    htexts "users" (by simp), by rintro _ ⟨⟩, h, by rintro _ ⟨⟩, by rintro _ ⟨⟩⟩

theorem agrees_run_someCalls :
    (Agrees (Server.plain definition) definition [] someCalls ∧
      (∀ id u, ∃ changes, States definition id u changes) ∧
      ∀ job : Job, job.Storable (Instant.Held (Server.plain definition).times) →
        Stores definition job) := by
  have hheld : ∀ t : Instant, t.Whole →
      -211813488000000000 ≤ t.microseconds ∧ t.microseconds < 9223371331200000000 →
      t.Held (Server.plain definition).times := fun t hwhole htimes => ⟨hwhole, htimes⟩
  refine agrees_run (Server.plain definition) ofText?_createTable (Server.executes_plain definition)
    rfl ?_
  have hjob : (NewJob.queued ⟨"hash", none, "main", "users"⟩ "a" ⟨1483228800, 1000⟩).Storable
      (Instant.Held (Server.plain definition).times) :=
    storable_queued (hheld _ (by decide) (by decide))
  have hid : '\x00' ∉ "a".toList ∧ '\x00' ∉ "b".toList := by decide
  unfold someCalls
  simp only [List.forall_mem_cons]
  refine ⟨hjob, hjob, ⟨hid.1, by rintro _ ⟨⟩, by rintro _ ⟨⟩, ?_⟩,
    ⟨hid.2, by rintro _ ⟨⟩, by rintro _ ⟨⟩, by rintro _ ⟨⟩⟩, hid.1, hid.2, List.forall_mem_nil _⟩
  rintro _ ⟨⟩
  exact hheld _ (by decide) (by decide)

/-- A job that is made within a leap second. -/
def leapJob : Job :=
  NewJob.queued ⟨"hash", none, "main", "users"⟩ "a" ⟨1483228799, 1000000000⟩

/-- The job, made in the second after. -/
def laterJob : Job :=
  NewJob.queued ⟨"hash", none, "main", "users"⟩ "a" ⟨1483228800, 0⟩

/-- The job is added and asked for. -/
def leapCalls : List StoreCall := [.insert leapJob, .find "a"]

/-- The rows of the two jobs are the same. -/
theorem readJob_tuple_leapJob : readJob (heads.zip (tuple leapJob)) = .ok laterJob := by
  have htuple : tuple leapJob = tuple laterJob := rfl
  have hlater : laterJob.Storable Instant.Whole := storable_queued (by decide)
  rw [htuple, readJob_tuple hlater]

/-- A time within a leap second may be a whole number of microseconds, but the server has no such
times: the job that was made then comes back as one made in the second after. -/
theorem not_agrees_leapCalls :
    TableDefinition.ofText? createTable = some definition ∧
      (Server.plain definition).Executes definition ∧
      (∀ call ∈ leapCalls, call.Storable fun t =>
        t.nanos % 1000 = 0 ∧ t.Accepted (Server.plain definition).times) ∧
      ¬ Agrees (Server.plain definition) definition [] leapCalls := by
  have hserver := Server.executes_plain definition
  have htime : leapJob.createdAt.nanos % 1000 = 0 ∧
      leapJob.createdAt.Accepted (Server.plain definition).times := by
    refine ⟨by decide, by decide, ?_⟩
    show -211813488000000000 ≤ _ ∧ _ < 9223371331200000000
    decide
  have hjob : leapJob.Storable fun t =>
      t.nanos % 1000 = 0 ∧ t.Accepted (Server.plain definition).times := storable_queued htime
  have hid : '\x00' ∉ "a".toList := by decide
  refine ⟨ofText?_createTable, hserver, ?_, fun h => ?_⟩
  · unfold leapCalls
    simp only [List.forall_mem_cons]
    exact ⟨hjob, hid, List.forall_mem_nil _⟩
  have hinsert := rows_answer (s := []) hserver (ofText?_insert leapJob) fits_insertCommand
    (types?_insertCommand leapJob) (storable_of_mem_fields (fun _ ht => ht.2) hjob)
  have hselect := rows_answer (s := [tuple leapJob]) hserver (ofText?_select "a")
    fits_selectCommand (types?_selectCommand "a") (by
      intro f hf
      obtain rfl := List.mem_singleton.mp hf
      rintro _ ⟨⟩
      exact hid)
  have hadded : insertCommand.perform definition ((insert leapJob).params.map Field.bytes) [] =
      .ok ([], [tuple leapJob]) := perform_insert leapJob []
  have hfound : selectCommand.perform definition ((select "a").params.map Field.bytes)
      [tuple leapJob] = .ok ([tuple leapJob], [tuple leapJob]) := perform_select "a" [leapJob]
  rw [Server.rows_plain, hadded] at hinsert
  rw [Server.rows_plain, hfound] at hselect
  obtain ⟨-, hafter⟩ := hinsert
  obtain ⟨⟨rows, hrows, hreply⟩, -⟩ := hselect
  rw [Server.rows_plain] at hafter
  have hstate := List.perm_singleton.mp hafter
  have hrow : tableRows ⟨selectCommand.heads definition, rows⟩ = [heads.zip (tuple leapJob)] :=
    rows_singleton hrows
  rw [hrow] at hreply
  have hreply := found_eq hreply readJob_tuple_leapJob
  have hmemory : (JobStore.run [] leapCalls).1 =
      [.inserted (.ok ()), .found (.ok (some leapJob))] := rfl
  have hanswers := h.answers
  rw [hmemory, leapCalls, run_insert_find, hstate, hreply] at hanswers
  have hfound := (List.cons.inj (List.cons.inj hanswers).2).1
  have hjobs := Option.some.inj (Except.ok.inj (StoreAnswer.found.inj hfound))
  exact absurd (congrArg Job.createdAt hjobs) (by decide)

end JobTable
end QueryGateway
