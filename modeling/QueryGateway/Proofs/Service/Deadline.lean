import QueryGateway.Proofs.Program
import QueryGateway.Proofs.Service.Query
import QueryGateway.Scripted.Databases

/-!
# When a query returns

A query runs under a deadline: that of the caller or the limit of its data source, whichever is
earlier.  A statement ends by the deadline of the context that it is given.  A connector is given no
context, so nothing ends the wait for it: the answer is there by the deadline just when the
connector was.

## Main definitions

* `Lasts` — how long the calls of the query service may take.
* `Timeline`, `Elapses` — the clock, and when each call was answered.
* `Service.due` — when a query is to return.

## Main results

* `Databases.exists_served` — whatever the script, its answers take time as they may.
* `Service.execute_by_due_iff` — when a query returns in time.
-/

namespace QueryGateway

open Program Json

/-! ### Time -/

/-- A call that begins at one moment may be answered at another.  A statement is answered by the
deadline of its context, or at once if the deadline is over; what else is waited for may take any
time. -/
inductive Lasts : Moment → (c : ServiceCall) → c.Answer → Moment → Prop
  | found {m m' : Moment} {name : String} (source : Option Source) (h : m.now ≤ m'.now) :
      Lasts m (.source name) source m'
  | listed {m m' : Moment} (sources : List Source) (h : m.now ≤ m'.now) :
      Lasts m .sources sources m'
  | connecting {m m' : Moment} {c : RegistryCall} (answer : c.Answer) (h : m.now ≤ m'.now) :
      Lasts m (.registry c) answer m'
  | limited (m : Moment) (ctx : Context) (ms : UInt64) :
      Lasts m (.limit ctx ms) ((ctx.child m).1.timeout (ctx.child m).2 ms.toNat) (ctx.child m).2
  | queried {m m' : Moment} {c : ConnectorId} {ctx : Context} {sql : String}
      {params : List Value} (answer : Except QueryError (List Row) × Int64)
      (h : m.now ≤ m'.now) (hdeadline : ∀ d, ctx.deadline = some d → m'.now ≤ max m.now d) :
      Lasts m (.query c ctx sql params) answer m'

/-- The clock never goes back. -/
theorem Lasts.now_le {m m' : Moment} {c : ServiceCall} {answer : c.Answer}
    (h : Lasts m c answer m') : m.now ≤ m'.now := by
  cases h with
  | found _ h | listed _ h | connecting _ h | queried _ h => exact h
  | limited => exact Nat.le_refl _

/-- A context is made at once. -/
theorem Lasts.of_limit {m m' : Moment} {ctx ctx' : Context} {ms : UInt64}
    (h : Lasts m (.limit ctx ms) ctx' m') :
    ctx' = (ctx.child m).1.timeout (ctx.child m).2 ms.toNat ∧ m'.now = m.now := by
  cases h
  exact ⟨rfl, rfl⟩

/-- The clock, and the calls that were answered, each with its time. -/
structure Timeline where
  moment : Moment
  answered : List (ServiceCall × Nat) := []

/-- A call is answered, and its time is noted. -/
def Elapses (w : Timeline) (c : ServiceCall) (answer : c.Answer) (w' : Timeline) : Prop :=
  Lasts w.moment c answer w'.moment ∧ w'.answered = w.answered ++ [(c, w'.moment.now)]

section Timeline

variable {w w' : Timeline} {events : List ((c : ServiceCall) × c.Answer)}

/-- Each call is answered between the beginning of a run and its end. -/
theorem exists_answered (h : Served Elapses w events w') : w.moment.now ≤ w'.moment.now ∧
    ∃ more, w'.answered = w.answered ++ more ∧ ∀ entry ∈ more, entry.2 ≤ w'.moment.now := by
  induction h with
  | nil w => exact ⟨Nat.le_refl _, [], (List.append_nil _).symm, nofun⟩
  | @cons w middle w' c answer events h rest ih =>
    obtain ⟨hlasts, hanswered⟩ := h
    obtain ⟨hle, more, hmore, hbound⟩ := ih
    refine ⟨Nat.le_trans hlasts.now_le hle, (c, middle.moment.now) :: more, ?_, ?_⟩
    · rw [hmore, hanswered, List.append_assoc]
      rfl
    · exact List.forall_mem_cons.mpr ⟨hle, hbound⟩

/-- A run on connectors is over when its last call is answered. -/
theorem exists_last (h : Served Elapses w events w') (hne : events ≠ [])
    (hregistry : ∀ event ∈ events, ∃ c answer, event = ⟨.registry c, answer⟩) :
    ∃ c, (.registry c, w'.moment.now) ∈ w'.answered := by
  induction h with
  | nil w => exact absurd rfl hne
  | @cons w middle w' c answer events h rest ih =>
    obtain ⟨hhead, htail⟩ := List.forall_mem_cons.mp hregistry
    cases events with
    | nil =>
      obtain rfl := served_nil.mp rest
      obtain ⟨c', answer', heq⟩ := hhead
      obtain ⟨rfl, -⟩ := Sigma.mk.inj heq
      refine ⟨c', ?_⟩
      rw [h.2]
      exact List.mem_append_right _ (List.mem_singleton_self _)
    | cons event events => exact ih (List.cons_ne_nil _ _) htail

/-- Statements under a context are over by its deadline. -/
theorem now_le_of_queries {ctx : Context} {d : Nat} (hd : ctx.deadline = some d)
    (h : Served Elapses w events w')
    (hqueries : ∀ event ∈ events, ∃ c sql params answer,
      event = ⟨.query c ctx sql params, answer⟩) :
    w'.moment.now ≤ max w.moment.now d := by
  induction h with
  | nil w => exact Nat.le_max_left _ _
  | cons h rest ih =>
    obtain ⟨⟨_, _, _, _, heq⟩, htail⟩ := List.forall_mem_cons.mp hqueries
    obtain ⟨rfl, -⟩ := Sigma.mk.inj heq
    have hrest := ih htail
    obtain ⟨hlasts, -⟩ := h
    cases hlasts with
    | queried _ hle hdeadline =>
      have hquery := hdeadline d hd
      omega

end Timeline

namespace Service

variable {events : List ((c : ServiceCall) × c.Answer)}

/-- When a query that starts at a time is to return: by the deadline of its caller and within the
limit of its data source.  If the caller's deadline is over when it starts, it is to return at
once. -/
def due (s : Service) (ctx : Context) (source : Source) (start : Nat) : Nat :=
  let limit := start + (s.timeoutFor source).toNat
  max start (match ctx.deadline with
    | some deadline => min deadline limit
    | none => limit)

/-- The context under which the statements run has that deadline. -/
theorem exists_deadline (s : Service) (ctx : Context) (source : Source) (m : Moment) :
    ∃ d, ((ctx.child m).1.timeout (ctx.child m).2 (s.timeoutFor source).toNat).deadline = some d ∧
      max m.now d = s.due ctx source m.now := by
  refine ⟨_, rfl, ?_⟩
  unfold due Context.child
  cases ctx.deadline with
  | none => rfl
  | some deadline =>
    dsimp only
    split <;> omega

/-- Looking for a connector begins with the one in use. -/
theorem connectorFor_ne_nil {source : Source} {result : Except QueryError ConnectorId}
    (h : (registry (Registry.connectorFor source)).Trace events result) : events ≠ [] := by
  obtain ⟨answer, rest, rfl, -⟩ := trace_call.mp h
  exact List.cons_ne_nil _ _

/-- Counting takes one statement at most. -/
theorem queries_of_count {c : ConnectorId} {ctx : Context} {compiled : Compiled}
    {total : Option Int64} (h : (count c ctx compiled).Trace events total) :
    ∀ event ∈ events, ∃ c sql params answer, event = ⟨.query c ctx sql params, answer⟩ := by
  unfold count at h
  split at h
  · obtain ⟨rfl, -⟩ := trace_done.mp h
    exact List.forall_mem_nil _
  · obtain ⟨⟨counted, _⟩, rest, rfl, hrest⟩ := trace_perform_bind.mp h
    cases counted <;>
    · obtain ⟨rfl, -⟩ := trace_done.mp hrest
      exact List.forall_mem_singleton.mpr ⟨_, _, _, _, rfl⟩

/-- A query runs its statements under a context of its own, after it has a connector. -/
theorem exists_of_trace_execute {s : Service} {ctx : Context} {p : Prepared}
    {result : Except QueryError Response} (h : (s.execute ctx p).Trace events result) :
    ∃ ctx' connecting connector running, events =
        ⟨.limit ctx (s.timeoutFor p.source), ctx'⟩ :: (connecting ++ running) ∧
      (registry (Registry.connectorFor p.source)).Trace connecting connector ∧
      ∀ event ∈ running, ∃ c sql params answer, event = ⟨.query c ctx' sql params, answer⟩ := by
  unfold execute at h
  obtain ⟨ctx', rest, rfl, hlimited⟩ := trace_perform_bind.mp h
  obtain ⟨connecting, running, connector, rfl, hconnecting, hconnected⟩ := trace_bind.mp hlimited
  refine ⟨ctx', connecting, connector, running, rfl, hconnecting, ?_⟩
  cases connector with
  | error e =>
    obtain ⟨rfl, -⟩ := trace_done.mp hconnected
    exact List.forall_mem_nil _
  | ok c =>
    obtain ⟨⟨selected, tookMs⟩, rest, rfl, hselected⟩ := trace_perform_bind.mp hconnected
    refine List.forall_mem_cons.mpr ⟨⟨_, _, _, _, rfl⟩, ?_⟩
    cases selected with
    | error e =>
      obtain ⟨rfl, -⟩ := trace_done.mp hselected
      exact List.forall_mem_nil _
    | ok rows =>
      obtain ⟨counting, _, total, rfl, hcount, hdone⟩ := trace_bind.mp hselected
      obtain ⟨rfl, -⟩ := trace_done.mp hdone
      rw [List.append_nil]
      exact queries_of_count hcount

/-- The answer of a query is there when it is due just when its connector was. -/
theorem by_due_of_served {s : Service} {ctx : Context} {p : Prepared} {m : Moment}
    {result : Except QueryError Response} {w' : Timeline}
    (h : (s.execute ctx p).Trace events result) (hserved : Served Elapses ⟨m, []⟩ events w') :
    w'.moment.now ≤ s.due ctx p.source m.now ↔
      ∀ c t, (.registry c, t) ∈ w'.answered → t ≤ s.due ctx p.source m.now := by
  obtain ⟨hle, more, hanswered, hbound⟩ := exists_answered hserved
  constructor
  · intro hdue c t hmem
    rw [hanswered] at hmem
    exact Nat.le_trans (hbound _ hmem) hdue
  · intro hconnected
    obtain ⟨ctx', connecting, connector, running, rfl, hconnecting, hrunning⟩ :=
      exists_of_trace_execute h
    obtain ⟨limited, hlimit, hserved⟩ := served_cons.mp hserved
    obtain ⟨connected, hfirst, hsecond⟩ := served_append.mp hserved
    -- the last step on connectors is over when the first statement begins
    obtain ⟨c, hlast⟩ :=
      exists_last hfirst (connectorFor_ne_nil hconnecting) (registry_of_trace hconnecting)
    obtain ⟨-, later, hlater, -⟩ := exists_answered hsecond
    have hstart : connected.moment.now ≤ s.due ctx p.source m.now :=
      hconnected c _ (hlater ▸ List.mem_append_left _ hlast)
    obtain ⟨rfl, hnow⟩ := hlimit.1.of_limit
    obtain ⟨d, hd, hdue⟩ := s.exists_deadline ctx p.source m
    have hend := now_le_of_queries hd hsecond hrunning
    omega

end Service

/-! ### Scripted databases -/

namespace Databases

/-- A wait under a context ends by its deadline, or at once. -/
theorem now_wait (ctx : Context) (m : Moment) (ms : Nat) : m.now ≤ (ctx.wait m ms).2.now ∧
    ∀ d, ctx.deadline = some d → (ctx.wait m ms).2.now ≤ max m.now d := by
  unfold Context.wait
  split
  · exact ⟨Nat.le_refl _, fun d _ => Nat.le_max_left _ _⟩
  · split
    · next left hleft =>
      unfold Context.remaining? at hleft
      obtain ⟨deadline, hdeadline, rfl⟩ := Option.map_eq_some_iff.mp hleft
      rw [hdeadline]
      split
      · refine ⟨Nat.le_add_right _ _, ?_⟩
        rintro d ⟨⟩
        show m.now + (deadline - m.now) ≤ max m.now deadline
        omega
      · refine ⟨Nat.le_add_right _ _, ?_⟩
        rintro d ⟨⟩
        show m.now + ms ≤ max m.now deadline
        omega
    · next hleft =>
      unfold Context.remaining? at hleft
      refine ⟨Nat.le_add_right _ _, fun d hd => ?_⟩
      rw [hd] at hleft
      cases hleft

/-- A statement is over by the deadline of its context, or at once. -/
theorem now_query (db : Databases) (c : ConnectorId) (ctx : Context) (sql : String)
    (params : List Value) : db.moment.now ≤ (db.query c ctx sql params).2.moment.now ∧
      ∀ d, ctx.deadline = some d →
        (db.query c ctx sql params).2.moment.now ≤ max db.moment.now d := by
  have hmoment : (db.query c ctx sql params).2.moment =
      (match (db.script.head?.getD {}).delay with
      | some ms => ctx.wait db.moment ms
      | none => (none, db.moment)).2 := by
    unfold query
    dsimp only
    split <;> rfl
  rw [hmoment]
  cases (db.script.head?.getD {}).delay with
  | none => exact ⟨Nat.le_refl _, fun _ _ => Nat.le_max_left _ _⟩
  | some ms => exact now_wait ctx db.moment ms

theorem moment_endConnect (db : Databases) (source : Source) (reply : ScriptedConnect) :
    (db.endConnect source reply).2.moment = db.moment := by
  unfold endConnect
  split <;> rfl

/-- A step on connectors moves the clock forward only while connecting. -/
theorem now_finish (db : Databases) (c : RegistryCall) :
    db.moment.now ≤ (finish (db.begin c)).2.moment.now := by
  cases c with
  | connect source =>
    cases hdelay : (db.connects.head?.getD {}).delay with
    | none =>
      have hbegin : finish (db.begin (.connect source)) =
          (db.beginConnect source).2.endConnect source (db.beginConnect source).1 := by
        unfold begin beginConnect
        dsimp only
        rw [hdelay]
        rfl
      rw [hbegin, moment_endConnect]
      exact Nat.le_refl _
    | some ms =>
      have hbegin : finish (db.begin (.connect source)) =
          ((db.beginConnect source).2.later ms).endConnect source (db.beginConnect source).1 := by
        unfold begin beginConnect
        dsimp only
        rw [hdelay]
        rfl
      rw [hbegin, moment_endConnect]
      exact Nat.le_add_right _ _
  | inUse | supports | adopt | close | evict | evictAll => exact Nat.le_refl _

theorem lasts_answer (c : ServiceCall) (db : Databases) :
    Lasts db.moment c (answer c db).1 (answer c db).2.moment := by
  cases c with
  | source name => exact .found _ (Nat.le_refl _)
  | sources => exact .listed _ (Nat.le_refl _)
  | registry c => exact .connecting _ (now_finish db c)
  | limit ctx ms => exact .limited db.moment ctx ms
  | query c ctx sql params =>
    obtain ⟨hle, hdeadline⟩ := now_query db c ctx sql params
    exact .queried _ hle hdeadline

/-- Whatever the script, its answers take time as they may. -/
theorem exists_served {α : Type} (program : ServiceProgram α) (db : Databases)
    (answered : List (ServiceCall × Nat)) : ∃ events more,
      program.Trace events (run program db).1 ∧
      Served Elapses ⟨db.moment, answered⟩ events ⟨(run program db).2.moment, more⟩ := by
  induction program generalizing db answered with
  | done result => exact ⟨[], answered, .done result, .nil _⟩
  | call c next ih =>
    obtain ⟨events, more, htrace, hserved⟩ := ih (answer c db).1 (answer c db).2
      (answered ++ [(c, (answer c db).2.moment.now)])
    exact ⟨⟨c, (answer c db).1⟩ :: events, more, .call htrace,
      .cons ⟨lasts_answer c db, rfl⟩ hserved⟩

end Databases

/-! ### Queries and their deadlines -/

namespace Service

/-- Whatever time the calls of a query take: its answer is there when it is due just when each step
on connectors is over by then.  For every script of databases a query comes to its end, and takes
its time so. -/
theorem execute_by_due_iff (s : Service) (ctx : Context) (p : Prepared) :
    (∀ m events result w', (s.execute ctx p).Trace events result →
      Served Elapses ⟨m, []⟩ events w' →
        (w'.moment.now ≤ s.due ctx p.source m.now ↔
          ∀ c t, (.registry c, t) ∈ w'.answered → t ≤ s.due ctx p.source m.now)) ∧
      ∀ db : Databases, ∃ events answered,
        (s.execute ctx p).Trace events (Databases.run (s.execute ctx p) db).1 ∧
          Served Elapses ⟨db.moment, []⟩ events
            ⟨(Databases.run (s.execute ctx p) db).2.moment, answered⟩ :=
  ⟨fun _ _ _ _ h hserved => by_due_of_served h hserved,
    fun db => Databases.exists_served (s.execute ctx p) db []⟩

/-- A request for users that is ready to run. -/
def usersPrepared : Prepared where
  source := usersSource "users.password"
  table := "users"
  compiled := (Plan.ofRequest "users" {} 0).compile

/-- The connector is there after a second, and the statement would take ten. -/
def slowStatement : Databases where
  kinds := ["postgres"]
  connects := [{ delay := some 1000 }]
  script := [{ delay := some 10000 }]

/-- The connection is refused after five seconds. -/
def slowRefusal : Databases where
  kinds := ["postgres"]
  connects := [{ delay := some 5000, error := some (.connectionFailed "refused") }]

/-- A slow statement is cut off: the answer is there after four seconds, when it is due. -/
theorem execute_by_due_iff_cut : ∃ events m' answered,
    (Service.execute ⟨4000⟩ { token := ⟨0, []⟩ } usersPrepared).Trace events
      (.error (.timeout 4000)) ∧
    Served Elapses ⟨slowStatement.moment, []⟩ events ⟨m', answered⟩ ∧ m'.now = 4000 ∧
    ∀ c t, (.registry c, t) ∈ answered → t ≤ 4000 := by
  obtain ⟨hiff, hruns⟩ := execute_by_due_iff ⟨4000⟩ { token := ⟨0, []⟩ } usersPrepared
  obtain ⟨events, answered, htrace, hserved⟩ := hruns slowStatement
  have hresult : (Databases.run (Service.execute ⟨4000⟩ { token := ⟨0, []⟩ } usersPrepared)
      slowStatement).1 = .error (.timeout 4000) := by decide +kernel
  have hnow : (Databases.run (Service.execute ⟨4000⟩ { token := ⟨0, []⟩ } usersPrepared)
      slowStatement).2.moment.now = 4000 := by decide +kernel
  have hdue : Service.due ⟨4000⟩ { token := ⟨0, []⟩ } usersPrepared.source 0 = 4000 := by decide
  have hconnected := (hiff _ _ _ _ htrace hserved).mp (Nat.le_of_eq (hnow.trans hdue.symm))
  exact ⟨events, _, answered, hresult ▸ htrace, hserved, hnow, hdue ▸ hconnected⟩

/-- A slow refusal is waited for: the answer is there after five seconds, and was due after four. -/
theorem exists_late :
    (Databases.run (Service.execute ⟨4000⟩ { token := ⟨0, []⟩ } usersPrepared) slowRefusal).1 =
      .error (.connectionFailed "refused") ∧
    (Databases.run (Service.execute ⟨4000⟩ { token := ⟨0, []⟩ } usersPrepared)
      slowRefusal).2.moment.now = 5000 ∧
    Service.due ⟨4000⟩ { token := ⟨0, []⟩ } usersPrepared.source slowRefusal.moment.now = 4000 :=
  ⟨by decide +kernel, by decide +kernel, by decide⟩

end Service
end QueryGateway
