import QueryGateway.Service.Query
import QueryGateway.Proofs.Blocklist
import QueryGateway.Proofs.Program
import QueryGateway.Proofs.Statement.Compile

/-!
# The rows of an answer

What an answer of the query service has to do with the rows that the database returned, whatever the
surroundings answer to the calls on the way.

## Main definitions

* `Service.Returned` — the data source and the rows of a finished run.

## Main results

* `Service.returned_of_trace` — the rows of an answer are the scrubbed rows of the statement.
* `Service.rows_eq_unblocked_iff` — when they are the rows without their blocked columns.
-/

namespace QueryGateway
namespace Service

open Program

variable {events : List ((c : ServiceCall) × c.Answer)}

/-- In a finished run, the data source was found under its name, and the database returned rows for
the statement of the request. -/
structure Returned (events : List ((c : ServiceCall) × c.Answer)) (name table : String)
    (r : Request) (source : Source) (rows : List Row) : Prop where
  found : ⟨.source name, some source⟩ ∈ events
  returned : ∃ compiled c ctx tookMs, compile table r source = .ok compiled ∧
    ⟨.query c ctx compiled.selectSql compiled.params, (.ok rows, tookMs)⟩ ∈ events

/-- A request that was prepared has been compiled for the data source that was found. -/
theorem prepared_of_trace {name table : String} {r : Request} {p : Prepared}
    (h : (prepare name table r).Trace events (.ok p)) :
    p.table = table ∧ events = [⟨.source name, some p.source⟩] ∧
      compile table r p.source = .ok p.compiled := by
  unfold prepare at h
  split at h
  · simp at h
  · obtain ⟨answer, rest, rfl, hanswered⟩ := trace_perform_bind.mp h
    cases answer with
    | none => simp at hanswered
    | some source =>
      simp only [pure_eq_done, trace_done] at hanswered
      obtain ⟨rfl, hcompiled⟩ := hanswered
      cases hc : compile table r source with
      | error e => simp [hc, Except.map] at hcompiled
      | ok compiled =>
        rw [hc] at hcompiled
        obtain rfl : { source, table, compiled } = p := Except.ok.inj hcompiled
        exact ⟨rfl, rfl, hc⟩

/-- A program on connectors makes no other calls. -/
theorem registry_of_trace {α : Type} {p : RegistryProgram α} {result : α}
    (h : (registry p).Trace events result) :
    ∀ event ∈ events, ∃ c answer, event = ⟨.registry c, answer⟩ := by
  unfold registry at h
  induction p generalizing events with
  | done =>
    obtain ⟨rfl, -⟩ := trace_done.mp h
    exact List.forall_mem_nil _
  | call c next ih =>
    obtain ⟨answer, rest, rfl, hrest⟩ := trace_call.mp h
    exact List.forall_mem_cons.mpr ⟨⟨c, answer, rfl⟩, ih answer hrest⟩

/-- An answer holds the scrubbed rows that the database returned for the statement. -/
theorem executed_of_trace {s : Service} {ctx : Context} {p : Prepared} {response : Response}
    (h : (s.execute ctx p).Trace events (.ok response)) :
    ∃ c ctx' rows tookMs,
      ⟨.query c ctx' p.compiled.selectSql p.compiled.params, (.ok rows, tookMs)⟩ ∈ events ∧
        response.rows = rows.map (p.source.scrub p.table) := by
  unfold execute at h
  obtain ⟨ctx', rest, rfl, hlimited⟩ := trace_perform_bind.mp h
  obtain ⟨connecting, running, connector, rfl, -, hconnected⟩ := trace_bind.mp hlimited
  cases connector with
  | error e => simp at hconnected
  | ok c =>
    obtain ⟨⟨result, tookMs⟩, counting, rfl, hqueried⟩ := trace_perform_bind.mp hconnected
    cases result with
    | error e => simp at hqueried
    | ok rows =>
      obtain ⟨_, _, total, -, -, hcounted⟩ := trace_bind.mp hqueried
      simp only [pure_eq_done, trace_done, Except.ok.injEq] at hcounted
      obtain ⟨-, rfl⟩ := hcounted
      exact ⟨c, ctx', rows, tookMs, by simp, rfl⟩

/-- The rows of an answer are the scrubbed rows of the statement. -/
theorem returned_of_trace {s : Service} {ctx : Context} {name table : String} {r : Request}
    {response : Response} (h : (s.queryTable ctx name table r).Trace events (.ok response)) :
    ∃ source rows, Returned events name table r source rows ∧ isIdentifier table = true ∧
      response.rows = rows.map (source.scrub table) := by
  unfold queryTable at h
  obtain ⟨preparing, executing, prepared, rfl, hprepare, hexecute⟩ := trace_bind.mp h
  cases prepared with
  | error e => simp at hexecute
  | ok p =>
    obtain ⟨rfl, rfl, hcompile⟩ := prepared_of_trace hprepare
    obtain ⟨c, ctx', rows, tookMs, hquery, hrows⟩ := executed_of_trace hexecute
    have htable := (checkTarget_eq_ok.mp (compile_eq_ok.mp hcompile).1).1
    exact ⟨p.source, rows, ⟨List.mem_append_left _ (List.mem_singleton_self _), p.compiled, c, ctx',
      tookMs, hcompile, List.mem_append_right _ hquery⟩, htable, hrows⟩

/-- The rows of an answer are those of the statement without the columns that are listed, which are
blocked columns.  They are the rows without all blocked columns just when every blocked column that
the database returned is listed. -/
theorem rows_eq_unblocked_iff {s : Service} {ctx : Context} {name table : String} {r : Request}
    {response : Response} (h : (s.queryTable ctx name table r).Trace events (.ok response)) :
    ∃ source rows, Returned events name table r source rows ∧
      response.rows = rows.map (fun row => row.filter fun cell => !source.lists table cell.1) ∧
      (∀ column, source.lists table column = true → source.isBlocked table column = true) ∧
      (response.rows = rows.map (fun row => row.filter fun cell =>
          !source.isBlocked table cell.1) ↔
        ∀ row ∈ rows, ∀ cell ∈ row,
          source.isBlocked table cell.1 = true → source.lists table cell.1 = true) := by
  obtain ⟨source, rows, hreturned, htable, hrows⟩ := returned_of_trace h
  refine ⟨source, rows, hreturned, ?_, fun _ => Source.isBlocked_of_lists, ?_⟩
  · rw [hrows]
    exact List.map_congr_left fun row _ => Source.scrub_eq_filter source htable row
  · rw [hrows, List.map_inj_left]
    exact forall₂_congr fun row _ => Source.scrub_eq_iff source htable row

/-- The run that prepares a request that is compiled. -/
theorem trace_prepare (name : String) {table : String} {r : Request} {source : Source}
    {compiled : Compiled} (hcompile : compile table r source = .ok compiled) :
    (prepare name table r).Trace [⟨.source name, some source⟩]
      (.ok { source, table, compiled }) := by
  unfold prepare
  rw [(compile_eq_ok.mp hcompile).1]
  refine trace_perform_bind.mpr ⟨some source, [], rfl, ?_⟩
  show (done ((compile table r source).map _)).Trace [] _
  rw [hcompile]
  exact .done _

/-- The run of a request without count while a connector is in use. -/
theorem trace_queryTable (name : String) {table : String} {r : Request} {source : Source}
    {compiled : Compiled} (hcompile : compile table r source = .ok compiled)
    (hcount : compiled.countSql = none) (s : Service) (ctx ctx' : Context) (c : ConnectorId)
    (rows : List Row) (tookMs : Int64) :
    (s.queryTable ctx name table r).Trace
      [⟨.source name, some source⟩, ⟨.limit ctx (s.timeoutFor source), ctx'⟩,
        ⟨.registry (.inUse source.name), some c⟩,
        ⟨.query c ctx' compiled.selectSql compiled.params, (.ok rows, tookMs)⟩]
      (.ok { rows := rows.map (source.scrub table), table, tookMs, total := none }) := by
  have hconnect : (registry (Registry.connectorFor source)).Trace
      [⟨.registry (.inUse source.name), some c⟩] (.ok c) := .call (.done _)
  have hcounted : (count c ctx' compiled).Trace [] none := by
    unfold count
    rw [hcount]
    exact .done none
  refine trace_bind.mpr ⟨[_], _, _, rfl, trace_prepare name hcompile, ?_⟩
  refine trace_perform_bind.mpr ⟨ctx', _, rfl, ?_⟩
  refine trace_bind.mpr ⟨[_], _, _, rfl, hconnect, ?_⟩
  refine trace_perform_bind.mpr ⟨(.ok rows, tookMs), _, rfl, ?_⟩
  exact trace_bind.mpr ⟨[], [], none, rfl, hcounted, .done _⟩

/-- A data source that blocks one column of a table. -/
def usersSource (blocked : String) : Source where
  name := "main"
  kind := "postgres"
  blocklist := [blocked]

theorem compile_users (blocked : String) : compile "users" {} (usersSource blocked) =
    .ok (Plan.ofRequest "users" {} 0).compile :=
  compile_eq_ok.mpr ⟨rfl, rfl, rfl, rfl⟩

/-- An entry in other ASCII letters: the column is gone. -/
theorem rows_eq_unblocked_iff_password : ∃ events response,
    (Service.queryTable ⟨4000⟩ { token := ⟨0, []⟩ } "main" "users" {}).Trace events (.ok response) ∧
    ∃ source rows, Returned events "main" "users" {} source rows ∧
      response.rows = rows.map (fun row => row.filter fun cell => !source.lists "users" cell.1) ∧
      (∀ column, source.lists "users" column = true → source.isBlocked "users" column = true) ∧
      (response.rows = rows.map (fun row => row.filter fun cell =>
          !source.isBlocked "users" cell.1) ↔
        ∀ row ∈ rows, ∀ cell ∈ row,
          source.isBlocked "users" cell.1 = true → source.lists "users" cell.1 = true) := by
  have h := trace_queryTable "main" (compile_users "Users.Password") rfl ⟨4000⟩
    { token := ⟨0, []⟩ } { token := ⟨1, [0]⟩ } 1 [[("PASSWORD", .text "hunter2"), ("id", .int 1)]] 3
  exact ⟨_, _, h, rows_eq_unblocked_iff h⟩

/-- An entry in other letters beyond ASCII: the column is blocked, and its cell is in the answer. -/
theorem exists_blocked_cell : ∃ events response source,
    (Service.queryTable ⟨4000⟩ { token := ⟨0, []⟩ } "main" "users" {}).Trace events (.ok response) ∧
    ⟨.source "main", some source⟩ ∈ events ∧
    ∃ row ∈ response.rows, ∃ cell ∈ row, source.isBlocked "users" cell.1 = true := by
  have h := trace_queryTable "main" (compile_users "users.PRÉNOM") rfl ⟨4000⟩
    { token := ⟨0, []⟩ } { token := ⟨1, [0]⟩ } 1 [[("id", .int 1), ("prénom", .text "Ada")]] 3
  refine ⟨_, _, usersSource "users.PRÉNOM", h, List.mem_cons_self, _, List.mem_cons_self,
    ("prénom", .text "Ada"), ?_, by decide +kernel⟩
  decide +kernel

end Service
end QueryGateway
