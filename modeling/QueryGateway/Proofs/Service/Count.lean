import QueryGateway.Proofs.Service.Query

/-!
# Queries that ask for a total

A request may ask for the number of all rows that match.  It is then answered as without the total,
by the same calls in the same order, and only after rows have come does it send one statement more:
on the same connector, under the same context, with the parameters of the first but for the limit
and the offset.  What becomes of that statement decides about the total and nothing else.

## Main definitions

* `Service.Selected`, `Service.select` — a query up to the rows of its first statement.
* `Service.Selects` — the calls up to there.
* `Service.Counts` — how a run without total becomes one with a total.

## Main results

* `Service.queryTable_counting` — a query with a total goes on where one without ends.
* `Service.counts_iff` — the runs with a total are those without, and one statement more.
-/

namespace QueryGateway

open Program

/-! ### Statements with a count -/

/-- The statements of a request with a count beside them. -/
def Compiled.counting (c : Compiled) (table : String) (r : Request) (source : Source) : Compiled :=
  { c with countSql := some (Plan.ofRequest table r source.limits.maxRows).countText }

/-- A total that is asked for changes the statements only by the count beside them. -/
theorem compile_counting (table : String) (r : Request) (source : Source) :
    compile table { r with countTotal := true } source =
      (compile table { r with countTotal := false } source).map fun c =>
        c.counting table r source := by
  have htarget : checkTarget table { r with countTotal := true }.schemaName =
      checkTarget table { r with countTotal := false }.schemaName := rfl
  have hcolumns : checkColumns source table { r with countTotal := true } =
      checkColumns source table { r with countTotal := false } := rfl
  unfold compile
  rw [htarget, hcolumns]
  cases checkTarget table { r with countTotal := false }.schemaName with
  | error e => rfl
  | ok =>
    cases source.isPostgres with
    | false => rfl
    | true => cases checkColumns source table { r with countTotal := false } <;> rfl

/-- A prepared request with a count beside its statement. -/
def Prepared.counting (p : Prepared) (r : Request) : Prepared :=
  { p with compiled := p.compiled.counting p.table r p.source }

theorem Prepared.compile_eq_counting {p : Prepared} {r : Request}
    (h : compile p.table { r with countTotal := false } p.source = .ok p.compiled) :
    compile p.table { r with countTotal := true } p.source = .ok (p.counting r).compiled := by
  rw [compile_counting, h]
  rfl

/-- Without a total there is no count. -/
theorem countSql_of_compile {table : String} {r : Request} {source : Source} {c : Compiled}
    (h : compile table { r with countTotal := false } source = .ok c) : c.countSql = none := by
  obtain ⟨-, -, -, rfl⟩ := compile_eq_ok.mp h
  rfl

namespace Service

variable {s : Service} {ctx : Context} {name table : String} {r : Request}
  {events : List ((c : ServiceCall) × c.Answer)}

/-! ### The first statement and the end of a query -/

/-- A query whose first statement was answered with rows. -/
structure Selected where
  prepared : Prepared
  connector : ConnectorId
  context : Context
  /-- The answer without total. -/
  response : Response

/-- Runs a prepared request up to the rows of its first statement. -/
def select (s : Service) (ctx : Context) (p : Prepared) :
    ServiceProgram (Except QueryError Selected) := do
  let timeout := s.timeoutFor p.source
  let ctx ← ServiceCall.perform (.limit ctx timeout)
  match ← registry (Registry.connectorFor p.source) with
  | .error e => return .error e
  | .ok c =>
    match ← ServiceCall.perform (.query c ctx p.compiled.selectSql p.compiled.params) with
    | (.error e, _) => return .error (reported timeout e)
    | (.ok rows, tookMs) =>
      let rows := rows.map (p.source.scrub p.table)
      return .ok ⟨p, c, ctx, { rows, table := p.table, tookMs, total := none }⟩

/-- Prepares a request without total and runs it up to the rows of its first statement. -/
def selectTable (s : Service) (ctx : Context) (name table : String) (r : Request) :
    ServiceProgram (Except QueryError Selected) := do
  match ← prepare name table { r with countTotal := false } with
  | .error e => return .error e
  | .ok p => s.select ctx p

/-- Ends a query: rows that have come get their total. -/
def finish (f : Prepared → Prepared) :
    Except QueryError Selected → ServiceProgram (Except QueryError Response)
  | .error e => return .error e
  | .ok x => do
    let total ← count x.connector x.context (f x.prepared).compiled
    return .ok { x.response with total }

/-- A query runs its first statement and then ends.  A count beside the statement matters at the end
only. -/
theorem execute_eq_select (s : Service) (ctx : Context) (p : Prepared) (f : Prepared → Prepared)
    (hsource : (f p).source = p.source) (htable : (f p).table = p.table)
    (hselect : (f p).compiled.selectSql = p.compiled.selectSql)
    (hparams : (f p).compiled.params = p.compiled.params) :
    s.execute ctx (f p) = s.select ctx p >>= finish f := by
  unfold execute select
  rw [hsource, htable, hselect, hparams, Program.bind_assoc]
  refine bind_congr fun ctx' => ?_
  rw [Program.bind_assoc]
  refine bind_congr fun connector => ?_
  cases connector with
  | error e => rfl
  | ok c =>
    show ServiceCall.perform _ >>= _ = (ServiceCall.perform _ >>= _) >>= _
    rw [Program.bind_assoc]
    refine bind_congr fun answer => ?_
    obtain ⟨result, tookMs⟩ := answer
    cases result <;> rfl

/-- A query without total ends after its first statement. -/
theorem queryTable_plain (s : Service) (ctx : Context) (name table : String) (r : Request) :
    s.queryTable ctx name table { r with countTotal := false } =
      s.selectTable ctx name table r >>= finish id := by
  unfold queryTable selectTable
  rw [Program.bind_assoc]
  refine bind_congr fun prepared => ?_
  cases prepared with
  | error e => rfl
  | ok p => exact execute_eq_select s ctx p id rfl rfl rfl rfl

/-- Preparing a request with a total. -/
theorem prepare_counting (name table : String) (r : Request) :
    prepare name table { r with countTotal := true } =
      prepare name table { r with countTotal := false } >>= fun prepared =>
        return prepared.map fun p => p.counting r := by
  have htarget : checkTarget table { r with countTotal := true }.schemaName =
      checkTarget table { r with countTotal := false }.schemaName := rfl
  unfold prepare
  rw [htarget]
  cases checkTarget table { r with countTotal := false }.schemaName with
  | error e => rfl
  | ok =>
    show ServiceCall.perform _ >>= _ = (ServiceCall.perform _ >>= _) >>= _
    rw [Program.bind_assoc]
    refine bind_congr fun found => ?_
    cases found with
    | none => rfl
    | some source =>
      refine congrArg done ?_
      rw [compile_counting]
      cases compile table { r with countTotal := false } source <;> rfl

/-- A query with a total goes on where the one without ends. -/
theorem queryTable_counting (s : Service) (ctx : Context) (name table : String) (r : Request) :
    s.queryTable ctx name table { r with countTotal := true } =
      s.selectTable ctx name table r >>= finish fun p => p.counting r := by
  unfold queryTable selectTable
  rw [prepare_counting, Program.bind_assoc, Program.bind_assoc]
  refine bind_congr fun prepared => ?_
  cases prepared with
  | error e => rfl
  | ok p => exact execute_eq_select s ctx p (fun p => p.counting r) rfl rfl rfl rfl

/-! ### Runs -/

/-- The calls of a query up to the rows of its first statement: the data source is found, a
connector is looked for once the query has its deadline, and rows come for the statement. -/
def Selects (s : Service) (ctx : Context) (name : String)
    (events : List ((c : ServiceCall) × c.Answer)) (source : Source) (compiled : Compiled)
    (c : ConnectorId) (ctx' : Context) : Prop :=
  ∃ connecting rows tookMs,
    (∀ event ∈ connecting, ∃ call answer, event = ⟨.registry call, answer⟩) ∧
    events = ⟨.source name, some source⟩ :: ⟨.limit ctx (s.timeoutFor source), ctx'⟩ ::
      (connecting ++ [⟨.query c ctx' compiled.selectSql compiled.params, (.ok rows, tookMs)⟩])

/-- The total that the answer to a count tells. -/
def totalIn : Except QueryError (List Row) × Int64 → Option Int64
  | (.ok rows, _) => totalOf rows
  | (.error _, _) => none

/-- How a finished run without total becomes one with a total.  After an error nothing follows.
After rows the count follows, on the same connector and under the same context, with all parameters
but the last two; its answer tells the total, and all else of the response stays. -/
inductive Counts (s : Service) (ctx : Context) (name table : String) (r : Request) :
    List ((c : ServiceCall) × c.Answer) → Except QueryError Response →
      List ((c : ServiceCall) × c.Answer) → Except QueryError Response → Prop
  | refused (events : List ((c : ServiceCall) × c.Answer)) (e : QueryError) :
      Counts s ctx name table r events (.error e) events (.error e)
  | asked {events : List ((c : ServiceCall) × c.Answer)} {response : Response} {source : Source}
      {compiled : Compiled} {sql : String} {c : ConnectorId} {ctx' : Context}
      (selects : Selects s ctx name events source compiled c ctx')
      (compiles : compile table { r with countTotal := true } source = .ok compiled)
      (counts : compiled.countSql = some sql) (without : response.total = none)
      (answer : Except QueryError (List Row) × Int64) :
      Counts s ctx name table r events (.ok response)
        (events ++
          [⟨.query c ctx' sql (compiled.params.take (compiled.params.length - 2)), answer⟩])
        (.ok { response with total := totalIn answer })

/-- The calls tell which data source, connector and context they are about. -/
theorem Selects.unique {source source' : Source} {compiled compiled' : Compiled}
    {c c' : ConnectorId} {ctx₁ ctx₂ : Context}
    (h : Selects s ctx name events source compiled c ctx₁)
    (h' : Selects s ctx name events source' compiled' c' ctx₂) :
    source' = source ∧ c' = c ∧ ctx₂ = ctx₁ := by
  obtain ⟨connecting, rows, tookMs, -, rfl⟩ := h
  obtain ⟨connecting', rows', tookMs', -, heq⟩ := h'
  obtain ⟨hsource, htail⟩ := List.cons.inj heq
  obtain ⟨-, hlast⟩ := List.append_inj' (List.cons.inj htail).2 rfl
  have hquery := List.singleton_inj.mp hlast
  simp only [Sigma.mk.injEq, ServiceCall.query.injEq, heq_eq_eq, true_and, Option.some.injEq]
    at hsource hquery
  exact ⟨hsource.symm, hquery.1.1.symm, hquery.1.2.1.symm⟩

/-- What a run has done when rows have come. -/
theorem selects_of_trace {x : Selected}
    (h : (s.selectTable ctx name table r).Trace events (.ok x)) :
    Selects s ctx name events x.prepared.source x.prepared.compiled x.connector x.context ∧
      x.prepared.table = table ∧
      compile table { r with countTotal := false } x.prepared.source = .ok x.prepared.compiled ∧
      x.response.total = none := by
  unfold selectTable at h
  obtain ⟨preparing, selecting, prepared, rfl, hprepare, hselect⟩ := trace_bind.mp h
  cases prepared with
  | error e => simp at hselect
  | ok p =>
    obtain ⟨htable, rfl, hcompile⟩ := prepared_of_trace hprepare
    unfold select at hselect
    obtain ⟨ctx', rest, rfl, hlimited⟩ := trace_perform_bind.mp hselect
    obtain ⟨connecting, running, connector, rfl, hconnecting, hconnected⟩ := trace_bind.mp hlimited
    cases connector with
    | error e => simp at hconnected
    | ok c =>
      obtain ⟨⟨result, tookMs⟩, rest, rfl, hqueried⟩ := trace_perform_bind.mp hconnected
      cases result with
      | error e => simp at hqueried
      | ok rows =>
        simp only [pure_eq_done, trace_done, Except.ok.injEq] at hqueried
        obtain ⟨rfl, rfl⟩ := hqueried
        exact ⟨⟨connecting, rows, tookMs, registry_of_trace hconnecting, rfl⟩, htable, hcompile,
          rfl⟩

/-- Counting is one statement when it is asked for. -/
theorem trace_count {c : ConnectorId} {compiled : Compiled} {sql : String} {total : Option Int64}
    (hsql : compiled.countSql = some sql) : (count c ctx compiled).Trace events total ↔
      ∃ answer, events = [⟨.query c ctx sql compiled.countParams, answer⟩] ∧
        total = totalIn answer := by
  unfold count
  rw [hsql]
  refine trace_perform_bind.trans (exists_congr fun answer => ?_)
  obtain ⟨result, tookMs⟩ := answer
  cases result <;>
  · constructor
    · rintro ⟨rest, rfl, h⟩
      obtain ⟨rfl, rfl⟩ := trace_done.mp h
      exact ⟨rfl, rfl⟩
    · rintro ⟨rfl, rfl⟩
      exact ⟨[], rfl, .done _⟩

/-- Nothing is counted when it is not asked for. -/
theorem trace_count_none {c : ConnectorId} {compiled : Compiled} {total : Option Int64}
    (hsql : compiled.countSql = none) : (count c ctx compiled).Trace events total ↔
      events = [] ∧ total = none := by
  unfold count
  rw [hsql]
  exact trace_done.trans (and_congr_right fun _ => eq_comm)

theorem trace_finish_error {f : Prepared → Prepared} {e : QueryError}
    {result : Except QueryError Response} :
    (finish f (.error e)).Trace events result ↔ events = [] ∧ result = .error e :=
  trace_done.trans (and_congr_right fun _ => eq_comm)

/-- After rows only the total is still open. -/
theorem trace_finish_ok {f : Prepared → Prepared} {x : Selected}
    {result : Except QueryError Response} : (finish f (.ok x)).Trace events result ↔
      ∃ total, (count x.connector x.context (f x.prepared).compiled).Trace events total ∧
        result = .ok { x.response with total } := by
  refine trace_bind.trans ⟨?_, ?_⟩
  · rintro ⟨first, second, total, rfl, hcount, hdone⟩
    obtain ⟨rfl, rfl⟩ := trace_done.mp hdone
    exact ⟨total, (List.append_nil first).symm ▸ hcount, rfl⟩
  · rintro ⟨total, hcount, rfl⟩
    exact ⟨events, [], total, (List.append_nil events).symm, hcount, .done _⟩

/-- The runs without total are those of the first statement. -/
theorem trace_plain {result : Except QueryError Response} :
    (s.queryTable ctx name table { r with countTotal := false }).Trace events result ↔
      ∃ selected, (s.selectTable ctx name table r).Trace events selected ∧
        result = selected.map Selected.response := by
  rw [queryTable_plain]
  refine trace_bind.trans ⟨?_, ?_⟩
  · rintro ⟨first, second, selected, rfl, hselect, hfinish⟩
    refine ⟨selected, ?_⟩
    cases selected with
    | error e =>
      obtain ⟨rfl, rfl⟩ := trace_finish_error.mp hfinish
      exact ⟨(List.append_nil first).symm ▸ hselect, rfl⟩
    | ok x =>
      obtain ⟨-, -, hcompile, hnone⟩ := selects_of_trace hselect
      obtain ⟨total, hcount, rfl⟩ := trace_finish_ok.mp hfinish
      obtain ⟨rfl, rfl⟩ := (trace_count_none (countSql_of_compile hcompile)).mp hcount
      exact ⟨(List.append_nil first).symm ▸ hselect, by rw [← hnone]; rfl⟩
  · rintro ⟨selected, hselect, rfl⟩
    refine ⟨events, [], selected, (List.append_nil events).symm, hselect, ?_⟩
    cases selected with
    | error e => exact .done _
    | ok x =>
      obtain ⟨-, -, hcompile, hnone⟩ := selects_of_trace hselect
      refine trace_finish_ok.mpr ⟨none, ?_, by rw [← hnone]; rfl⟩
      exact (trace_count_none (countSql_of_compile hcompile)).mpr ⟨rfl, rfl⟩

/-- The runs with a total are those of the first statement, and the count after rows. -/
theorem trace_counting {result : Except QueryError Response} :
    (s.queryTable ctx name table { r with countTotal := true }).Trace events result ↔
      ∃ first selected, (s.selectTable ctx name table r).Trace first selected ∧
        Counts s ctx name table r first (selected.map Selected.response) events result := by
  rw [queryTable_counting]
  refine trace_bind.trans ⟨?_, ?_⟩
  · rintro ⟨first, second, selected, rfl, hselect, hfinish⟩
    refine ⟨first, selected, hselect, ?_⟩
    cases selected with
    | error e =>
      obtain ⟨rfl, rfl⟩ := trace_finish_error.mp hfinish
      rw [List.append_nil]
      exact .refused first e
    | ok x =>
      obtain ⟨hselects, htable, hcompile, hnone⟩ := selects_of_trace hselect
      obtain ⟨total, hcount, rfl⟩ := trace_finish_ok.mp hfinish
      obtain ⟨answer, rfl, rfl⟩ := (trace_count rfl).mp hcount
      subst htable
      have hselects : Selects s ctx name first x.prepared.source (x.prepared.counting r).compiled
        x.connector x.context := hselects
      exact .asked hselects (Prepared.compile_eq_counting hcompile) rfl hnone answer
  · rintro ⟨first, selected, hselect, hcounts⟩
    cases selected with
    | error e =>
      cases hcounts
      exact ⟨events, [], _, (List.append_nil events).symm, hselect, .done _⟩
    | ok x =>
      obtain ⟨hselects, htable, hcompile, -⟩ := selects_of_trace hselect
      subst htable
      -- the calls of the run tell what the count is about
      cases hcounts with
      | asked hselects' hcompile' hsql _ answer =>
        obtain ⟨rfl, rfl, rfl⟩ := hselects.unique hselects'
        obtain rfl := Except.ok.inj ((Prepared.compile_eq_counting hcompile).symm.trans hcompile')
        refine ⟨first, _, .ok x, rfl, hselect, trace_finish_ok.mpr ⟨totalIn answer, ?_, rfl⟩⟩
        exact (trace_count hsql).mpr ⟨answer, rfl, rfl⟩

/-- Whatever the end of a query does, it decides about the total only. -/
theorem exists_run_finish {W : Type} (handler : (c : ServiceCall) → StateM W c.Answer)
    (f : Prepared → Prepared) (selected : Except QueryError Selected) (w : W) :
    ∃ total, (run handler (finish f selected) w).1 =
      selected.map fun x => { x.response with total } := by
  cases selected with
  | error e => exact ⟨none, rfl⟩
  | ok x =>
    refine ⟨(run handler (count x.connector x.context (f x.prepared).compiled) w).1, ?_⟩
    unfold finish
    rw [run_bind]
    rfl

/-- A request that asks for a total runs as it does without, and after rows sends one statement
more, about which only the total tells.  So on surroundings that answer both alike, whatever they
are, the error is the same or the response is the same but for the total. -/
theorem counts_iff (s : Service) (ctx : Context) (name table : String) (r : Request) :
    (∀ events result,
      (s.queryTable ctx name table { r with countTotal := true }).Trace events result ↔
        ∃ first plain,
          (s.queryTable ctx name table { r with countTotal := false }).Trace first plain ∧
          Counts s ctx name table r first plain events result) ∧
    ∀ {W : Type} (handler : (c : ServiceCall) → StateM W c.Answer) (w : W), ∃ total,
      (run handler (s.queryTable ctx name table { r with countTotal := true }) w).1 =
        (run handler (s.queryTable ctx name table { r with countTotal := false }) w).1.map
          fun response => { response with total } := by
  constructor
  · intro events result
    refine trace_counting.trans ⟨?_, ?_⟩
    · rintro ⟨first, selected, hselect, hcounts⟩
      exact ⟨first, _, trace_plain.mpr ⟨selected, hselect, rfl⟩, hcounts⟩
    · rintro ⟨first, plain, hplain, hcounts⟩
      obtain ⟨selected, hselect, rfl⟩ := trace_plain.mp hplain
      exact ⟨first, selected, hselect, hcounts⟩
  · intro W handler w
    rw [queryTable_plain, queryTable_counting, run_bind, run_bind]
    obtain ⟨total, htotal⟩ := exists_run_finish handler (fun p => p.counting r)
      (run handler (s.selectTable ctx name table r) w).1
      (run handler (s.selectTable ctx name table r) w).2
    obtain ⟨plain, hplain⟩ := exists_run_finish handler id
      (run handler (s.selectTable ctx name table r) w).1
      (run handler (s.selectTable ctx name table r) w).2
    refine ⟨total, htotal.trans ?_⟩
    refine Eq.trans ?_ (congrArg _ hplain).symm
    cases (run handler (s.selectTable ctx name table r) w).1 <;> rfl

/-- The first user whose id is above one. -/
def firstAboveOne : Request where
  limit := 1
  filter := [("id", { gt := some (.ofInt64 1) })]

/-- A count that is answered tells the total.  One that fails leaves it open, and the rows are
answered all the same. -/
theorem counts_iff_firstAboveOne :
    ∃ (s : Service) (ctx ctx' : Context) (first : List ((c : ServiceCall) × c.Answer))
      (response : Response) (sql : String) (params : List Json.Value),
      (s.queryTable ctx "main" "users" { firstAboveOne with countTotal := true }).Trace
        (first ++ [⟨.query 1 ctx' sql params, (.ok [[("total", .int 7)]], 2)⟩])
        (.ok { response with total := some 7 }) ∧
      (s.queryTable ctx "main" "users" { firstAboveOne with countTotal := true }).Trace
        (first ++ [⟨.query 1 ctx' sql params, (.error (.timeout 4000), 4000)⟩])
        (.ok { response with total := none }) ∧
      response.rows = [[("id", .int 2)]] ∧
      sql = "SELECT COUNT(1) AS total FROM \"users\" WHERE \"id\" > $1" ∧
      params = [.ofInt64 1] := by
  let source := usersSource "Users.Password"
  let compiled := (Plan.ofRequest "users" firstAboveOne 0).compile
  let ctx : Context := { token := ⟨0, []⟩ }
  let ctx' : Context := { token := ⟨1, [0]⟩ }
  let rows : List Row := [[("id", .int 2), ("password", .text "hunter2")]]
  have hplain : compile "users" firstAboveOne source = .ok compiled :=
    compile_eq_ok.mpr ⟨rfl, rfl, rfl, rfl⟩
  have hcounting : compile "users" { firstAboveOne with countTotal := true } source =
      .ok (compiled.counting "users" firstAboveOne source) :=
    compile_eq_ok.mpr ⟨rfl, rfl, rfl, rfl⟩
  have hrun := trace_queryTable "main" hplain rfl ⟨4000⟩ ctx ctx' 1 rows 3
  have hselects : Selects ⟨4000⟩ ctx "main" _ source
      (compiled.counting "users" firstAboveOne source) 1 ctx' :=
    ⟨[⟨.registry (.inUse source.name), some 1⟩], rows, 3, by simp, rfl⟩
  have hcounted := fun answer => ((counts_iff ⟨4000⟩ ctx "main" "users" firstAboveOne).1 _ _).mpr
    ⟨_, _, hrun, .asked hselects hcounting rfl rfl answer⟩
  refine ⟨⟨4000⟩, ctx, ctx', _, _, _, _, hcounted (.ok [[("total", .int 7)]], 2),
    hcounted (.error (.timeout 4000), 4000), ?_, ?_, ?_⟩ <;> decide +kernel

end Service
end QueryGateway
