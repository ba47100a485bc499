import Mathlib.Data.List.Perm.Subperm
import QueryGateway.Postgres.Session
import QueryGateway.Proofs.Postgres.Parameter

/-!
# Sessions that are given up

Queries share the sessions of a pool, and several may be under way at once.  What a query leaves on
its session decides what becomes of it: after a query that is cut short the server is still busy with
the statement, so it is asked to cancel it, once, and no other query has the session from then on.
That a request can only meet the statement it is meant for rests on one invariant: sessions that are
idle or in hand were never asked to cancel anything.

## Main definitions

* `Asked`, `Asked.IsCut` — a query, and that it is cut short in its session.
* `Pool.HandsOut` — what sessions a pool may hand out: any that is idle, or a new one.
* `Traffic`, `Move`, `Traffic.Step`, `Traffic.Run` — queries on a pool, one step at a time.
* `Traffic.Sound` — the invariant.

## Main results

* `Asked.leaves` — how a query leaves its session.
* `Traffic.Sound.step`, `Traffic.Gone.step` — what a step keeps.
* `Traffic.exists_run_query` — a query that nothing comes between is a run.
* `Traffic.cancelled_once` — who is asked to cancel, and that nothing follows.
-/

namespace QueryGateway.Postgres

open Json

/-- The session that the server sees something of. -/
def SessionEvent.session : SessionEvent → Nat
  | .opened session | .refused session _ | .ran session _ _ | .cancelRequested session => session

/-- The query never has a session. -/
def Course.IsOutside : Course → Prop
  | .waiting _ | .unopened _ => True
  | .preparing _ | .running _ _ | .finished _ => False

/-- A query. -/
structure Asked where
  sql : String
  params : List Value
  course : Course

namespace Asked

/-- What the server sees of a query in a session, whether the session may be used again, and the
result. -/
def run (q : Asked) (session : Nat) : List SessionEvent × Bool × Except QueryError (List Row) :=
  Pool.run session q.sql q.params q.course

/-- The query is interrupted while it has a session: while its statement is prepared, or while it
runs, which it does if the values fit their slots. -/
inductive IsCut (q : Asked) : Prop
  | preparing {reason : Interruption} (h : q.course = .preparing reason) : IsCut q
  | running {types : List SqlType} {reason : Interruption} {bound : List (SqlType × Parameter)}
      (h : q.course = .running types reason) (hbound : bindAll types q.params = .ok bound) : IsCut q

end Asked

/-! ### One query in its session -/

theorem exists_error_of_mapM {α β : Type} {f : α → Except QueryError β} {xs : List α}
    {e : QueryError} (h : xs.mapM f = .error e) : ∃ x ∈ xs, f x = .error e := by
  induction xs with
  | nil => cases h
  | cons x xs ih =>
    rw [List.mapM_cons] at h
    cases hx : f x with
    | error e' =>
      rw [hx] at h
      obtain rfl := Except.error.inj h
      exact ⟨x, List.mem_cons_self, hx⟩
    | ok b =>
      cases hxs : xs.mapM f with
      | error e' =>
        rw [hx, hxs] at h
        obtain rfl := Except.error.inj h
        obtain ⟨y, hy, hfy⟩ := ih hxs
        exact ⟨y, List.mem_cons_of_mem _ hy, hfy⟩
      | ok bs =>
        rw [hx, hxs] at h
        cases h

/-- Values that do not fit their slots are no interruption. -/
theorem ne_ofInterruption_of_bindAll {types : List SqlType} {params : List Value} {e : QueryError}
    (h : bindAll types params = .error e) (reason : Interruption) :
    e ≠ .ofInterruption reason 0 := by
  unfold bindAll at h
  split at h
  · obtain ⟨⟨type, v⟩, -, hbind⟩ := exists_error_of_mapM h
    dsimp only at hbind
    cases hp : Parameter.bind v type with
    | ok p =>
      rw [hp] at hbind
      cases hbind
    | error e' =>
      rw [hp] at hbind
      obtain rfl := Except.error.inj hbind
      unfold Parameter.bind at hp
      split at hp
      · cases hp
      split at hp
      · cases hp
      · obtain rfl := Except.error.inj hp
        cases reason <;> nofun
  · obtain rfl := Except.error.inj h
    cases reason <;> nofun

theorem connectionFailed_ne (text : String) (reason : Interruption) :
    QueryError.connectionFailed text ≠ .ofInterruption reason 0 := by
  cases reason <;> nofun

theorem ServerError.queryError_ne (e : ServerError) (reason : Interruption) :
    e.queryError ≠ .ofInterruption reason 0 := by
  unfold queryError
  split <;> cases reason <;> nofun

namespace Asked

/-- How a query leaves its session: it is cut short, and after all else the server is asked once to
cancel; or it ends by itself, and the server is asked nothing. -/
inductive Leaves (q : Asked) (session : Nat) : Prop
  | cut (reason : Interruption) (seen : List SessionEvent) (hcut : q.IsCut)
      (hrun : q.run session =
        (seen ++ [.cancelRequested session], false, .error (.ofInterruption reason 0)))
      (hown : ∀ e ∈ seen, e.session = session)
      (hquiet : ∀ other, .cancelRequested other ∉ seen) : Leaves q session
  | ended (seen : List SessionEvent) (usable : Bool) (result : Except QueryError (List Row))
      (hcut : ¬q.IsCut) (hrun : q.run session = (seen, usable, result))
      (hown : ∀ e ∈ seen, e.session = session)
      (hquiet : ∀ other, .cancelRequested other ∉ seen)
      (hresult : ∀ reason, result ≠ .error (.ofInterruption reason 0)) : Leaves q session

theorem leaves {q : Asked} (h : ¬q.course.IsOutside) (session : Nat) : q.Leaves session := by
  obtain ⟨sql, params, course⟩ := q
  have hran : ∀ bound, ∀ e ∈ [SessionEvent.ran session sql bound], e.session = session := by
    rintro bound _ (_ | ⟨_, ⟨⟩⟩)
    rfl
  have hquiet : ∀ bound other, SessionEvent.cancelRequested other ∉
      [SessionEvent.ran session sql bound] := by
    rintro bound other (_ | ⟨_, ⟨⟩⟩)
  have hfailed : ∀ {e : QueryError}, (∀ reason, e ≠ .ofInterruption reason 0) →
      ∀ reason, (Except.error e : Except QueryError (List Row)) ≠
        .error (.ofInterruption reason 0) := fun he reason heq => he reason (Except.error.inj heq)
  cases course with
  | waiting | unopened => exact absurd trivial h
  | preparing reason => exact .cut reason [] (.preparing rfl) rfl nofun nofun
  | running types reason =>
    cases hbound : bindAll types params with
    | error e =>
      refine .ended [] true _ ?_ ?_ nofun nofun
        (hfailed (ne_ofInterruption_of_bindAll hbound))
      · rintro (⟨⟨⟩⟩ | ⟨⟨⟩, hfits⟩)
        cases hbound.symm.trans hfits
      · simp only [run, Pool.run, hbound]
    | ok bound =>
      refine .cut reason [.ran session sql bound] (.running rfl hbound) ?_
        (hran bound) (hquiet bound)
      simp only [run, Pool.run, hbound, List.cons_append, List.nil_append]
  | finished answer =>
    have hcut : ¬IsCut ⟨sql, params, .finished answer⟩ := by
      rintro (⟨⟨⟩⟩ | ⟨⟨⟩, -⟩)
    cases answer with
    | refused e =>
      refine .ended _ _ _ hcut rfl ?_ ?_ (hfailed e.queryError_ne)
      · rintro _ (_ | ⟨_, ⟨⟩⟩)
        rfl
      · rintro other (_ | ⟨_, ⟨⟩⟩)
    | unreached =>
      exact .ended _ _ _ hcut rfl nofun nofun (hfailed (connectionFailed_ne brokenMessage))
    | prepared types execution =>
      cases hbound : bindAll types params with
      | error e =>
        refine .ended [] true _ hcut ?_ nofun nofun
          (hfailed (ne_ofInterruption_of_bindAll hbound))
        simp only [run, Pool.run, hbound]
      | ok bound =>
        cases execution with
        | answered table =>
          refine .ended [.ran session sql bound] true (.ok (table.rows.map (readRow table.columns)))
            hcut ?_ (hran bound) (hquiet bound) nofun
          simp only [run, Pool.run, hbound]
        | failed e =>
          refine .ended [.ran session sql bound] true _ hcut ?_ (hran bound)
            (hquiet bound) (hfailed e.queryError_ne)
          simp only [run, Pool.run, hbound]
        | lost =>
          refine .ended [.ran session sql bound] false _ hcut ?_ (hran bound)
            (hquiet bound) (hfailed (connectionFailed_ne brokenMessage))
          simp only [run, Pool.run, hbound]

/-- What the server sees of a query is seen of its session. -/
theorem Leaves.own {q : Asked} {session : Nat} (h : q.Leaves session) :
    ∀ e ∈ (q.run session).1, e.session = session := by
  cases h with
  | cut reason seen hcut hrun hown =>
    rw [hrun]
    intro e he
    rcases List.mem_append.mp he with he | he
    · exact hown e he
    · rw [List.mem_singleton.mp he]
      rfl
  | ended seen usable result hcut hrun hown =>
    rw [hrun]
    exact hown

theorem Leaves.of_isCut {q : Asked} {session : Nat} (h : q.Leaves session) (hcut : q.IsCut) :
    (q.run session).2.1 = false ∧ ∃ seen, (q.run session).1 = seen ++ [.cancelRequested session] ∧
      ∀ other, .cancelRequested other ∉ seen := by
  cases h with
  | cut reason seen hcut hrun hown hquiet =>
    rw [hrun]
    exact ⟨rfl, _, rfl, hquiet⟩
  | ended _ _ _ hnot => exact absurd hcut hnot

theorem Leaves.of_not_isCut {q : Asked} {session : Nat} (h : q.Leaves session) (hcut : ¬q.IsCut)
    (other : Nat) : .cancelRequested other ∉ (q.run session).1 := by
  cases h with
  | cut _ _ hcut' => exact absurd hcut' hcut
  | ended seen usable result hcut hrun hown hquiet =>
    rw [hrun]
    exact hquiet other

/-- The caller is told of an interruption just when the query is cut short. -/
theorem Leaves.isCut_iff {q : Asked} {session : Nat} (h : q.Leaves session) :
    q.IsCut ↔ ∃ reason, (q.run session).2.2 = .error (.ofInterruption reason 0) := by
  cases h with
  | cut reason seen hcut hrun => exact iff_of_true hcut ⟨_, congrArg (·.2.2) hrun⟩
  | ended seen usable result hcut hrun hown hquiet hresult =>
    refine iff_of_false hcut ?_
    rintro ⟨reason, hreason⟩
    rw [hrun] at hreason
    exact hresult reason hreason

end Asked

/-! ### Queries on a pool -/

/-- A pool may hand out a session: one that is idle, or a new one.  Other sessions that are idle may
be given up. -/
inductive Pool.HandsOut (pool : Pool) : Nat → Pool → List SessionEvent → Prop
  | idle {session : Nat} {idle : List Nat} (hsession : session ∈ pool.idle)
      (hidle : idle.Sublist (pool.idle.erase session)) :
      HandsOut pool session { pool with idle } []
  | fresh {idle : List Nat} (hidle : idle.Sublist pool.idle) :
      HandsOut pool pool.opened { pool with idle, opened := pool.opened + 1 }
        [.opened pool.opened]

/-- Queries on a pool. -/
structure Traffic where
  pool : Pool
  /-- The sessions that queries have. -/
  busy : List Nat := []
  /-- What the server has seen. -/
  seen : List SessionEvent

/-- What happens on a pool. -/
inductive Move
  /-- A query is over that never had a session. -/
  | missed (q : Asked)
  /-- A query gets a session. -/
  | entered (session : Nat)
  /-- The query that has a session is over. -/
  | left (session : Nat) (q : Asked)
  /-- The pool is closed. -/
  | closed

/-- The session of a move. -/
def Move.session? : Move → Option Nat
  | .entered session | .left session _ => some session
  | .missed _ | .closed => none

namespace Traffic

/-- What a move does. -/
inductive Step (w : Traffic) : Move → Traffic → Prop
  | missed {q : Asked} (h : q.course.IsOutside ∨ w.pool.isClosed = true) :
      Step w (.missed q)
        { w with
          pool := (w.pool.query q.sql q.params q.course).1
          seen := w.seen ++ (w.pool.query q.sql q.params q.course).2.1 }
  | entered {session : Nat} {pool : Pool} {opening : List SessionEvent}
      (hopen : w.pool.isClosed = false) (h : w.pool.HandsOut session pool opening) :
      Step w (.entered session) ⟨pool, session :: w.busy, w.seen ++ opening⟩
  | left {session : Nat} {q : Asked} (hbusy : session ∈ w.busy) (hq : ¬q.course.IsOutside) :
      Step w (.left session q)
        ⟨if (q.run session).2.1 then w.pool.giveBack session else w.pool, w.busy.erase session,
          w.seen ++ (q.run session).1⟩
  | closed : Step w .closed { w with pool := w.pool.close }

/-- Moves one after the other. -/
inductive Run : Traffic → List Move → Traffic → Prop
  | nil (w : Traffic) : Run w [] w
  | cons {w w' w'' : Traffic} {m : Move} {moves : List Move} (hstep : Step w m w')
      (hrun : Run w' moves w'') : Run w (m :: moves) w''

/-- The sessions that are idle or that queries have. -/
def live (w : Traffic) : List Nat := w.pool.idle ++ w.busy

/-- Live sessions are apart, and none was ever asked to cancel anything; only sessions that were
opened were. -/
structure Sound (w : Traffic) : Prop where
  nodup : w.live.Nodup
  opened : ∀ session ∈ w.live, session < w.pool.opened
  quiet : ∀ session ∈ w.live, .cancelRequested session ∉ w.seen
  asked : ∀ session, .cancelRequested session ∈ w.seen → session < w.pool.opened

/-- The session was opened and is given up. -/
structure Gone (session : Nat) (w : Traffic) : Prop where
  not_live : session ∉ w.live
  opened : session < w.pool.opened

/-- What a move adds: the sessions that are opened, and what the server sees. -/
structure Effect (w : Traffic) (m : Move) (w' : Traffic) (new : List Nat)
    (more : List SessionEvent) : Prop where
  new_eq : new = [] ∧ w'.pool.opened = w.pool.opened ∨
    new = [w.pool.opened] ∧ w'.pool.opened = w.pool.opened + 1
  live : w'.live.Subperm (new ++ w.live)
  seen_eq : w'.seen = w.seen ++ more
  own : ∀ e ∈ more, m.session? = some e.session
  session : ∀ session, m.session? = some session → session ∈ new ++ w.live
  cut : ∀ session, .cancelRequested session ∈ more →
    ∃ q, m = .left session q ∧ q.IsCut

section Moves

variable {w w' : Traffic} {m : Move} {session : Nat}

/-- A query that never has a session changes nothing, and the server sees nothing of it. -/
theorem query_of_missed {pool : Pool} {q : Asked}
    (h : q.course.IsOutside ∨ pool.isClosed = true) :
    (pool.query q.sql q.params q.course).1 = pool ∧
      (pool.query q.sql q.params q.course).2.1 = [] := by
  obtain ⟨sql, params, course⟩ := q
  unfold Pool.query
  cases course with
  | waiting reason => exact ⟨rfl, rfl⟩
  | unopened refusal => dsimp only; split <;> exact ⟨rfl, rfl⟩
  | preparing | running | finished =>
    dsimp only
    rw [if_pos (h.resolve_left id)]
    exact ⟨rfl, rfl⟩

theorem eq_of_missed {q : Asked} (h : Step w (.missed q) w') : w' = w := by
  cases h with
  | missed h =>
    obtain ⟨hpool, hseen⟩ := query_of_missed h
    rw [hpool, hseen, List.append_nil]

/-- A session that is given back or given up is no longer in hand. -/
theorem live_subperm_of_left {w : Traffic} (hbusy : session ∈ w.busy) (usable : Bool) :
    ((if usable then w.pool.giveBack session else w.pool).idle ++ w.busy.erase session).Subperm
      w.live := by
  have hlost : (w.pool.idle ++ w.busy.erase session).Subperm w.live :=
    ((List.Sublist.refl _).append List.erase_sublist).subperm
  cases usable with
  | false => exact hlost
  | true =>
    rw [if_pos rfl, Pool.giveBack]
    split
    · exact hlost
    · show ((w.pool.idle ++ [session]) ++ w.busy.erase session).Subperm w.live
      rw [List.append_assoc, List.singleton_append]
      exact ((List.perm_cons_erase hbusy).symm.append_left _).subperm

/-- Every move adds something to what there is. -/
theorem exists_effect (h : Step w m w') : ∃ new more, Effect w m w' new more := by
  cases h with
  | missed hq =>
    obtain ⟨hpool, hseen⟩ := query_of_missed hq
    rw [hpool, hseen]
    exact ⟨[], [], .inl ⟨rfl, rfl⟩, .refl _, rfl, nofun, nofun, nofun⟩
  | entered hopen hpool =>
    cases hpool with
    | idle hsession hidle =>
      refine ⟨[], [], .inl ⟨rfl, rfl⟩, ?_, rfl, nofun, ?_, nofun⟩
      · -- the session moves from the idle ones to those in hand
        show (_ ++ _ :: w.busy).Subperm (w.pool.idle ++ w.busy)
        refine (List.perm_middle.subperm).trans ?_
        refine List.Subperm.trans ?_ ((List.perm_cons_erase hsession).symm.append_right _).subperm
        exact ((hidle.append (List.Sublist.refl _)).cons_cons _).subperm
      · rintro _ ⟨⟩
        exact (List.mem_append_left _ hsession : _ ∈ w.live)
    | fresh hidle =>
      refine ⟨[w.pool.opened], _, .inr ⟨rfl, rfl⟩, ?_, rfl, ?_, ?_, ?_⟩
      · refine (List.perm_middle.subperm).trans ?_
        exact ((hidle.append (List.Sublist.refl _)).cons_cons _).subperm
      · rintro _ (_ | ⟨_, ⟨⟩⟩)
        rfl
      · rintro _ ⟨⟩
        exact List.mem_cons_self
      · rintro _ (_ | ⟨_, ⟨⟩⟩)
  | left hbusy hq =>
    refine ⟨[], _, .inl ⟨?_, ?_⟩, live_subperm_of_left hbusy _, rfl, ?_, ?_, ?_⟩
    · rfl
    · dsimp only
      split
      · unfold Pool.giveBack
        split <;> rfl
      · rfl
    · intro e he
      rw [(Asked.leaves hq _).own e he]
      rfl
    · rintro _ ⟨⟩
      exact (List.mem_append_right _ hbusy : _ ∈ w.live)
    · intro other hother
      obtain rfl : other = _ := (Asked.leaves hq _).own _ hother
      refine ⟨_, rfl, Classical.byContradiction fun hcut => ?_⟩
      exact (Asked.leaves hq _).of_not_isCut hcut _ hother
  | closed =>
    refine ⟨[], [], .inl ⟨rfl, rfl⟩, ?_, (List.append_nil _).symm, nofun, nofun, nofun⟩
    exact ((List.nil_sublist _).append (List.Sublist.refl _)).subperm

/-- A session whose query is cut short is given up; the last that is seen of it is that it is asked
to cancel. -/
theorem gone_of_cut {q : Asked} (hsound : w.Sound) (h : Step w (.left session q) w')
    (hcut : q.IsCut) : Gone session w' ∧
      ∃ before, w'.seen = before ++ [.cancelRequested session] ∧
        .cancelRequested session ∉ before := by
  cases h with
  | left hbusy hq =>
    obtain ⟨husable, seen, hseen, hquiet⟩ := (Asked.leaves hq session).of_isCut hcut
    have hlive : session ∈ w.live := List.mem_append_right _ hbusy
    obtain ⟨-, hbusy', hapart⟩ := List.nodup_append.mp hsound.nodup
    rw [husable, hseen]
    refine ⟨⟨?_, hsound.opened session hlive⟩, w.seen ++ seen, (List.append_assoc ..).symm, ?_⟩
    · intro hmem
      rcases List.mem_append.mp hmem with hidle | hmem
      · exact hapart session hidle session hbusy rfl
      · exact hbusy'.not_mem_erase hmem
    · intro hmem
      rcases List.mem_append.mp hmem with hmem | hmem
      · exact hsound.quiet session hlive hmem
      · exact hquiet session hmem

/-- Every move keeps the invariant. -/
theorem Sound.step (hsound : w.Sound) (h : Step w m w') : w'.Sound := by
  obtain ⟨new, more, heffect⟩ := exists_effect h
  have hgrows : ∀ {other}, other < w.pool.opened → other < w'.pool.opened := by
    intro other hother
    rcases heffect.new_eq with ⟨-, hopened⟩ | ⟨-, hopened⟩ <;> omega
  have hmem : ∀ {other}, other ∈ w'.live → other ∈ w.live ∨
      other = w.pool.opened ∧ w'.pool.opened = w.pool.opened + 1 := by
    intro other hother
    rcases List.mem_append.mp (heffect.live.subset hother) with hnew | hlive
    · rcases heffect.new_eq with ⟨rfl, -⟩ | ⟨rfl, hopened⟩
      · cases hnew
      · exact .inr ⟨List.mem_singleton.mp hnew, hopened⟩
    · exact .inl hlive
  -- a session that is asked to cancel was in hand, and is given up
  have hcut : ∀ {other}, .cancelRequested other ∈ more →
      other ∈ w.live ∧ Gone other w' := by
    intro other hother
    obtain ⟨q, rfl, hcut⟩ := heffect.cut other hother
    cases h with
    | left hbusy hq =>
      exact ⟨List.mem_append_right _ hbusy, (gone_of_cut hsound (.left hbusy hq) hcut).1⟩
  constructor
  case nodup =>
    obtain ⟨live, hperm, hsub⟩ := heffect.live
    refine hperm.nodup_iff.mp (hsub.nodup ?_)
    rcases heffect.new_eq with ⟨rfl, -⟩ | ⟨rfl, -⟩
    · exact hsound.nodup
    · exact List.nodup_cons.mpr
        ⟨fun hlive => Nat.lt_irrefl _ (hsound.opened _ hlive), hsound.nodup⟩
  case opened =>
    intro other hother
    rcases hmem hother with hlive | ⟨rfl, hopened⟩
    · exact hgrows (hsound.opened other hlive)
    · omega
  case quiet =>
    intro other hother hasked
    rw [heffect.seen_eq] at hasked
    rcases List.mem_append.mp hasked with hasked | hasked
    · rcases hmem hother with hlive | ⟨rfl, -⟩
      · exact hsound.quiet other hlive hasked
      · exact Nat.lt_irrefl _ (hsound.asked _ hasked)
    · exact (hcut hasked).2.not_live hother
  case asked =>
    intro other hasked
    rw [heffect.seen_eq] at hasked
    rcases List.mem_append.mp hasked with hasked | hasked
    · exact hgrows (hsound.asked other hasked)
    · exact hgrows (hsound.opened other (hcut hasked).1)

/-- Nothing is done in a session that is given up, and nothing more is seen of it. -/
theorem Gone.step (hgone : Gone session w) (h : Step w m w') : Gone session w' ∧
    m.session? ≠ some session ∧
      ∃ more, w'.seen = w.seen ++ more ∧ ∀ e ∈ more, e.session ≠ session := by
  obtain ⟨new, more, heffect⟩ := exists_effect h
  have hnot : session ∉ new ++ w.live := by
    intro hmem
    rcases List.mem_append.mp hmem with hnew | hlive
    · rcases heffect.new_eq with ⟨rfl, -⟩ | ⟨rfl, -⟩
      · cases hnew
      · exact Nat.ne_of_lt hgone.opened (List.mem_singleton.mp hnew)
    · exact hgone.not_live hlive
  have hother : m.session? ≠ some session := fun hm => hnot (heffect.session session hm)
  refine ⟨⟨fun hlive => hnot (heffect.live.subset hlive), ?_⟩, hother, more, heffect.seen_eq, ?_⟩
  · have := hgone.opened
    rcases heffect.new_eq with ⟨-, hopened⟩ | ⟨-, hopened⟩ <;> omega
  · rintro e he rfl
    exact hother (heffect.own e he)

end Moves

/-! ### Runs -/

section Runs

variable {w w' : Traffic} {moves : List Move} {session : Nat}

theorem Run.exists_of_append {past rest : List Move} (h : Run w (past ++ rest) w') :
    ∃ between, Run w past between ∧ Run between rest w' := by
  induction past generalizing w with
  | nil => exact ⟨w, .nil w, h⟩
  | cons m past ih =>
    cases h with
    | cons hstep hrun =>
      obtain ⟨between, hpast, hrest⟩ := ih hrun
      exact ⟨between, .cons hstep hpast, hrest⟩

theorem Sound.run (hsound : w.Sound) (h : Run w moves w') : w'.Sound := by
  induction h with
  | nil => exact hsound
  | cons hstep _ ih => exact ih (hsound.step hstep)

theorem Gone.run (hgone : Gone session w) (h : Run w moves w') :
    (∀ m ∈ moves, m.session? ≠ some session) ∧
      ∃ more, w'.seen = w.seen ++ more ∧ ∀ e ∈ more, e.session ≠ session := by
  induction h with
  | nil => exact ⟨nofun, [], (List.append_nil _).symm, nofun⟩
  | cons hstep _ ih =>
    obtain ⟨hgone, hm, first, hfirst, hfirst'⟩ := hgone.step hstep
    obtain ⟨hmoves, more, hmore, hmore'⟩ := ih hgone
    refine ⟨List.forall_mem_cons.mpr ⟨hm, hmoves⟩, first ++ more, ?_, ?_⟩
    · rw [hmore, hfirst, List.append_assoc]
    · intro e he
      exact (List.mem_append.mp he).elim (hfirst' e) (hmore' e)

/-- Who is asked to cancel was asked before, or a query in its session was cut short. -/
theorem Run.exists_cut (h : Run w moves w') (hasked : .cancelRequested session ∈ w'.seen) :
    .cancelRequested session ∈ w.seen ∨ ∃ q, .left session q ∈ moves ∧ q.IsCut := by
  induction h with
  | nil => exact .inl hasked
  | cons hstep _ ih =>
    rcases ih hasked with hasked | ⟨q, hq, hcut⟩
    · obtain ⟨new, more, heffect⟩ := exists_effect hstep
      rw [heffect.seen_eq] at hasked
      rcases List.mem_append.mp hasked with hasked | hasked
      · exact .inl hasked
      · obtain ⟨q, rfl, hcut⟩ := heffect.cut session hasked
        exact .inr ⟨q, List.mem_cons_self, hcut⟩
    · exact .inr ⟨q, List.mem_cons_of_mem _ hq, hcut⟩

/-- The pool hands out the session that has been idle longest, or a new one. -/
theorem handsOut_take (pool : Pool) :
    pool.HandsOut pool.take.1 pool.take.2.1 pool.take.2.2 := by
  obtain ⟨idle, opened, isClosed⟩ := pool
  cases idle with
  | nil => exact .fresh (.refl _)
  | cons session idle =>
    refine .idle List.mem_cons_self ?_
    show idle.Sublist ((session :: idle).erase session)
    rw [List.erase_cons_head]

/-- A query that nothing comes between is over without a session, or gets one and leaves it. -/
theorem exists_run_query (w : Traffic) (q : Asked) : ∃ moves,
    Run w moves { w with
      pool := (w.pool.query q.sql q.params q.course).1
      seen := w.seen ++ (w.pool.query q.sql q.params q.course).2.1 } ∧
    (moves = [.missed q] ∧ (q.course.IsOutside ∨ w.pool.isClosed = true) ∨
      ∃ session, moves = [.entered session, .left session q] ∧
        (w.pool.query q.sql q.params q.course).2.2 = (q.run session).2.2) := by
  by_cases h : q.course.IsOutside ∨ w.pool.isClosed = true
  · exact ⟨[.missed q], .cons (.missed h) (.nil _), .inl ⟨rfl, h⟩⟩
  · obtain ⟨hq, hopen⟩ := not_or.mp h
    have hopen : w.pool.isClosed = false := Bool.eq_false_iff.mpr hopen
    have hquery : w.pool.query q.sql q.params q.course =
        (if (q.run w.pool.take.1).2.1 then w.pool.take.2.1.giveBack w.pool.take.1
          else w.pool.take.2.1, w.pool.take.2.2 ++ (q.run w.pool.take.1).1,
          (q.run w.pool.take.1).2.2) := by
      obtain ⟨sql, params, course⟩ := q
      unfold Pool.query Asked.run
      cases course with
      | waiting | unopened => exact absurd trivial hq
      | preparing | running | finished =>
        dsimp only
        rw [hopen]
        rfl
    refine ⟨[.entered w.pool.take.1, .left w.pool.take.1 q], ?_,
      .inr ⟨_, rfl, congrArg (·.2.2) hquery⟩⟩
    refine .cons (.entered hopen (handsOut_take w.pool)) ?_
    have hleft := Step.left (w := ⟨w.pool.take.2.1, w.pool.take.1 :: w.busy,
      w.seen ++ w.pool.take.2.2⟩) (q := q) List.mem_cons_self hq
    rw [hquery, ← List.append_assoc]
    dsimp only at hleft
    rw [List.erase_cons_head] at hleft
    exact .cons hleft (.nil _)

theorem eq_of_connect {c : Connection} {unreachable : Option String} {pool : Pool}
    {opening : List SessionEvent} (h : Pool.connect c unreachable = .ok (pool, opening)) :
    pool = { idle := [0], opened := 1 } ∧ opening = [.opened 0] := by
  unfold Pool.connect at h
  cases hmode : SslMode.ofText c.sslMode with
  | error e =>
    rw [hmode] at h
    cases h
  | ok mode =>
    rw [hmode] at h
    cases unreachable with
    | some reason => cases h
    | none =>
      cases mode with
      | require => cases h
      | disable | prefer =>
        cases h
        exact ⟨rfl, rfl⟩

/-- A pool starts with one session, of which nothing was asked. -/
theorem sound_start : Sound { pool := { idle := [0], opened := 1 }, seen := [.opened 0] } where
  nodup := by decide
  opened := by decide
  quiet := by
    rintro session - (_ | ⟨_, ⟨⟩⟩)
  asked := by
    rintro session (_ | ⟨_, ⟨⟩⟩)

/-- What becomes of the sessions of a pool when queries share them. -/
structure CancelledOnce (moves : List Move) (w : Traffic) : Prop where
  /-- The session of a query that is cut short is asked to cancel once; nothing else is done in it
  afterwards, and nothing more is seen of it. -/
  cut : ∀ past session q rest, moves = past ++ .left session q :: rest → q.IsCut →
    (∀ m ∈ rest, m.session? ≠ some session) ∧
      ∃ before after, w.seen = before ++ .cancelRequested session :: after ∧
        .cancelRequested session ∉ before ∧ ∀ e ∈ after, e.session ≠ session
  /-- A query that ends by itself asks for nothing to be cancelled. -/
  ended : ∀ session q, .left session q ∈ moves → ¬q.IsCut →
    ∀ other, .cancelRequested other ∉ (q.run session).1
  /-- The caller of a query that had a session is told of an interruption just when it is cut
  short. -/
  told : ∀ session q, .left session q ∈ moves →
    (q.IsCut ↔ ∃ reason, (q.run session).2.2 = .error (.ofInterruption reason 0))
  /-- A session is asked to cancel only if a query in it is cut short. -/
  asked : ∀ session, .cancelRequested session ∈ w.seen →
    ∃ q, .left session q ∈ moves ∧ q.IsCut
  /-- A query that is over before it has a session changes nothing, and nothing is seen of it. -/
  missed : ∀ q w', Step w (.missed q) w' → w' = w

theorem Run.not_isOutside {q : Asked} (h : Run w moves w') (hmem : .left session q ∈ moves) :
    ¬q.course.IsOutside := by
  induction h with
  | nil => cases hmem
  | cons hstep _ ih =>
    rcases List.mem_cons.mp hmem with rfl | hmem
    · cases hstep with
      | left _ hq => exact hq
    · exact ih hmem

/-- However queries share the sessions of a pool, a session whose query is cut short is asked to
cancel exactly once and never used again; other sessions are asked nothing, and a query that is over
before it has a session leaves all sessions alone.  A query that nothing comes between is such a
run. -/
theorem cancelled_once {c : Connection} {unreachable : Option String} {pool : Pool}
    {opening : List SessionEvent} (hconnect : Pool.connect c unreachable = .ok (pool, opening))
    (h : Run { pool, seen := opening } moves w) :
    CancelledOnce moves w ∧ ∀ q : Asked, ∃ more,
      Run w more { w with
        pool := (w.pool.query q.sql q.params q.course).1
        seen := w.seen ++ (w.pool.query q.sql q.params q.course).2.1 } ∧
      (more = [.missed q] ∧ (q.course.IsOutside ∨ w.pool.isClosed = true) ∨
        ∃ session, more = [.entered session, .left session q] ∧
          (w.pool.query q.sql q.params q.course).2.2 = (q.run session).2.2) := by
  obtain ⟨rfl, rfl⟩ := eq_of_connect hconnect
  refine ⟨?_, exists_run_query w⟩
  constructor
  case cut =>
    rintro past session q rest rfl hcut
    obtain ⟨before, hpast, hrest⟩ := h.exists_of_append
    cases hrest with
    | cons hleft hrest =>
      obtain ⟨hgone, first, hfirst, hquiet⟩ := gone_of_cut (sound_start.run hpast) hleft hcut
      obtain ⟨hmoves, more, hmore, hother⟩ := hgone.run hrest
      refine ⟨hmoves, first, more, ?_, hquiet, hother⟩
      rw [hmore, hfirst, List.append_assoc]
      rfl
  case ended =>
    intro session q hmem hcut
    exact (Asked.leaves (h.not_isOutside hmem) session).of_not_isCut hcut
  case told =>
    exact fun session q hmem => (Asked.leaves (h.not_isOutside hmem) session).isCut_iff
  case asked =>
    intro session hasked
    refine (h.exists_cut hasked).resolve_left ?_
    rintro (_ | ⟨_, ⟨⟩⟩)
  case missed => exact fun q w' hmissed => eq_of_missed hmissed

/-- A query that is cut short while its statement runs. -/
def slowQuery : Asked := ⟨"SELECT 1", [], .running [] .deadlineExceeded⟩

/-- A query that ends by itself. -/
def quickQuery : Asked := ⟨"SELECT 2", [], .finished (.prepared [] (.answered {}))⟩

/-- A query that is interrupted while it waits for a session. -/
def lateQuery : Asked := ⟨"SELECT 3", [], .waiting .cancelled⟩

/-- Two queries share a pool, and one of them is cut short; the other's session is used again. -/
def sharedMoves : List Move :=
  [.entered 0, .entered 1, .left 0 slowQuery, .missed lateQuery, .left 1 quickQuery, .entered 1]

/-- The session of the query that was cut short is asked to cancel, and is not used again. -/
theorem cancelled_once_shared :
    Pool.connect {} none = .ok ({ idle := [0], opened := 1 }, [.opened 0]) ∧
      ∃ w, Run { pool := { idle := [0], opened := 1 }, seen := [.opened 0] } sharedMoves w ∧
        CancelledOnce sharedMoves w := by
  have hconnect : Pool.connect {} none = .ok ({ idle := [0], opened := 1 }, [.opened 0]) := by
    decide
  have hrun : ∃ w, Run { pool := { idle := [0], opened := 1 }, seen := [.opened 0] } sharedMoves
      w :=
    ⟨_, .cons (.entered rfl (handsOut_take _)) <| .cons (.entered rfl (handsOut_take _)) <|
      .cons (.left (by decide) id) <| .cons (.missed (.inl trivial)) <|
      .cons (.left (by decide) id) <| .cons (.entered rfl (handsOut_take _)) <| .nil _⟩
  obtain ⟨w, hrun⟩ := hrun
  exact ⟨hconnect, w, hrun, (cancelled_once hconnect hrun).1⟩

end Runs

end Traffic

end QueryGateway.Postgres
