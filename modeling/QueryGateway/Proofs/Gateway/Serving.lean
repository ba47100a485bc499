import QueryGateway.Proofs.Gateway.Handling

/-!
# Deliveries over the memory job store

The memory job store never fails: it finds what is there, and changes a record whenever there is
one.  A program that has it to itself goes on from call to call, and may be looked at after any
number of them.

## Main definitions

* `Serves` — the answers of the memory job store to the calls of a delivery.
* `Waits` — the calls at which a program may be cut off.
* `Goes` — how far a program may come when nothing runs beside it.

## Main results

* `Serves.answers` — the memory job store is a job store.
* `not_commits_of_goes` — the record of a job that is over, while a delivery is handled alone.
-/

namespace QueryGateway

open Program GatewayCall

/-- The answers of the memory job store to the calls of a delivery, at some instant of the clock,
and the store afterwards.  A query may have any outcome. -/
inductive Serves : JobStore → (c : GatewayCall) → c.Answer → JobStore → Prop
  | found (store : JobStore) (id : String) : Serves store (.find id) (.ok (store.find? id)) store
  | marked {store store' : JobStore} {id : String} {t : Transition} {job : Job} (now : Instant)
      (h : store.update id (t.update now) = .ok (job, store')) :
      Serves store (.mark id t) (.ok job) store'
  | missing {store : JobStore} {id : String} {t : Transition} {e : JobError} (now : Instant)
      (h : store.update id (t.update now) = .error e) : Serves store (.mark id t) (.error e) store
  | queried (store : JobStore) {ctx : Context} {source table : String} {r : Request}
      (answer : Except QueryError Response × Int64) :
      Serves store (.query ctx source table r) answer store
  | recorded (store : JobStore) (m : Metric) : Serves store (.record m) () store

theorem Serves.answers {store store' : JobStore} {c : GatewayCall} {answer : c.Answer}
    (h : Serves store c answer store') : Answers store c answer store' := by
  cases h with
  | found id => exact .found store id
  | marked _ h => exact .marked h
  | missing => exact .unmarked _ _ _ _
  | queried => exact .queried _ _
  | recorded m => exact .recorded store m

/-- What is found under other ids than that of a call of the store is not changed. -/
theorem Serves.find?_eq_of_ne {store store' : JobStore} {id key : String} {t : Transition}
    {answer : Except JobError Job} (h : Serves store (.mark id t) answer store')
    (hne : key ≠ id) : store'.find? key = store.find? key := by
  cases h with
  | marked _ h => rw [JobStore.find?_of_update h, if_neg hne]
  | missing => rfl

/-- A transition of a job that is not over succeeds, and the job is over afterwards exactly if the
transition ends it. -/
theorem Serves.of_unfinished {store store' : JobStore} {id : String} {t : Transition}
    {answer : Except JobError Job} (h : Serves store (.mark id t) answer store')
    (hjob : store.Unfinished id) :
    (∃ job, answer = .ok job) ∧ (store'.Unfinished id ↔ t.ends = false) := by
  obtain ⟨job, hfind, -⟩ := hjob
  cases h with
  | marked now h =>
    obtain ⟨_, hupdate⟩ := JobStore.update_of_find? hfind (t.update now)
    obtain ⟨rfl, rfl⟩ := Prod.mk.inj (Except.ok.inj (hupdate.symm.trans h))
    have hfound := JobStore.find?_of_update h id
    rw [if_pos rfl] at hfound
    refine ⟨⟨_, rfl⟩, ?_⟩
    rw [JobStore.unfinished_iff hfound, ← t.isTerminal_status_update now]
    rfl
  | missing now h =>
    obtain ⟨_, hupdate⟩ := JobStore.update_of_find? hfind (t.update now)
    exact absurd (hupdate.symm.trans h) nofun

/-- A program may have to wait for the answer to a call, and may then be cut off.  A metric is
recorded at once. -/
def Waits (c : GatewayCall) : Prop := ∀ m, c ≠ .record m

variable {α : Type}

/-- The program comes from one point to another over the memory job store, with nothing beside
it. -/
inductive Goes : JobStore → GatewayProgram α → JobStore → GatewayProgram α → Prop
  | refl (store : JobStore) (program : GatewayProgram α) : Goes store program store program
  | call {store middle store' : JobStore} {c : GatewayCall} {answer : c.Answer}
      {next : c.Answer → GatewayProgram α} {program : GatewayProgram α}
      (h : Serves store c answer middle) (rest : Goes middle (next answer) store' program) :
      Goes store (.call c next) store' program

/-- A program that is over stays where it is. -/
theorem goes_done {store store' : JobStore} {result : α} {program : GatewayProgram α} :
    Goes store (.done result) store' program ↔ store' = store ∧ program = .done result := by
  constructor
  · intro h
    cases h
    exact ⟨rfl, rfl⟩
  · rintro ⟨rfl, rfl⟩
    exact .refl _ _

/-- A program that makes one call and is then over. -/
theorem goes_call_done {store store' : JobStore} {c : GatewayCall} {result result' : α} :
    Goes store (.call c fun _ => .done result) store' (.done result') ↔
      result' = result ∧ ∃ answer, Serves store c answer store' := by
  constructor
  · intro h
    cases h with
    | call h rest =>
      obtain ⟨rfl, hresult⟩ := goes_done.mp rest
      exact ⟨Program.done.inj hresult, _, h⟩
  · rintro ⟨rfl, answer, h⟩
    exact .call h (.refl _ _)

/-- A delivery that is handled alone and has not committed to a change of a job that is over leaves
its record alone. -/
theorem not_commits_of_goes {id : String} {job : Job} (hover : job.status.isTerminal = true)
    {store store' : JobStore} {program program' : GatewayProgram Disposition}
    (h : Goes store program store' program') (hstage : Stage program)
    (hjob : store.find? id = some job) (hnot : ¬Commits id program) :
    store'.find? id = some job ∧ ¬Commits id program' := by
  induction h with
  | refl => exact ⟨hjob, hnot⟩
  | call h _ ih =>
    obtain ⟨hjob', hnot'⟩ := not_commits_of_answers hjob hover hstage hnot h.answers
    exact ih (stage_of_answers hstage h.answers) hjob' hnot'

end QueryGateway
