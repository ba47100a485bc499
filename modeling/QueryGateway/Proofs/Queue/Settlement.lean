import Mathlib.Data.List.Induction
import Mathlib.Data.List.Perm.Subperm
import QueryGateway.Proofs.Queue.Consumer

/-!
# Every delivery is settled once

A consumer holds a slot for each delivery in hand and for the one it waits for, so no more are in
hand than there are slots.  What happens to one delivery is seen in the events of its task: it is
settled as its handler said, or, once the handler overran its time and was told so, by the number of
the attempt; only a handler that breaks down leaves it unsettled.  A loop that has stopped listening
takes nothing more, and the consumer ends when nothing is in hand.

## Main definitions

* `Consumer.deliveries`, `Consumer.course`, `Consumer.inHand` — what the events of a run say of the
  deliveries.
* `Consumer.WholeCourse`, `Consumer.Progress` — the events of a task that is over, and of one that
  is not.
* `Consumer.Attended` — the state of a consumer agrees with the events so far.

## Main results

* `Consumer.Run.attended` — it does after every run.
* `Consumer.Run.exists_wholeCourse` — a delivery in hand can always be settled.
* `Consumer.settled_once` — what becomes of the deliveries of a run.
-/

namespace QueryGateway

/-! ### What events say of the deliveries -/

namespace ConsumerEvent

/-- The task that the event is of. -/
def ticket? : ConsumerEvent → Option Nat
  | .handled ticket _ | .overran ticket | .noted ticket _ | .settled ticket _ | .broke ticket =>
    some ticket
  | .slotTaken | .received _ | .streamClosed | .receiveFailed | .pauseOver | .cancelSeen | .ended =>
    none

/-- The delivery that is taken. -/
def delivery? : ConsumerEvent → Option Delivery
  | .received d => some d
  | .slotTaken | .streamClosed | .receiveFailed | .pauseOver | .cancelSeen | .ended
  | .handled _ _ | .overran _ | .noted _ _ | .settled _ _ | .broke _ => none

/-- The task is over with the event. -/
def isEnd : ConsumerEvent → Bool
  | .settled _ _ | .broke _ => true
  | .slotTaken | .received _ | .streamClosed | .receiveFailed | .pauseOver | .cancelSeen | .ended
  | .handled _ _ | .overran _ | .noted _ _ => false

theorem delivery?_of_ticket? {e : ConsumerEvent} {ticket : Nat} (h : e.ticket? = some ticket) :
    e.delivery? = none := by
  cases e with
  | received d => cases h
  | _ => rfl

theorem of_isOfLoop {e : ConsumerEvent} (h : e.isOfLoop = true) :
    e.ticket? = none ∧ e.delivery? = none := by
  cases e with
  | received | handled | overran | noted | settled | broke => cases h
  | slotTaken | streamClosed | receiveFailed | pauseOver | cancelSeen | ended => exact ⟨rfl, rfl⟩

end ConsumerEvent

namespace Consumer

/-- The deliveries that were taken; the ticket of a task is the place of its delivery. -/
def deliveries (events : List ConsumerEvent) : List Delivery :=
  events.filterMap ConsumerEvent.delivery?

/-- The events of a task. -/
def course (ticket : Nat) (events : List ConsumerEvent) : List ConsumerEvent :=
  events.filter (·.ticket? = some ticket)

/-- The tickets of the deliveries that were taken and whose task is not over. -/
def inHand (events : List ConsumerEvent) : List Nat :=
  (List.range (deliveries events).length).filter fun ticket =>
    !(course ticket events).any ConsumerEvent.isEnd

theorem deliveries_concat (events : List ConsumerEvent) (e : ConsumerEvent) :
    deliveries (events ++ [e]) = deliveries events ++ e.delivery?.toList := by
  unfold deliveries
  rw [List.filterMap_append]
  cases h : e.delivery? <;> simp [h]

theorem course_concat (ticket : Nat) (events : List ConsumerEvent) (e : ConsumerEvent) :
    course ticket (events ++ [e]) =
      course ticket events ++ if e.ticket? = some ticket then [e] else [] := by
  unfold course
  rw [List.filter_append]
  by_cases h : e.ticket? = some ticket <;> simp [h]

theorem course_append_of_forall {ticket : Nat} {more : List ConsumerEvent}
    (h : ∀ e ∈ more, e.ticket? = some ticket) (events : List ConsumerEvent) :
    course ticket (events ++ more) = course ticket events ++ more := by
  unfold course
  rw [List.filter_append, List.filter_eq_self.mpr fun e he => decide_eq_true (h e he)]

theorem mem_inHand {ticket : Nat} {events : List ConsumerEvent} : ticket ∈ inHand events ↔
    ticket < (deliveries events).length ∧
      (course ticket events).any ConsumerEvent.isEnd = false := by
  simp [inHand]

/-! ### The course of a task -/

/-- The events of a task that is over. -/
inductive WholeCourse (o : ConsumerOptions) (ticket : Nat) (d : Delivery) :
    List ConsumerEvent → Prop
  | inTime (x : Disposition) : WholeCourse o ticket d [.handled ticket x, .settled ticket x]
  | late : WholeCourse o ticket d [.overran ticket, .noted ticket (o.backstop d.attempt),
      .settled ticket (o.backstop d.attempt)]
  | broke : WholeCourse o ticket d [.broke ticket]
  /-- The handler breaks down when it is told that it overran its time. -/
  | brokeLate : WholeCourse o ticket d [.overran ticket, .broke ticket]

/-- The events of a task that has come to a stage. -/
inductive Progress (o : ConsumerOptions) (ticket : Nat) (d : Delivery) :
    TaskStage → List ConsumerEvent → Prop
  | handling : Progress o ticket d .handling []
  | noting : Progress o ticket d (.noting (o.backstop d.attempt)) [.overran ticket]
  | inTime (x : Disposition) : Progress o ticket d (.settling x) [.handled ticket x]
  | late : Progress o ticket d (.settling (o.backstop d.attempt))
      [.overran ticket, .noted ticket (o.backstop d.attempt)]

section Course

variable {o : ConsumerOptions} {ticket : Nat} {d : Delivery} {stage : TaskStage}
  {past : List ConsumerEvent}

theorem WholeCourse.any_isEnd (h : WholeCourse o ticket d past) :
    past.any ConsumerEvent.isEnd = true := by
  cases h <;> rfl

theorem Progress.any_isEnd (h : Progress o ticket d stage past) :
    past.any ConsumerEvent.isEnd = false := by
  cases h <;> rfl

theorem Progress.handled (h : Progress o ticket d .handling past) (x : Disposition) :
    Progress o ticket d (.settling x) (past ++ [.handled ticket x]) := by
  cases h
  exact .inTime x

theorem Progress.overran (h : Progress o ticket d .handling past) :
    Progress o ticket d (.noting (o.backstop d.attempt)) (past ++ [.overran ticket]) := by
  cases h
  exact .noting

theorem Progress.noted {x : Disposition} (h : Progress o ticket d (.noting x) past) :
    Progress o ticket d (.settling x) (past ++ [.noted ticket x]) := by
  cases h
  exact .late

theorem Progress.settled {x : Disposition} (h : Progress o ticket d (.settling x) past) :
    WholeCourse o ticket d (past ++ [.settled ticket x]) := by
  cases h with
  | inTime => exact .inTime x
  | late => exact .late

theorem Progress.broke (h : Progress o ticket d stage past)
    (hstage : stage = .handling ∨ ∃ x, stage = .noting x) :
    WholeCourse o ticket d (past ++ [.broke ticket]) := by
  cases h with
  | handling => exact .broke
  | noting => exact .brokeLate
  | inTime | late =>
    rcases hstage with hstage | ⟨x, hstage⟩ <;> cases hstage

end Course

/-! ### The tasks after a step -/

variable {o : ConsumerOptions} {c c' : Consumer} {ticket : Nat} {e : ConsumerEvent}
  {events : List ConsumerEvent}

theorem task?_take_of_ne {d : Delivery} (hne : ticket ≠ c.taken) :
    (c.take d).task? ticket = c.task? ticket := by
  simp [task?, take, hne.symm]

theorem task?_take_self {d : Delivery} (hnew : c.task? c.taken = none) :
    (c.take d).task? c.taken = some { ticket := c.taken, delivery := d } := by
  unfold task? take at *
  rw [List.find?_append, hnew]
  simp

theorem task?_advance_of_ne {other : Nat} {stage : TaskStage} (hne : other ≠ ticket) :
    (c.advance ticket stage).task? other = c.task? other := by
  unfold task? advance
  induction c.tasks with
  | nil => rfl
  | cons t tasks ih =>
    rw [List.map_cons, List.find?_cons, List.find?_cons, ih]
    by_cases h : t.ticket = ticket
    · simp [h, hne.symm]
    · rw [if_neg h]

theorem task?_advance_self {t : Task} {stage : TaskStage} (h : c.task? ticket = some t) :
    (c.advance ticket stage).task? ticket = some { t with stage } := by
  unfold task? advance at *
  rw [List.find?_map]
  have hsame : ((fun t : Task => decide (t.ticket = ticket)) ∘
      fun t : Task => if t.ticket = ticket then { t with stage } else t) =
      fun t => decide (t.ticket = ticket) := by
    funext t
    by_cases h : t.ticket = ticket <;> simp [h]
  have hticket : t.ticket = ticket := by simpa using List.find?_some h
  rw [hsame, h, Option.map_some, if_pos hticket]

theorem task?_endTask_of_ne {other : Nat} (hne : other ≠ ticket) :
    (c.endTask ticket).task? other = c.task? other := by
  unfold task? endTask
  rw [List.find?_filter]
  congr 1
  funext t
  by_cases h : t.ticket = other <;> simp [h, hne]

theorem task?_endTask_self : (c.endTask ticket).task? ticket = none := by
  simp [task?, endTask]

/-! ### The state of a consumer agrees with the events -/

/-- Whether the loop holds a slot for a delivery that is still to come. -/
def reserved (c : Consumer) : Nat :=
  match c.phase with
  | .receiving | .pausing => 1
  | .seeking | .leaving | .over => 0

/-- The loop takes a slot only if there is one. -/
theorem slots_of_loop (he : e.isOfLoop = true) (h : c.step? o e = some c')
    (hslots : c.tasks.length + c.reserved ≤ o.slots) :
    c'.tasks.length + c'.reserved ≤ o.slots := by
  cases loopStep_of_step? he h with
  | slotTaken _ hfree => exact hfree
  | receiveFailed hphase =>
    unfold reserved at hslots
    rw [hphase] at hslots
    exact hslots
  | streamClosed | pauseOver | cancelSeen | ended =>
    -- the loop gives its slot back
    exact Nat.le_trans (Nat.le_add_right _ _) hslots

/-- The task of a delivery, or the lack of one, agrees with the events of it. -/
def Accounts (o : ConsumerOptions) (c : Consumer) (ticket : Nat) (d : Delivery)
    (past : List ConsumerEvent) : Prop :=
  match c.task? ticket with
  | some t => t.delivery = d ∧ Progress o ticket d t.stage past
  | none => WholeCourse o ticket d past

/-- The state of a consumer agrees with the events so far. -/
structure Attended (o : ConsumerOptions) (events : List ConsumerEvent) (c : Consumer) : Prop where
  taken : c.taken = (deliveries events).length
  accounts : ∀ ticket d, (deliveries events)[ticket]? = some d →
    Accounts o c ticket d (course ticket events)
  beyond : ∀ ticket, (deliveries events).length ≤ ticket →
    c.task? ticket = none ∧ course ticket events = []
  slots : c.tasks.length + c.reserved ≤ o.slots

namespace Attended

theorem start : Attended o [] {} where
  taken := rfl
  accounts := nofun
  beyond _ _ := ⟨rfl, rfl⟩
  slots := Nat.zero_le _

/-- A delivery is taken into the slot that the loop holds. -/
theorem take (h : Attended o events c) {d : Delivery} (hphase : c.phase = .receiving) :
    Attended o (events ++ [.received d]) (c.take d) := by
  have hdeliveries : deliveries (events ++ [.received d]) = deliveries events ++ [d] :=
    deliveries_concat _ _
  have hcourse : ∀ ticket, course ticket (events ++ [.received d]) = course ticket events :=
    fun ticket => (course_concat ticket _ _).trans (List.append_nil _)
  have hlength : (deliveries (events ++ [.received d])).length = c.taken + 1 := by
    rw [hdeliveries, List.length_append, h.taken, List.length_singleton]
  obtain ⟨hnew, hnothing⟩ := h.beyond c.taken (Nat.le_of_eq h.taken.symm)
  refine ⟨hlength.symm, fun ticket d' hd' => ?_, fun ticket hbeyond => ?_, ?_⟩
  · rw [hcourse]
    by_cases hticket : ticket = c.taken
    · subst hticket
      rw [hdeliveries, h.taken, List.getElem?_concat_length] at hd'
      obtain rfl := Option.some.inj hd'
      unfold Accounts
      rw [task?_take_self hnew, hnothing]
      exact ⟨rfl, .handling⟩
    · have hlt : ticket < (deliveries events).length := by
        have := (List.getElem?_eq_some_iff.mp hd').1
        have := h.taken
        omega
      rw [hdeliveries, List.getElem?_append_left hlt] at hd'
      unfold Accounts
      rw [task?_take_of_ne hticket]
      exact h.accounts ticket d' hd'
  · rw [hlength] at hbeyond
    rw [hcourse, task?_take_of_ne (by omega)]
    exact h.beyond ticket (h.taken ▸ by omega)
  · have hslots := h.slots
    unfold reserved at hslots
    rw [hphase] at hslots
    simpa [Consumer.take, reserved] using hslots

/-- An event of one task leaves the other tasks alone. -/
theorem of_ticket (h : Attended o events c) {t : Task} (he : e.ticket? = some ticket)
    (htask : c.task? ticket = some t) (htaken : c'.taken = c.taken)
    (hothers : ∀ other ≠ ticket, c'.task? other = c.task? other)
    (hslots : c'.tasks.length + c'.reserved ≤ c.tasks.length + c.reserved)
    (haccounts : ∀ past, Progress o ticket t.delivery t.stage past →
      Accounts o c' ticket t.delivery (past ++ [e])) : Attended o (events ++ [e]) c' := by
  have hdeliveries : deliveries (events ++ [e]) = deliveries events := by
    rw [deliveries_concat, e.delivery?_of_ticket? he, Option.toList_none, List.append_nil]
  have hcourse : ∀ other ≠ ticket, course other (events ++ [e]) = course other events := by
    intro other hne
    rw [course_concat, if_neg (by simpa [he] using hne.symm), List.append_nil]
  constructor
  · rw [hdeliveries, htaken, h.taken]
  · intro other d hd
    rw [hdeliveries] at hd
    have hold := h.accounts other d hd
    by_cases hother : other = ticket
    · subst hother
      unfold Accounts at hold
      rw [htask] at hold
      obtain ⟨rfl, hprogress⟩ := hold
      rw [course_concat, if_pos he]
      exact haccounts _ hprogress
    · unfold Accounts at hold ⊢
      rw [hothers other hother, hcourse other hother]
      exact hold
  · intro other hbeyond
    rw [hdeliveries] at hbeyond
    obtain ⟨hnone, hnothing⟩ := h.beyond other hbeyond
    have hne : other ≠ ticket := by
      rintro rfl
      rw [htask] at hnone
      cases hnone
    rw [hothers other hne, hcourse other hne]
    exact ⟨hnone, hnothing⟩
  · exact Nat.le_trans hslots h.slots

theorem advance (h : Attended o events c) {t : Task} {stage : TaskStage}
    (he : e.ticket? = some ticket) (htask : c.task? ticket = some t)
    (hprogress : ∀ past, Progress o ticket t.delivery t.stage past →
      Progress o ticket t.delivery stage (past ++ [e])) :
    Attended o (events ++ [e]) (c.advance ticket stage) := by
  refine h.of_ticket he htask rfl (fun other hne => task?_advance_of_ne hne) ?_ fun past hpast => ?_
  · exact Nat.add_le_add_right (Nat.le_of_eq (List.length_map _)) _
  · unfold Accounts
    rw [task?_advance_self htask]
    exact ⟨rfl, hprogress past hpast⟩

theorem endTask (h : Attended o events c) {t : Task} (he : e.ticket? = some ticket)
    (htask : c.task? ticket = some t)
    (hwhole : ∀ past, Progress o ticket t.delivery t.stage past →
      WholeCourse o ticket t.delivery (past ++ [e])) :
    Attended o (events ++ [e]) (c.endTask ticket) := by
  refine h.of_ticket he htask rfl (fun other hne => task?_endTask_of_ne hne) ?_ fun past hpast => ?_
  · exact Nat.add_le_add_right (List.length_filter_le _ _) _
  · unfold Accounts
    rw [task?_endTask_self]
    exact hwhole past hpast

/-- The loop leaves the tasks alone, and takes a slot only if there is one. -/
theorem of_loop (h : Attended o events c) (he : e.isOfLoop = true)
    (hstep : c.step? o e = some c') : Attended o (events ++ [e]) c' := by
  obtain ⟨htasks, htaken⟩ := tasks_of_loop he hstep
  obtain ⟨hticket, hdelivery⟩ := ConsumerEvent.of_isOfLoop he
  have hdeliveries : deliveries (events ++ [e]) = deliveries events := by
    rw [deliveries_concat, hdelivery, Option.toList_none, List.append_nil]
  have hcourse : ∀ ticket, course ticket (events ++ [e]) = course ticket events := by
    intro ticket
    rw [course_concat, hticket, if_neg nofun, List.append_nil]
  have htask : ∀ ticket, c'.task? ticket = c.task? ticket := by
    intro ticket
    unfold task?
    rw [htasks]
  refine ⟨?_, fun ticket d hd => ?_, fun ticket hbeyond => ?_, ?_⟩
  · rw [hdeliveries, htaken, h.taken]
  · rw [hdeliveries] at hd
    unfold Accounts
    rw [htask, hcourse]
    exact h.accounts ticket d hd
  · rw [hdeliveries] at hbeyond
    rw [htask, hcourse]
    exact h.beyond ticket hbeyond
  · exact slots_of_loop he hstep h.slots

end Attended

/-- The state of a consumer agrees with the events of its run. -/
theorem Run.attended (h : Run o events c) : Attended o events c := by
  induction h with
  | start => exact .start
  | @next events c c' e _ hstep ih =>
    cases e with
    | received d =>
      obtain ⟨hphase, rfl⟩ := of_received hstep
      exact ih.take hphase
    | handled ticket x =>
      obtain ⟨t, htask, hstage, rfl⟩ := exists_of_handled hstep
      exact ih.advance rfl htask fun past hpast => (hstage ▸ hpast).handled x
    | overran ticket =>
      obtain ⟨t, htask, hstage, rfl⟩ := exists_of_overran hstep
      exact ih.advance rfl htask fun past hpast => (hstage ▸ hpast).overran
    | noted ticket x =>
      obtain ⟨t, htask, hstage, rfl⟩ := exists_of_noted hstep
      exact ih.advance rfl htask fun past hpast => (hstage ▸ hpast).noted
    | settled ticket x =>
      obtain ⟨t, htask, hstage, rfl⟩ := exists_of_settled hstep
      exact ih.endTask rfl htask fun past hpast => (hstage ▸ hpast).settled
    | broke ticket =>
      obtain ⟨t, htask, hstage, rfl⟩ := exists_of_broke hstep
      exact ih.endTask rfl htask fun past hpast => hpast.broke hstage
    | slotTaken | streamClosed | receiveFailed | pauseOver | cancelSeen | ended =>
      exact ih.of_loop rfl hstep

namespace Attended

/-- The deliveries in hand are those that have a task. -/
theorem mem_inHand_iff (h : Attended o events c) :
    ticket ∈ inHand events ↔ ∃ t, c.task? ticket = some t := by
  rw [mem_inHand]
  by_cases hlt : ticket < (deliveries events).length
  · have haccounts := h.accounts ticket _ (List.getElem?_eq_getElem hlt)
    unfold Accounts at haccounts
    cases htask : c.task? ticket with
    | none =>
      rw [htask] at haccounts
      simp [haccounts.any_isEnd]
    | some t =>
      rw [htask] at haccounts
      simp [hlt, haccounts.2.any_isEnd]
  · simp [hlt, (h.beyond ticket (Nat.le_of_not_lt hlt)).1]

theorem length_inHand_le (h : Attended o events c) : (inHand events).length ≤ c.tasks.length := by
  have hnodup : (inHand events).Nodup := List.nodup_range.filter _
  have hsubset : inHand events ⊆ c.tasks.map Task.ticket := by
    intro ticket hmem
    obtain ⟨t, htask⟩ := h.mem_inHand_iff.mp hmem
    obtain ⟨htasks, rfl⟩ := mem_tasks_of_task? htask
    exact List.mem_map_of_mem htasks
  calc (inHand events).length
      ≤ (c.tasks.map Task.ticket).length := (hnodup.subperm hsubset).length_le
    _ = c.tasks.length := List.length_map _

end Attended

/-! ### Deliveries in hand can be settled -/

theorem Run.append {c' : Consumer} {more : List ConsumerEvent} (h : Run o events c)
    (hmore : more.foldlM (step? o) c = some c') : Run o (events ++ more) c' := by
  induction more generalizing events c with
  | nil =>
    obtain rfl := Option.some.inj hmore
    rwa [List.append_nil]
  | cons e more ih =>
    rw [List.foldlM_cons] at hmore
    obtain ⟨middle, hstep, hmore⟩ := Option.bind_eq_some_iff.mp hmore
    rw [List.append_cons]
    exact ih (h.next hstep) hmore

/-- A run goes through the state after its first events. -/
theorem Run.exists_of_append {more : List ConsumerEvent} (h : Run o (events ++ more) c) :
    ∃ middle, Run o events middle ∧ more.foldlM (step? o) middle = some c := by
  induction more using List.reverseRecOn generalizing c with
  | nil => exact ⟨c, by simpa using h, rfl⟩
  | append_singleton more last ih =>
    rw [← List.append_assoc] at h
    generalize hall : events ++ more ++ [last] = all at h
    cases h with
    | start => simp at hall
    | next hrun hstep =>
      obtain ⟨rfl, rfl⟩ := List.append_singleton_inj.mp hall
      obtain ⟨middle, hmiddle, hmore⟩ := ih hrun
      refine ⟨middle, hmiddle, ?_⟩
      rw [List.foldlM_append, hmore, Option.bind_eq_bind, Option.bind_some]
      simpa using hstep

theorem step?_settled {t : Task} {x : Disposition} (htask : c.task? ticket = some t)
    (hstage : t.stage = .settling x) :
    c.step? o (.settled ticket x) = some (c.endTask ticket) := by
  obtain ⟨_, _, _⟩ := t
  cases hstage
  unfold step?
  simp [htask]

theorem step?_noted {t : Task} {x : Disposition} (htask : c.task? ticket = some t)
    (hstage : t.stage = .noting x) :
    c.step? o (.noted ticket x) = some (c.advance ticket (.settling x)) := by
  obtain ⟨_, _, _⟩ := t
  cases hstage
  unfold step?
  simp [htask]

theorem step?_handled {t : Task} {x : Disposition} (htask : c.task? ticket = some t)
    (hstage : t.stage = .handling) :
    c.step? o (.handled ticket x) = some (c.advance ticket (.settling x)) := by
  obtain ⟨_, _, _⟩ := t
  cases hstage
  unfold step?
  simp [htask]

/-- The delivery of a task can be settled by events of its own, whatever its stage. -/
theorem exists_foldlM_of_task? (o : ConsumerOptions) {t : Task} (htask : c.task? ticket = some t) :
    ∃ (more : List ConsumerEvent) (x : Disposition) (c' : Consumer),
      (more ++ [ConsumerEvent.settled ticket x]).foldlM (step? o) c = some c' ∧
      c'.task? ticket = none ∧
      ∀ e ∈ more ++ [ConsumerEvent.settled ticket x], e.ticket? = some ticket := by
  have settle : ∀ {c : Consumer} {t : Task} (x : Disposition), c.task? ticket = some t →
      t.stage = .settling x → ∃ c', [ConsumerEvent.settled ticket x].foldlM (step? o) c = some c' ∧
        c'.task? ticket = none := by
    intro c t x htask hstage
    refine ⟨c.endTask ticket, ?_, task?_endTask_self⟩
    rw [List.foldlM_cons, step?_settled htask hstage]
    rfl
  cases hstage : t.stage with
  | settling x =>
    obtain ⟨c', hsettled, hnone⟩ := settle x htask hstage
    exact ⟨[], x, c', hsettled, hnone, by simp [ConsumerEvent.ticket?]⟩
  | noting x =>
    obtain ⟨c', hsettled, hnone⟩ := settle x (task?_advance_self htask) rfl
    refine ⟨[.noted ticket x], x, c', ?_, hnone, by simp [ConsumerEvent.ticket?]⟩
    rw [List.singleton_append, List.foldlM_cons, step?_noted htask hstage]
    exact hsettled
  | handling =>
    obtain ⟨c', hsettled, hnone⟩ := settle .ack (task?_advance_self htask) rfl
    refine ⟨[.handled ticket .ack], .ack, c', ?_, hnone, by simp [ConsumerEvent.ticket?]⟩
    rw [List.singleton_append, List.foldlM_cons, step?_handled htask hstage]
    exact hsettled

/-- A delivery in hand can be settled, by events of its own task. -/
theorem Run.exists_wholeCourse (h : Run o events c) {d : Delivery}
    (hd : (deliveries events)[ticket]? = some d) (hhand : ticket ∈ inHand events) :
    ∃ more x c', Run o (events ++ (more ++ [.settled ticket x])) c' ∧
      WholeCourse o ticket d (course ticket events ++ (more ++ [.settled ticket x])) := by
  obtain ⟨t, htask⟩ := h.attended.mem_inHand_iff.mp hhand
  obtain ⟨more, x, c', hmore, hnone, hticket⟩ := exists_foldlM_of_task? o htask
  have hrun := h.append hmore
  have hd' : (deliveries (events ++ (more ++ [.settled ticket x])))[ticket]? = some d := by
    unfold deliveries at hd ⊢
    rw [List.filterMap_append, List.getElem?_append_left (List.getElem?_eq_some_iff.mp hd).1, hd]
  have haccounts := hrun.attended.accounts ticket d hd'
  unfold Accounts at haccounts
  rw [hnone, course_append_of_forall hticket] at haccounts
  exact ⟨more, x, c', hrun, haccounts⟩

/-! ### The loop stops listening -/

theorem LoopStep.isListening (h : LoopStep o c e c') (hdeaf : c.isListening = false) :
    c'.isListening = false := by
  cases h with
  | streamClosed | cancelSeen | ended => rfl
  | slotTaken hphase | receiveFailed hphase | pauseOver hphase =>
    rw [Consumer.isListening, hphase] at hdeaf
    cases hdeaf

/-- A loop that does not listen takes nothing and does not listen again. -/
theorem isListening_of_step? (h : c.step? o e = some c') (hdeaf : c.isListening = false) :
    c'.isListening = false ∧ e.delivery? = none := by
  cases e with
  | received d =>
    rw [isListening, (of_received h).1] at hdeaf
    cases hdeaf
  | handled ticket x =>
    obtain ⟨t, -, -, rfl⟩ := exists_of_handled h
    exact ⟨hdeaf, rfl⟩
  | overran ticket =>
    obtain ⟨t, -, -, rfl⟩ := exists_of_overran h
    exact ⟨hdeaf, rfl⟩
  | noted ticket x =>
    obtain ⟨t, -, -, rfl⟩ := exists_of_noted h
    exact ⟨hdeaf, rfl⟩
  | settled ticket x =>
    obtain ⟨t, -, -, rfl⟩ := exists_of_settled h
    exact ⟨hdeaf, rfl⟩
  | broke ticket =>
    obtain ⟨t, -, -, rfl⟩ := exists_of_broke h
    exact ⟨hdeaf, rfl⟩
  | slotTaken | streamClosed | receiveFailed | pauseOver | cancelSeen | ended =>
    exact ⟨(loopStep_of_step? rfl h).isListening hdeaf, rfl⟩

/-- A loop that is cancelled or whose queue is closed stops listening. -/
theorem isListening_of_stop (hstop : e = .cancelSeen ∨ e = .streamClosed)
    (h : c.step? o e = some c') : c'.isListening = false := by
  rcases hstop with rfl | rfl
  · cases loopStep_of_step? rfl h
    rfl
  · cases loopStep_of_step? rfl h
    rfl

theorem deliveries_eq_nil_of_deaf {more : List ConsumerEvent} (hdeaf : c.isListening = false)
    (h : more.foldlM (step? o) c = some c') : deliveries more = [] := by
  induction more generalizing c with
  | nil => rfl
  | cons e more ih =>
    rw [List.foldlM_cons] at h
    obtain ⟨middle, hstep, hmore⟩ := Option.bind_eq_some_iff.mp h
    obtain ⟨hdeaf', hnone⟩ := isListening_of_step? hstep hdeaf
    exact (List.filterMap_cons_none hnone).trans (ih hdeaf' hmore)

/-- Once the loop is cancelled or its queue is closed, nothing more is taken. -/
theorem Run.deliveries_eq_nil_of_stop {earlier later : List ConsumerEvent}
    (h : Run o (earlier ++ e :: later) c) (hstop : e = .cancelSeen ∨ e = .streamClosed) :
    deliveries later = [] := by
  obtain ⟨middle, -, hmore⟩ := h.exists_of_append
  rw [List.foldlM_cons] at hmore
  obtain ⟨stopped, hstep, hlater⟩ := Option.bind_eq_some_iff.mp hmore
  exact deliveries_eq_nil_of_deaf (isListening_of_stop hstop hstep) hlater

/-- Nothing happens to a consumer that has ended. -/
theorem step?_enter_over (htasks : c.tasks = []) : (c.enter .over).step? o e = none := by
  cases e <;> simp [step?, task?, isListening, enter, htasks]

/-- A consumer ends when it has no tasks, and then nothing happens. -/
theorem Run.over_of_ended {earlier later : List ConsumerEvent}
    (h : Run o (earlier ++ .ended :: later) c) : later = [] ∧ c.tasks = [] := by
  obtain ⟨middle, -, hmore⟩ := h.exists_of_append
  rw [List.foldlM_cons] at hmore
  obtain ⟨ended, hstep, hlater⟩ := Option.bind_eq_some_iff.mp hmore
  cases loopStep_of_step? rfl hstep with
  | ended _ htasks =>
  cases later with
  | nil =>
    obtain rfl := Option.some.inj hlater
    exact ⟨rfl, htasks⟩
  | cons e later =>
    rw [List.foldlM_cons, step?_enter_over htasks] at hlater
    cases hlater

/-- What becomes of the deliveries of a run, whatever happens and in whatever order.  No more of
them are in hand than allowed.  Each is settled once, as its handler said, or by the number of its
attempt after its handler was told so, unless its handler broke down; one that is in hand can still
be settled.  Once the loop is cancelled, or its queue closed, nothing more is taken, and
the consumer ends when nothing is in hand. -/
theorem settled_once (h : Run o events c) :
    (inHand events).length ≤ max 1 o.maxInFlight ∧
      (∀ ticket d, (deliveries events)[ticket]? = some d →
        if ticket ∈ inHand events then
          ∃ more x c', Run o (events ++ (more ++ [.settled ticket x])) c' ∧
            WholeCourse o ticket d (course ticket events ++ (more ++ [.settled ticket x]))
        else WholeCourse o ticket d (course ticket events)) ∧
      (∀ ticket, (deliveries events).length ≤ ticket → course ticket events = []) ∧
      (∀ earlier e later, events = earlier ++ e :: later → e = .cancelSeen ∨ e = .streamClosed →
        deliveries later = []) ∧
      ∀ earlier later, events = earlier ++ .ended :: later → later = [] ∧ inHand events = [] := by
  have hattended := h.attended
  refine ⟨?_, fun ticket d hd => ?_, fun ticket hbeyond => (hattended.beyond ticket hbeyond).2,
    ?_, ?_⟩
  · calc (inHand events).length
        ≤ c.tasks.length := hattended.length_inHand_le
      _ ≤ c.tasks.length + c.reserved := Nat.le_add_right _ _
      _ ≤ max 1 o.maxInFlight := hattended.slots
  · split
    · next hhand => exact h.exists_wholeCourse hd hhand
    · next hover =>
      have haccounts := hattended.accounts ticket d hd
      unfold Accounts at haccounts
      cases htask : c.task? ticket with
      | none =>
        rw [htask] at haccounts
        exact haccounts
      | some t => exact absurd (hattended.mem_inHand_iff.mpr ⟨t, htask⟩) hover
  · rintro earlier e later rfl hstop
    exact h.deliveries_eq_nil_of_stop hstop
  · rintro earlier later rfl
    obtain ⟨hlater, htasks⟩ := h.over_of_ended
    refine ⟨hlater, List.eq_nil_of_length_eq_zero (Nat.le_zero.mp ?_)⟩
    rw [← List.length_eq_zero_iff.mpr htasks]
    exact hattended.length_inHand_le

/-- Two deliveries are in hand at once: one is answered in time, the other overruns its time on its
last attempt.  A third one is lost, and the loop is cancelled while the second is not yet
settled. -/
theorem settled_once_cancelled : ∃ (o : ConsumerOptions) (events : List ConsumerEvent)
    (c : Consumer), Run o events c ∧ .ended ∈ events ∧ inHand events = [] ∧
      deliveries events = [⟨[1], 1⟩, ⟨[2], 3⟩, ⟨[3], 1⟩] ∧
      WholeCourse o 0 ⟨[1], 1⟩ (course 0 events) ∧ .handled 0 .requeue ∈ course 0 events ∧
      WholeCourse o 1 ⟨[2], 3⟩ (course 1 events) ∧ .noted 1 .reject ∈ course 1 events ∧
      WholeCourse o 2 ⟨[3], 1⟩ (course 2 events) ∧ .broke 2 ∈ course 2 events := by
  let earlier : List ConsumerEvent := [.slotTaken, .received ⟨[1], 1⟩, .slotTaken,
    .received ⟨[2], 3⟩, .overran 1, .handled 0 .requeue, .settled 0 .requeue, .slotTaken,
    .received ⟨[3], 1⟩, .broke 2, .noted 1 .reject, .cancelSeen, .settled 1 .reject]
  have hrun : Run { maxInFlight := 2, maxAttempts := 3 } (earlier ++ [.ended])
      { phase := .over, taken := 3 } := Run.start.append rfl
  obtain ⟨-, hcourse, -, -, hended⟩ := settled_once hrun
  have hover := (hended earlier [] rfl).2
  have hwhole := fun ticket d hd => (if_neg (hover ▸ List.not_mem_nil)).mp (hcourse ticket d hd)
  exact ⟨_, _, _, hrun, by simp, hover, rfl, hwhole 0 _ rfl, by decide, hwhole 1 _ rfl, by decide,
    hwhole 2 _ rfl, by decide⟩

end Consumer
end QueryGateway
