import QueryGateway.Queue.Consumer

/-!
# What a consumer does in one step

An event either takes a delivery, moves a task on, ends a task, or concerns the loop alone.

## Main definitions

* `ConsumerEvent.isOfLoop` — the events that concern the loop alone.
* `Consumer.LoopStep` — what such an event does.

## Main results

* `Consumer.of_received` — how a delivery is taken.
* `Consumer.exists_of_handled`, `Consumer.exists_of_overran`, `Consumer.exists_of_noted`,
  `Consumer.exists_of_settled`, `Consumer.exists_of_broke` — what an event of a task does.
* `Consumer.loopStep_of_step?` — what an event of the loop does.
* `Consumer.tasks_of_loop` — the loop leaves the tasks alone.
-/

namespace QueryGateway

/-- The event concerns the loop and no task. -/
def ConsumerEvent.isOfLoop : ConsumerEvent → Bool
  | .slotTaken | .streamClosed | .receiveFailed | .pauseOver | .cancelSeen | .ended => true
  | .received _ | .handled _ _ | .overran _ | .noted _ _ | .settled _ _ | .broke _ => false

namespace Consumer

variable {o : ConsumerOptions} {c c' : Consumer} {ticket : Nat}

/-- A task that is found is in hand. -/
theorem mem_tasks_of_task? {t : Task} (h : c.task? ticket = some t) :
    t ∈ c.tasks ∧ t.ticket = ticket := by
  unfold task? at h
  exact ⟨List.mem_of_find?_eq_some h, by simpa using List.find?_some h⟩

/-- What happens under a condition happens only then. -/
theorem of_guard {p : Prop} [Decidable p] (h : (if p then some c else none) = some c') :
    p ∧ c = c' := by
  obtain ⟨hp, hsome⟩ := Option.ite_none_right_eq_some.mp h
  exact ⟨hp, Option.some.inj hsome⟩

theorem of_received {d : Delivery} (h : c.step? o (.received d) = some c') :
    c.phase = .receiving ∧ c' = c.take d := by
  obtain ⟨hphase, rfl⟩ := of_guard h
  exact ⟨hphase, rfl⟩

theorem exists_of_handled {d : Disposition} (h : c.step? o (.handled ticket d) = some c') : ∃ t,
    c.task? ticket = some t ∧ t.stage = .handling ∧ c' = c.advance ticket (.settling d) := by
  unfold step? at h
  dsimp only at h
  split at h
  · next t htask => exact ⟨_, htask, rfl, (Option.some.inj h).symm⟩
  · cases h

theorem exists_of_overran (h : c.step? o (.overran ticket) = some c') : ∃ t,
    c.task? ticket = some t ∧ t.stage = .handling ∧
      c' = c.advance ticket (.noting (o.backstop t.delivery.attempt)) := by
  unfold step? at h
  dsimp only at h
  split at h
  · next t htask => exact ⟨_, htask, rfl, (Option.some.inj h).symm⟩
  · cases h

theorem exists_of_noted {d : Disposition} (h : c.step? o (.noted ticket d) = some c') : ∃ t,
    c.task? ticket = some t ∧ t.stage = .noting d ∧ c' = c.advance ticket (.settling d) := by
  unfold step? at h
  dsimp only at h
  split at h
  · next t htask =>
    split at h
    · next hd =>
      subst hd
      exact ⟨_, htask, rfl, (Option.some.inj h).symm⟩
    · cases h
  · cases h

theorem exists_of_settled {d : Disposition} (h : c.step? o (.settled ticket d) = some c') : ∃ t,
    c.task? ticket = some t ∧ t.stage = .settling d ∧ c' = c.endTask ticket := by
  unfold step? at h
  dsimp only at h
  split at h
  · next t htask =>
    split at h
    · next hd =>
      subst hd
      exact ⟨_, htask, rfl, (Option.some.inj h).symm⟩
    · cases h
  · cases h

theorem exists_of_broke (h : c.step? o (.broke ticket) = some c') : ∃ t,
    c.task? ticket = some t ∧ (t.stage = .handling ∨ ∃ d, t.stage = .noting d) ∧
      c' = c.endTask ticket := by
  unfold step? at h
  dsimp only at h
  split at h
  · next t htask => exact ⟨_, htask, Or.inl rfl, (Option.some.inj h).symm⟩
  · next t d htask => exact ⟨_, htask, Or.inr ⟨d, rfl⟩, (Option.some.inj h).symm⟩
  · cases h

/-- What an event of the loop does, and when it may happen. -/
inductive LoopStep (o : ConsumerOptions) (c : Consumer) : ConsumerEvent → Consumer → Prop
  | slotTaken (hphase : c.phase = .seeking) (hfree : c.tasks.length < o.slots) :
      LoopStep o c .slotTaken (c.enter .receiving)
  | streamClosed (hphase : c.phase = .receiving) : LoopStep o c .streamClosed (c.enter .leaving)
  | receiveFailed (hphase : c.phase = .receiving) : LoopStep o c .receiveFailed (c.enter .pausing)
  | pauseOver (hphase : c.phase = .pausing) :
      LoopStep o c .pauseOver { c with phase := .seeking, pause := nextPause c.pause }
  | cancelSeen (hlistening : c.isListening = true) : LoopStep o c .cancelSeen (c.enter .leaving)
  | ended (hphase : c.phase = .leaving) (htasks : c.tasks = []) :
      LoopStep o c .ended (c.enter .over)

theorem loopStep_of_step? {e : ConsumerEvent} (he : e.isOfLoop = true)
    (h : c.step? o e = some c') : LoopStep o c e c' := by
  cases e with
  | received | handled | overran | noted | settled | broke => cases he
  | slotTaken =>
    obtain ⟨⟨hphase, hfree⟩, rfl⟩ := of_guard h
    exact .slotTaken hphase hfree
  | streamClosed =>
    obtain ⟨hphase, rfl⟩ := of_guard h
    exact .streamClosed hphase
  | receiveFailed =>
    obtain ⟨hphase, rfl⟩ := of_guard h
    exact .receiveFailed hphase
  | pauseOver =>
    obtain ⟨hphase, rfl⟩ := of_guard h
    exact .pauseOver hphase
  | cancelSeen =>
    obtain ⟨hlistening, rfl⟩ := of_guard h
    exact .cancelSeen hlistening
  | ended =>
    obtain ⟨⟨hphase, htasks⟩, rfl⟩ := of_guard h
    exact .ended hphase htasks

/-- The loop leaves the tasks alone. -/
theorem tasks_of_loop {e : ConsumerEvent} (he : e.isOfLoop = true) (h : c.step? o e = some c') :
    c'.tasks = c.tasks ∧ c'.taken = c.taken := by
  cases loopStep_of_step? he h <;> exact ⟨rfl, rfl⟩

/-- A task that moves on keeps its delivery. -/
theorem mem_tasks_advance {stage : TaskStage} {t : Task}
    (h : t ∈ (c.advance ticket stage).tasks) : ∃ t' ∈ c.tasks, t'.ticket = t.ticket ∧
      t'.delivery = t.delivery ∧ t.stage = if t.ticket = ticket then stage else t'.stage := by
  obtain ⟨t', hmem, rfl⟩ := List.mem_map.mp h
  refine ⟨t', hmem, ?_⟩
  by_cases hticket : t'.ticket = ticket <;> simp [hticket]

/-- A task that is left when another one has ended. -/
theorem mem_tasks_endTask {t : Task} : t ∈ (c.endTask ticket).tasks ↔
    t ∈ c.tasks ∧ t.ticket ≠ ticket := by
  unfold endTask
  rw [List.mem_filter, decide_eq_true_iff]

end Consumer
end QueryGateway
