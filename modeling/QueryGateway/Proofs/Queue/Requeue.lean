import QueryGateway.Proofs.Queue.Receiving

/-!
# Messages that are tried again

A message is pushed when it is published and once more each time it is put back.  Every time it is
in an envelope of the same id, time and body, and only the number of the attempt counts up; so
whoever receives it gets the bytes that were published, however often it was tried.

## Main definitions

* `Envelope.after` — the envelope of a later attempt.
* `Sent` — the texts that are pushed for a message.
* `RedisQueue.retry` — a message is put back a number of times.
* `AttemptedAs` — what the text of an attempt is like.

## Main results

* `sent_iff` — for every attempt one text is pushed.
* `RedisQueue.run_publish_retry` — a message that waits alone comes back as often as it is put back.
* `attempts_and_strays` — what is received of envelopes, and what becomes of everything else.
-/

namespace QueryGateway

open Function (update)
open Program

/-! ### Later attempts -/

namespace Envelope

variable {e : Envelope} {body : Bytes}

/-- The envelope for a later attempt. -/
def after (e : Envelope) (j : Nat) : Envelope := { e with attempt := e.attempt + UInt32.ofNat j }

theorem after_zero (e : Envelope) : e.after 0 = e := by
  simp [after]

theorem next_after (e : Envelope) (j : Nat) : (e.after j).next = e.after (j + 1) := by
  simp [after, next, UInt32.ofNat_add, UInt32.add_assoc]

theorem after_next (e : Envelope) (j : Nat) : e.next.after j = e.after (j + 1) := by
  simp [after, next, UInt32.ofNat_add, UInt32.add_assoc, UInt32.add_comm]

theorem Carries.after (h : e.Carries body) (j : Nat) : (e.after j).Carries body :=
  ⟨h.payload, h.publishedAt⟩

/-- Attempts are counted from one. -/
theorem toNat_attempt_after_wrap (id : String) (now : Instant) (body : Bytes) {j : Nat}
    (hj : 1 + j < UInt32.size) : ((wrap id now body).after j).attempt.toNat = 1 + j := by
  show (1 + UInt32.ofNat j).toNat = 1 + j
  rw [UInt32.toNat_add, UInt32.toNat_ofNat_of_lt' (Nat.lt_of_add_left_lt hj)]
  exact Nat.mod_eq_of_lt hj

end Envelope

/-- An attempt that is counted from one is told as it is. -/
theorem Delivery.make_eq {body : Bytes} {attempt : UInt32} (h : 0 < attempt.toNat) :
    make body attempt = ⟨body, attempt⟩ := by
  have hne : attempt ≠ 0 := by
    rintro rfl
    exact Nat.lt_irrefl 0 h
  rw [make, if_neg hne]

/-! ### What is pushed -/

namespace RedisQueue

variable {q : RedisQueue} {events : ListEvents} {result : Except QueueError Unit}

/-- A program of a single command. -/
theorem trace_command {c : ListCommand} {failure : String → QueueError} :
    Trace (do return (← command c failure).map fun _ => () : ListProgram (Except QueueError Unit))
        events result ↔
      ∃ reply, events = [⟨c, reply⟩] ∧ result = (reply.mapError failure).map fun _ => () := by
  refine trace_command_bind.trans (exists_congr fun reply => ?_)
  constructor
  · rintro ⟨rest, rfl, h⟩
    obtain ⟨rfl, rfl⟩ := trace_done.mp h
    exact ⟨rfl, rfl⟩
  · rintro ⟨rfl, rfl⟩
    exact ⟨[], rfl, .done _⟩

/-- Publishing pushes one text. -/
theorem trace_publish {id : String} {now : Instant} {body : Bytes} :
    (q.publish id now body).Trace events result ↔
      ∃ reply, events = [⟨.push q.queue (Envelope.wrap id now body).encode, reply⟩] ∧
        result = (reply.mapError .publish).map fun _ => () :=
  trace_command

/-- Putting back pushes the envelope of the next attempt. -/
theorem trace_requeue {text : Bytes} {e : Envelope} {body : Bytes}
    (h : Envelope.decode? text = some (e, body)) :
    (q.settle text .requeue).Trace events result ↔
      ∃ reply, events = [⟨.replace q.processingKey text q.queue e.next.encode, reply⟩] ∧
        result =
          (reply.mapError fun reason => .settle ("requeue: " ++ reason)).map fun _ => () := by
  unfold settle
  dsimp only
  rw [h]
  exact trace_command

end RedisQueue

/-- The texts that are pushed for a message: one when it is published, and one each time a consumer
puts back what was handed out to it.  The server may answer anything. -/
inductive Sent (queue id : String) (now : Instant) (body : Bytes) : Nat → Bytes → Prop
  | published {c : String} {events : ListEvents} {result : Except QueueError Unit} {text : Bytes}
      {reply : ListReply}
      (publishes : (RedisQueue.publish ⟨queue, c⟩ id now body).Trace events result)
      (pushes : ⟨.push queue text, reply⟩ ∈ events) : Sent queue id now body 0 text
  | requeued {j : Nat} {text text' : Bytes} {c : String} {n : Nat} {received settled : ListEvents}
      {d : RedisDelivery} {result : Except QueueError Unit} {reply : ListReply}
      (sent : Sent queue id now body j text)
      (receives : (RedisQueue.receive ⟨queue, c⟩ n).Trace received (.ok (.handed d)))
      (hands : d.text = text)
      (settles : (RedisQueue.settle ⟨queue, c⟩ d.text .requeue).Trace settled result)
      (pushes :
        ⟨.replace (RedisQueue.processingKey ⟨queue, c⟩) d.text queue text', reply⟩ ∈ settled) :
      Sent queue id now body (j + 1) text'

namespace Sent

variable {queue id : String} {now : Instant} {body : Bytes} {j : Nat} {text : Bytes}

theorem of_wrap : Sent queue id now body 0 (Envelope.wrap id now body).encode :=
  .published (RedisQueue.trace_publish.mpr ⟨.ok none, rfl, rfl⟩ :
    (RedisQueue.publish ⟨queue, ""⟩ id now body).Trace _ _) (List.mem_singleton_self _)

/-- What was pushed can be received and put back. -/
theorem next {e : Envelope} {body' : Bytes} (h : Sent queue id now body j text)
    (hdecode : Envelope.decode? text = some (e, body')) :
    Sent queue id now body (j + 1) e.next.encode :=
  .requeued h
    (RedisQueue.trace_receive.mpr (.handed hdecode) : (RedisQueue.receive ⟨queue, ""⟩ 1).Trace _ _)
    rfl ((RedisQueue.trace_requeue hdecode).mpr ⟨.ok none, rfl, rfl⟩) (List.mem_singleton_self _)

/-- Every attempt can come. -/
theorem of_after (hnow : now.WellFormed) (j : Nat) :
    Sent queue id now body j ((Envelope.wrap id now body).after j).encode := by
  induction j with
  | zero =>
    rw [Envelope.after_zero]
    exact .of_wrap
  | succ j ih =>
    rw [← Envelope.next_after]
    exact ih.next (Envelope.decode?_encode ((Envelope.carries_wrap id hnow body).after j))

end Sent

/-- For each attempt one text is pushed, that of its envelope. -/
theorem sent_iff {queue id : String} {now : Instant} {body : Bytes} (hnow : now.WellFormed)
    {j : Nat} {text : Bytes} :
    Sent queue id now body j text ↔ text = ((Envelope.wrap id now body).after j).encode := by
  have hcarries := (Envelope.carries_wrap id hnow body).after
  constructor
  · intro h
    induction h with
    | published publishes pushes =>
      obtain ⟨reply, rfl, -⟩ := RedisQueue.trace_publish.mp publishes
      have heq := (Sigma.mk.inj (List.mem_singleton.mp pushes)).1
      rw [Envelope.after_zero]
      exact (ListCommand.push.inj heq).2
    | @requeued j text text' c n received settled d result reply _ _ hands settles pushes ih =>
      subst hands
      have hdecode := ih ▸ Envelope.decode?_encode (hcarries j)
      obtain ⟨reply, rfl, -⟩ := (RedisQueue.trace_requeue hdecode).mp settles
      have heq := (Sigma.mk.inj (List.mem_singleton.mp pushes)).1
      rw [← Envelope.next_after]
      exact (ListCommand.replace.inj heq).2.2.2
  · intro htext
    rw [htext]
    exact .of_after hnow j

/-! ### A message alone -/

namespace RedisQueue

variable {queue c : String} {lists : ListStore} {text : Bytes} {e : Envelope} {body : Bytes}

/-- Receives a message and puts it back, a number of times, and receives it once more. -/
def retry (q : RedisQueue) (n : Nat) : Nat → ListProgram (Except QueueError Awaited)
  | 0 => q.receive n
  | j + 1 => do
    match ← q.receive n with
    | .ok (.handed d) =>
      match ← q.settle d.text .requeue with
      | .ok () => q.retry n j
      | .error e => return .error e
    | result => return result

/-- Publishing adds the first envelope at the head of the queue. -/
theorem run_publish (q : RedisQueue) (id : String) (now : Instant) (body : Bytes)
    (lists : ListStore) : ListProgram.run (q.publish id now body) ⟨lists, []⟩ =
      (.ok (), ⟨(lists.run (.push q.queue (Envelope.wrap id now body).encode)).2, []⟩) := rfl

/-- Putting back adds the next envelope at the head of the queue. -/
theorem run_requeue (hdecode : Envelope.decode? text = some (e, body)) (queue c : String)
    (lists : ListStore) : ∃ lists' : ListStore,
      ListProgram.run (settle ⟨queue, c⟩ text .requeue) ⟨lists, []⟩ = (.ok (), ⟨lists', []⟩) ∧
      lists'.shelves queue =
        update (update (lists.shelves queue) (.processing c)
          ((lists.shelves queue (.processing c)).erase text)) .waiting
            (e.next.encode :: lists.shelves queue .waiting) := by
  refine ⟨_, ?_, ListStore.shelves_replace lists queue
    (Place.noConfusion : Place.waiting ≠ .processing c) text e.next.encode⟩
  unfold settle
  dsimp only
  rw [hdecode]
  rfl

/-- A message that waits alone comes back as often as it is put back. -/
theorem run_retry (he : e.Carries body) (hwaiting : lists.shelves queue .waiting = [e.encode])
    (n j : Nat) : (ListProgram.run (retry ⟨queue, c⟩ (n + 1) j) ⟨lists, []⟩).1 =
      .ok (.handed ⟨.make body (e.after j).attempt, (e.after j).encode⟩) := by
  induction j generalizing e lists with
  | zero =>
    have hlast : lists.shelves queue .waiting = [] ++ [e.encode] := hwaiting
    obtain ⟨_, -, hreceive⟩ := run_receive_envelope hlast (Envelope.decode?_encode he) c n
    rw [Envelope.after_zero]
    exact congrArg Prod.fst hreceive
  | succ j ih =>
    have hdecode := Envelope.decode?_encode he
    have hlast : lists.shelves queue .waiting = [] ++ [e.encode] := hwaiting
    obtain ⟨taken, htaken, hreceive⟩ := run_receive_envelope hlast hdecode c n
    obtain ⟨lists', hrequeue, hshelves⟩ := run_requeue hdecode queue c taken
    have hnext : lists'.shelves queue .waiting = [e.next.encode] := by
      rw [hshelves, Function.update_self, htaken, Function.update_of_ne Place.noConfusion,
        Function.update_self]
    rw [retry, ListProgram.run_bind, hreceive]
    dsimp only
    rw [ListProgram.run_bind, hrequeue]
    dsimp only
    rw [ih he.next hnext, Envelope.after_next]

/-- A message is published to a queue in which nothing waits, and comes back as often as it is put
back. -/
theorem run_publish_retry (hwaiting : lists.shelves queue .waiting = []) {now : Instant}
    (hnow : now.WellFormed) (producer c id : String) (body : Bytes) (n j : Nat) :
    (ListProgram.run (publish ⟨queue, producer⟩ id now body >>= fun _ =>
        retry ⟨queue, c⟩ (n + 1) j) ⟨lists, []⟩).1 =
      .ok (.handed ⟨.make body ((Envelope.wrap id now body).after j).attempt,
        ((Envelope.wrap id now body).after j).encode⟩) := by
  rw [ListProgram.run_bind, run_publish]
  refine run_retry (Envelope.carries_wrap id hnow body) ?_ n j
  refine (congrFun (ListStore.shelves_push lists queue .waiting _) .waiting).trans ?_
  rw [Function.update_self, hwaiting]

end RedisQueue

/-! ### What is received -/

/-- What the text of an attempt is like: no other text is pushed for the attempt, it is read back
with the id, the body and the time that were published, and whoever takes it is handed the body with
the number of the attempt.  A message that waits alone comes back as this text after so many
requeues. -/
structure AttemptedAs (queue id : String) (now : Instant) (body : Bytes) (j : Nat) (text : Bytes) :
    Prop where
  sent_iff (text' : Bytes) : Sent queue id now body j text' ↔ text' = text
  read : ∃ e, Envelope.decode? text = some (e, body) ∧ e.id = id ∧
    e.payload = Base64.encode body ∧ e.publishedAt = now ∧ e.attempt.toNat = 1 + j
  handed (c : String) (n : Nat) (events : ListEvents)
    (result : Except QueueError Awaited)
    (h : (RedisQueue.receive ⟨queue, c⟩ n).Trace events result) (htaken : text ∈ takenIn events) :
    ∃ d, result = .ok (.handed d) ∧ d.text = text ∧ d.delivery.body = body ∧
      d.delivery.attempt.toNat = 1 + j
  alone (producer c : String) (n : Nat) (lists : ListStore)
    (h : lists.shelves queue .waiting = []) :
    (ListProgram.run (RedisQueue.publish ⟨queue, producer⟩ id now body >>= fun _ =>
        RedisQueue.retry ⟨queue, c⟩ (n + 1) j) ⟨lists, []⟩).1 =
      .ok (.handed ⟨⟨body, .ofNat (1 + j)⟩, text⟩)

theorem mem_deliveryOf {result : Except QueueError Awaited} {d : RedisDelivery} :
    d ∈ deliveryOf result ↔ result = .ok (.handed d) := by
  unfold deliveryOf
  split
  · simp [eq_comm]
  · next h => simpa using fun heq => h d heq

/-- The text of each attempt whose number fits. -/
theorem attemptedAs {queue id : String} {now : Instant} {body : Bytes} (hnow : now.WellFormed)
    {j : Nat} (hj : 1 + j < UInt32.size) :
    AttemptedAs queue id now body j ((Envelope.wrap id now body).after j).encode := by
  have hattempt := Envelope.toNat_attempt_after_wrap id now body hj
  have hdecode := Envelope.decode?_encode ((Envelope.carries_wrap id hnow body).after j)
  have hmake := @Delivery.make_eq body ((Envelope.wrap id now body).after j).attempt (by omega)
  refine ⟨fun _ => QueryGateway.sent_iff hnow, ⟨_, hdecode, rfl, rfl, rfl, hattempt⟩, ?_, ?_⟩
  · intro c n events result h htaken
    obtain ⟨strays, hstrays⟩ := (RedisQueue.trace_receive.mp h).exists_putsAside
    rw [hstrays.taken] at htaken
    rcases List.mem_append.mp htaken with hstray | hmem
    · cases hdecode.symm.trans (hstrays.undecodable _ hstray)
    · obtain ⟨d, hd, htext⟩ := List.mem_map.mp hmem
      obtain ⟨e, body', hread, hdelivery⟩ := hstrays.handed d hd
      obtain ⟨rfl, rfl⟩ := Prod.mk.inj (Option.some.inj (hdecode.symm.trans (htext ▸ hread)))
      rw [hmake] at hdelivery
      exact ⟨d, mem_deliveryOf.mp hd, htext, by rw [hdelivery], by rw [hdelivery, hattempt]⟩
  · intro producer c n lists hwaiting
    have hnumber : ((Envelope.wrap id now body).after j).attempt = .ofNat (1 + j) :=
      UInt32.toNat.inj (hattempt.trans (UInt32.toNat_ofNat_of_lt' hj).symm)
    have hrun := RedisQueue.run_publish_retry hwaiting hnow producer c id body n j
    rwa [hmake, hnumber] at hrun

/-- A message that is put back `j` times is handed out with the bytes that were published and the
number `1 + j`, by whichever consumer takes the text of that attempt.  What is no envelope is never
handed out: it becomes a dead letter as it is, and receiving goes on with the entry behind it. -/
theorem attempts_and_strays (queue id : String) (body : Bytes) {now : Instant}
    (hnow : now.WellFormed) :
    (∀ j, 1 + j < UInt32.size → ∃ text, AttemptedAs queue id now body j text) ∧
    ∀ c,
      (∀ n events result, (RedisQueue.receive ⟨queue, c⟩ n).Trace events result →
        ∃ strays, RedisQueue.PutsAside queue c events result strays) ∧
      ∀ (lists : ListStore) (front strays : List Bytes),
        lists.shelves queue .waiting = front ++ strays →
        (∀ text ∈ strays, Envelope.decode? text = none) →
        ∃ lists' : ListStore,
          lists'.shelves queue =
            update (update (lists.shelves queue) .waiting front) .dead
              (strays ++ lists.shelves queue .dead) ∧
          (∀ n, ListProgram.run (RedisQueue.receive ⟨queue, c⟩ (n + strays.length)) ⟨lists, []⟩ =
            ListProgram.run (RedisQueue.receive ⟨queue, c⟩ n) ⟨lists', []⟩) ∧
          ∀ text ∈ front.getLast?, ∀ e body', Envelope.decode? text = some (e, body') → ∀ n,
            (ListProgram.run (RedisQueue.receive ⟨queue, c⟩ (n + 1 + strays.length))
              ⟨lists, []⟩).1 = .ok (.handed ⟨.make body' e.attempt, text⟩) := by
  refine ⟨fun j hj => ⟨_, attemptedAs hnow hj⟩, fun c => ⟨fun n events result h =>
    (RedisQueue.trace_receive.mp h).exists_putsAside, ?_⟩⟩
  intro lists front strays hwaiting hstrays
  obtain ⟨lists', hshelves, hruns⟩ := RedisQueue.run_receive_strays hwaiting hstrays c
  refine ⟨lists', hshelves, hruns, fun text htext e body' hdecode n => ?_⟩
  obtain ⟨front', rfl⟩ := List.getLast?_eq_some_iff.mp htext
  have hfront : lists'.shelves queue .waiting = front' ++ [text] := by
    rw [hshelves, Function.update_of_ne Place.noConfusion, Function.update_self]
  obtain ⟨_, -, hrun⟩ := RedisQueue.run_receive_envelope hfront hdecode c n
  rw [hruns, hrun]

/-- The third attempt at a message stands in the queue behind an entry that is no envelope. -/
theorem attempts_and_strays_third : Envelope.decode? [123] = none ∧
    ∃ text, AttemptedAs "jobs" "a" .epoch [0, 255, 10] 2 text ∧
      (ListProgram.run (RedisQueue.receive ⟨"jobs", "worker"⟩ 2)
        ⟨[("jobs", [text, [123]])], []⟩).1 = .ok (.handed ⟨⟨[0, 255, 10], 3⟩, text⟩) ∧
      ∃ strays, RedisQueue.PutsAside "jobs" "worker"
        [⟨RedisQueue.taking ⟨"jobs", "worker"⟩, .ok (some [123])⟩,
          ⟨RedisQueue.settingAside ⟨"jobs", "worker"⟩ [123], .ok none⟩,
          ⟨RedisQueue.taking ⟨"jobs", "worker"⟩, .ok (some text)⟩]
        (.ok (.handed ⟨⟨[0, 255, 10], 3⟩, text⟩)) strays := by
  have hstray : Envelope.decode? [123] = none := by decide +kernel
  obtain ⟨hattempts, hconsumers⟩ := attempts_and_strays "jobs" "a" [0, 255, 10]
    (by decide : Instant.epoch.WellFormed)
  obtain ⟨text, htext⟩ := hattempts 2 (by decide)
  obtain ⟨e, hdecode, -, -, -, hattempt⟩ := htext.read
  have hmake : Delivery.make [0, 255, 10] e.attempt = ⟨[0, 255, 10], 3⟩ := by
    have hthird : e.attempt = 3 := UInt32.toNat.inj hattempt
    rw [Delivery.make_eq (by omega), hthird]
  obtain ⟨hputsAside, hbehind⟩ := hconsumers "worker"
  obtain ⟨lists', -, -, hhanded⟩ := hbehind [("jobs", [text, [123]])] [text] [[123]] rfl
    (List.forall_mem_singleton.mpr hstray)
  refine ⟨hstray, text, htext, ?_, hputsAside 2 _ _ ?_⟩
  · exact hmake ▸ hhanded text rfl e _ hdecode 0
  · exact hmake ▸ RedisQueue.trace_receive.mpr (.aside hstray (.handed hdecode))

end QueryGateway
