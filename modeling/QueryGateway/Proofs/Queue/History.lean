import Mathlib.Algebra.Group.Nat.Defs
import Mathlib.Data.List.Forall2
import QueryGateway.Proofs.Keyed
import QueryGateway.Proofs.Queue.Memory

/-!
# The history of the memory queue

Any number of receivers take messages from one queue, and deliveries are settled or lost in any
order.  The log of what happened tells of each message where it is, how often it was handed out and
what became of it; the order in which messages entered the queue is the order in which they leave
it.

A message is known by its place in the order of publishing, so messages with the same body are told
apart.

## Main definitions

* `QueueEvent` — what happens to a queue.
* `MemoryQueue.Happens`, `MemoryQueue.Run` — a queue that is not closed, at work.
* `story` — what happened to one message.
* `MemoryQueue.Ledger` — what the log says of a queue.
* `MemoryQueue.Accounted` — every message has one place and one body.

## Main results

* `MemoryQueue.ledger_of_run` — the log is right in every state.
* `MemoryQueue.accounted_of_run` — no message is lost, doubled, changed or handed out out of turn.
-/

namespace QueryGateway

/-! ### Logs -/

/-- What happens to a memory queue.  Messages are named by their places in the order of
publishing. -/
inductive QueueEvent
  | published (serial : Nat) (body : Bytes)
  | delivered (receipt serial : Nat) (d : Delivery)
  | settled (receipt serial : Nat) (d : Disposition)
  /-- A delivery is dropped before it is settled. -/
  | lost (receipt serial : Nat)
  deriving DecidableEq

/-- The messages that were published, in order. -/
def publishedIn (log : List QueueEvent) : List Nat :=
  log.filterMap fun
    | .published serial _ => some serial
    | _ => none

/-- The messages in the order in which they entered the queue: as they were published, and again
as they were returned. -/
def enteredIn (log : List QueueEvent) : List Nat :=
  log.filterMap fun
    | .published serial _ => some serial
    | .settled _ serial .requeue => some serial
    | .lost _ serial => some serial
    | _ => none

/-- The messages in the order in which they were handed out. -/
def handedIn (log : List QueueEvent) : List Nat :=
  log.filterMap fun
    | .delivered _ serial _ => some serial
    | _ => none

/-- The messages that were settled in a way, in order. -/
def settledIn (d : Disposition) (log : List QueueEvent) : List Nat :=
  log.filterMap fun
    | .settled _ serial d' => if d' = d then some serial else none
    | _ => none

/-- What happens to one message. -/
inductive Turn
  | handed (d : Delivery)
  /-- A message that is lost is requeued. -/
  | ended (d : Disposition)
  deriving DecidableEq

/-- What an event means to a message. -/
def QueueEvent.turn? (serial : Nat) : QueueEvent → Option Turn
  | .published _ _ => none
  | .delivered _ s d => if s = serial then some (.handed d) else none
  | .settled _ s d => if s = serial then some (.ended d) else none
  | .lost _ s => if s = serial then some (.ended .requeue) else none

/-- What happened to a message. -/
def story (serial : Nat) (log : List QueueEvent) : List Turn :=
  log.filterMap (QueueEvent.turn? serial)

/-- The deliveries among some turns. -/
def deliveriesIn (turns : List Turn) : List Delivery :=
  turns.filterMap fun
    | .handed d => some d
    | .ended _ => none

/-- The delivery of a body after `n` others. -/
def nthDelivery (body : Bytes) (n : Nat) : Delivery := .make body (UInt32.ofNat (n + 1))

/-- The story of a message that was handed out and returned `n` times. -/
def rounds (body : Bytes) (n : Nat) : List Turn :=
  (List.range n).flatMap fun k => [.handed (nthDelivery body k), .ended .requeue]

theorem rounds_succ (body : Bytes) (n : Nat) :
    rounds body (n + 1) = rounds body n ++ [.handed (nthDelivery body n), .ended .requeue] := by
  unfold rounds
  rw [List.range_succ, List.flatMap_append]
  rfl

/-- In each round a message is returned once, and it is not settled for good. -/
theorem count_ended_rounds_append (d : Disposition) (body : Bytes) (n : Nat) (turns : List Turn) :
    (rounds body n ++ turns).count (.ended d) =
      (if d = .requeue then n else 0) + turns.count (.ended d) := by
  induction n generalizing turns with
  | zero =>
    rw [ite_self, Nat.zero_add]
    rfl
  | succ n ih =>
    rw [rounds_succ, List.append_assoc, ih]
    cases d <;> simp [Nat.add_assoc, Nat.add_comm 1]

theorem deliveriesIn_rounds_append (body : Bytes) (n : Nat) (turns : List Turn) :
    deliveriesIn (rounds body n ++ turns) =
      (List.range n).map (nthDelivery body) ++ deliveriesIn turns := by
  induction n generalizing turns with
  | zero => rfl
  | succ n ih =>
    rw [rounds_succ, List.append_assoc, ih, List.range_succ, List.map_append, List.append_assoc]
    rfl

/-- The attempts are one, two, three and so on, as long as they can be told apart. -/
theorem nthDelivery_eq {n : Nat} (hn : n + 1 < 2 ^ 32) (body : Bytes) :
    nthDelivery body n = ⟨body, UInt32.ofNat (n + 1)⟩ ∧
      (nthDelivery body n).attempt.toNat = n + 1 := by
  have hnat : (UInt32.ofNat (n + 1)).toNat = n + 1 := UInt32.toNat_ofNat_of_lt' hn
  have hpos : UInt32.ofNat (n + 1) ≠ 0 := by
    intro h
    rw [h] at hnat
    exact Nat.succ_ne_zero n hnat.symm
  unfold nthDelivery Delivery.make
  rw [if_neg hpos]
  exact ⟨rfl, hnat⟩

theorem story_append (serial : Nat) (log events : List QueueEvent) :
    story serial (log ++ events) = story serial log ++ story serial events :=
  List.filterMap_append

theorem settledIn_append (d : Disposition) (log events : List QueueEvent) :
    settledIn d (log ++ events) = settledIn d log ++ settledIn d events :=
  List.filterMap_append

theorem enteredIn_append (log events : List QueueEvent) :
    enteredIn (log ++ events) = enteredIn log ++ enteredIn events :=
  List.filterMap_append

theorem handedIn_append (log events : List QueueEvent) :
    handedIn (log ++ events) = handedIn log ++ handedIn events :=
  List.filterMap_append

theorem publishedIn_append (log events : List QueueEvent) :
    publishedIn (log ++ events) = publishedIn log ++ publishedIn events :=
  List.filterMap_append

/-- The event is the end of a delivery. -/
structure Ends (e : QueueEvent) (serial : Nat) (d : Disposition) : Prop where
  story : ∀ s, story s [e] = if serial = s then [.ended d] else []
  published : publishedIn [e] = []
  entered : enteredIn [e] = if d = .requeue then [serial] else []
  handed : handedIn [e] = []
  settled : ∀ d', d' ≠ .requeue → settledIn d' [e] = if d = d' then [serial] else []

theorem ends_settled (receipt serial : Nat) (d : Disposition) :
    Ends (.settled receipt serial d) serial d where
  story s := by
    by_cases h : serial = s <;> simp [QueryGateway.story, QueueEvent.turn?, h]
  published := rfl
  entered := by cases d <;> rfl
  handed := rfl
  settled d' _ := by
    by_cases h : d = d' <;> simp [settledIn, h]

theorem ends_lost (receipt serial : Nat) : Ends (.lost receipt serial) serial .requeue where
  story s := by
    by_cases h : serial = s <;> simp [QueryGateway.story, QueueEvent.turn?, h]
  published := rfl
  entered := rfl
  handed := rfl
  settled d' hd' := by rw [if_neg (Ne.symm hd')]; rfl

namespace MemoryQueue

/-- What happens to a queue that is not closed, with what is to be logged.  Settling or dropping a
delivery that is over already is no event. -/
inductive Happens : MemoryQueue → List QueueEvent → MemoryQueue → Prop
  | publish {q q' : MemoryQueue} {body : Bytes} (h : q.publish body = .ok q') :
      Happens q [.published q.published body] q'
  | receive {q q' : MemoryQueue} {m : QueueMessage} {rest : List QueueMessage} {receipt : Nat}
      {d : Delivery} (hfront : q.waiting = m :: rest) (h : q.receive = (.delivery receipt d, q')) :
      Happens q [.delivered receipt m.serial d] q'
  | pending {q q' : MemoryQueue} (h : q.receive = (.nothing, q')) : Happens q [] q'
  | settle {q : MemoryQueue} {receipt : Nat} {m : QueueMessage} (h : q.held? receipt = some m)
      (d : Disposition) : Happens q [.settled receipt m.serial d] (q.settle receipt d)
  | drop {q : MemoryQueue} {receipt : Nat} {m : QueueMessage} (h : q.held? receipt = some m) :
      Happens q [.lost receipt m.serial] (q.drop receipt)
  | settleAgain {q : MemoryQueue} {receipt : Nat} (h : q.held? receipt = none) (d : Disposition) :
      Happens q [] (q.settle receipt d)
  | dropSettled {q : MemoryQueue} {receipt : Nat} (h : q.held? receipt = none) :
      Happens q [] (q.drop receipt)

/-- The queue after what is logged. -/
inductive Run : List QueueEvent → MemoryQueue → Prop
  | start : Run [] {}
  | next {log events : List QueueEvent} {q q' : MemoryQueue} :
      Run log q → Happens q events q' → Run (log ++ events) q'

/-- A delivery that is over stays over. -/
theorem settle_of_not_held {q : MemoryQueue} {receipt : Nat} (h : q.held? receipt = none)
    (d : Disposition) : q.settle receipt d = q := by
  unfold settle
  rw [h]

/-! ### Where a message stands -/

theorem delivery_eq_nth {m : QueueMessage} {n : Nat} (h : m.attempt = UInt32.ofNat (n + 1)) :
    m.delivery = nthDelivery m.body n := by
  unfold QueueMessage.delivery nthDelivery
  rw [h]

/-- The message has been published and then handed out and returned as often as its attempt says;
after that came some turns. -/
def Stands (log : List QueueEvent) (m : QueueMessage) (turns : List Turn) : Prop :=
  ∃ n, .published m.serial m.body ∈ log ∧ m.attempt = UInt32.ofNat (n + 1) ∧
    story m.serial log = rounds m.body n ++ turns

section Stands

variable {log : List QueueEvent} {m : QueueMessage} {turns : List Turn}

/-- Something happens to the message, or nothing. -/
theorem Stands.push (h : Stands log m turns) {events : List QueueEvent} {more : List Turn}
    (hmore : story m.serial events = more) : Stands (log ++ events) m (turns ++ more) := by
  obtain ⟨n, hpublished, hattempt, hstory⟩ := h
  refine ⟨n, List.mem_append_left _ hpublished, hattempt, ?_⟩
  rw [story_append, hstory, hmore, List.append_assoc]

theorem Stands.mono (h : Stands log m turns) {events : List QueueEvent}
    (hnone : story m.serial events = []) : Stands (log ++ events) m turns := by
  have hpush := h.push hnone
  rwa [List.append_nil] at hpush

/-- A message that is returned is in its next round. -/
theorem Stands.next (h : Stands log m [.handed m.delivery, .ended .requeue]) :
    Stands log m.next [] := by
  obtain ⟨n, hpublished, hattempt, hstory⟩ := h
  refine ⟨n + 1, hpublished, ?_, ?_⟩
  · show m.attempt + 1 = _
    rw [hattempt]
    exact (UInt32.ofNat_add (n + 1) 1).symm
  · have hdelivery := delivery_eq_nth hattempt
    show story m.serial log = rounds m.body (n + 1) ++ []
    rw [hstory, hdelivery, List.append_nil, rounds_succ]

end Stands

/-! ### The ledger -/

/-- What the log says of a queue. -/
structure Ledger (log : List QueueEvent) (q : MemoryQueue) : Prop where
  numbered : q.Numbered
  serials : publishedIn log = List.range q.published
  /-- Every message is in one place. -/
  places : (q.live.map QueueMessage.serial ++ (settledIn .ack log ++ settledIn .reject log)).Perm
    (publishedIn log)
  /-- What entered has been handed out or waits, in that order. -/
  order : enteredIn log = handedIn log ++ q.waiting.map QueueMessage.serial
  /-- Nothing has happened to messages that are still to be published. -/
  fresh : ∀ serial, q.published ≤ serial → story serial log = []
  waiting : ∀ m ∈ q.waiting, Stands log m []
  inFlight : ∀ m ∈ q.inFlight.map Prod.snd, Stands log m [.handed m.delivery]
  finished : ∀ d, d ≠ .requeue → ∀ serial ∈ settledIn d log, ∃ m : QueueMessage,
    m.serial = serial ∧ Stands log m [.handed m.delivery, .ended d]
  dead : List.Forall₂ (fun serial body => .published serial body ∈ log) (settledIn .reject log)
    q.dead

theorem ledger_empty : Ledger [] {} where
  numbered := ⟨List.nodup_nil, nofun⟩
  serials := rfl
  places := List.Perm.refl _
  order := rfl
  fresh := fun _ _ => rfl
  waiting := nofun
  inFlight := nofun
  finished := nofun
  dead := .nil

section Step

variable {log : List QueueEvent} {q q' : MemoryQueue} {m : QueueMessage}

/-- A message in the queue is none of the others, none that is settled for good and none that is
still to be published. -/
theorem Ledger.serial_ne (h : Ledger log q) {others : List QueueMessage}
    (hlive : q.live.Perm (m :: others)) : (∀ m' ∈ others, m.serial ≠ m'.serial) ∧
      (∀ d, d ≠ .requeue → ∀ serial ∈ settledIn d log, m.serial ≠ serial) ∧
        ∀ serial, q.published ≤ serial → m.serial ≠ serial := by
  have hplaces := ((hlive.map QueueMessage.serial).append_right _).symm.trans h.places
  rw [List.map_cons, List.cons_append, h.serials] at hplaces
  obtain ⟨hne, -⟩ := List.nodup_cons.mp (hplaces.nodup_iff.mpr List.nodup_range)
  refine ⟨?_, ?_, ?_⟩
  · intro m' hm' heq
    exact hne (List.mem_append_left _ (heq ▸ List.mem_map_of_mem hm'))
  · intro d hd serial hserial heq
    refine hne (List.mem_append_right _ (heq ▸ ?_))
    cases d with
    | ack => exact List.mem_append_left _ hserial
    | requeue => exact absurd rfl hd
    | reject => exact List.mem_append_right _ hserial
  · intro serial hserial heq
    have hlt := List.mem_range.mp (hplaces.mem_iff.mp List.mem_cons_self)
    omega

/-- What is settled for good stays so. -/
theorem Ledger.finished_append (h : Ledger log q) {events : List QueueEvent} {d : Disposition}
    (hd : d ≠ .requeue) {serial : Nat} (hserial : serial ∈ settledIn d log)
    (hnone : story serial events = []) : ∃ m : QueueMessage,
      m.serial = serial ∧ Stands (log ++ events) m [.handed m.delivery, .ended d] := by
  obtain ⟨m, rfl, hstands⟩ := h.finished d hd serial hserial
  exact ⟨m, rfl, hstands.mono hnone⟩

/-- A message is published. -/
theorem Ledger.publish (h : Ledger log q) {body : Bytes} (hq : q.publish body = .ok q') :
    Ledger (log ++ [.published q.published body]) q' := by
  have hlive := (live_publish hq).1.map QueueMessage.serial
  have hnumbered := numbered_publish h.numbered hq
  unfold MemoryQueue.publish at hq
  split at hq
  · cases hq
  obtain rfl := Except.ok.inj hq
  have hstory : ∀ s, story s [.published q.published body] = [] := fun _ => rfl
  have hsettled : ∀ d, settledIn d (log ++ [.published q.published body]) = settledIn d log := by
    intro d
    rw [settledIn_append]
    exact List.append_nil _
  refine ⟨hnumbered, ?_, ?_, ?_, ?_, ?_, ?_, ?_, ?_⟩
  · rw [publishedIn_append, h.serials]
    exact List.range_succ.symm
  · rw [hsettled, hsettled, publishedIn_append]
    have hplaces := h.places.cons q.published
    exact (hlive.append_right _).trans (hplaces.trans (List.perm_append_singleton _ _).symm)
  · rw [enteredIn_append, handedIn_append, h.order, List.map_append]
    simp [enteredIn, handedIn]
  · intro serial hserial
    rw [story_append, hstory, h.fresh serial (Nat.le_of_succ_le hserial)]
    rfl
  · refine List.forall_mem_append.mpr ⟨fun m hm => (h.waiting m hm).mono (hstory _), ?_⟩
    refine List.forall_mem_singleton.mpr ⟨0, List.mem_append_right _ List.mem_cons_self, rfl, ?_⟩
    rw [story_append, hstory, h.fresh _ (Nat.le_refl _)]
    rfl
  · intro m hm
    exact (h.inFlight m hm).mono (hstory _)
  · intro d hd serial hserial
    exact h.finished_append hd (hsettled d ▸ hserial) (hstory serial)
  · rw [hsettled]
    exact h.dead.imp fun _ _ => List.mem_append_left _

/-- The queue without its first message, which is in hand. -/
theorem eq_of_receive {rest : List QueueMessage} {receipt : Nat} {d : Delivery}
    (hfront : q.waiting = m :: rest) (hq : q.receive = (.delivery receipt d, q')) :
    d = m.delivery ∧ q' = { q with
      waiting := rest
      inFlight := q.inFlight ++ [(receipt, m)]
      handedOut := q.handedOut + 1 } := by
  have htake := take_of_receive hq
  unfold MemoryQueue.take at htake
  rw [hfront] at htake
  obtain ⟨hreceived, rfl⟩ := Prod.mk.inj htake
  obtain ⟨rfl, rfl⟩ := Received.delivery.inj hreceived
  exact ⟨rfl, rfl⟩

/-- The message at the front is handed out. -/
theorem Ledger.receive (h : Ledger log q) {rest : List QueueMessage} {receipt : Nat} {d : Delivery}
    (hfront : q.waiting = m :: rest) (hq : q.receive = (.delivery receipt d, q')) :
    Ledger (log ++ [.delivered receipt m.serial d]) q' := by
  have hnumbered := numbered_of_receive h.numbered hq
  obtain ⟨_, -, -, hlive, -⟩ := exists_of_receive hq
  obtain ⟨rfl, rfl⟩ := eq_of_receive hfront hq
  have hm : q.live.Perm (m :: (rest ++ q.inFlight.map Prod.snd)) := by
    unfold live
    rw [hfront]
    exact List.Perm.refl _
  obtain ⟨hothers, hover, hlater⟩ := h.serial_ne hm
  have hstory : ∀ s, m.serial ≠ s → story s [.delivered receipt m.serial m.delivery] = [] := by
    intro s hs
    simp [story, QueueEvent.turn?, hs]
  have hsettled : ∀ d, settledIn d (log ++ [.delivered receipt m.serial m.delivery]) =
      settledIn d log := by
    intro d
    rw [settledIn_append]
    exact List.append_nil _
  have hpublished : publishedIn (log ++ [.delivered receipt m.serial m.delivery]) =
      publishedIn log := by
    rw [publishedIn_append]
    exact List.append_nil _
  refine ⟨hnumbered, ?_, ?_, ?_, ?_, ?_, ?_, ?_, ?_⟩
  · rw [hpublished, h.serials]
  · rw [hsettled, hsettled, hpublished]
    exact ((hlive.map _).append_right _).trans h.places
  · rw [enteredIn_append, handedIn_append, h.order, hfront]
    simp [enteredIn, handedIn]
  · intro serial hserial
    rw [story_append, hstory serial (hlater serial hserial), h.fresh serial hserial]
    rfl
  · intro m' hm'
    have hne := hothers m' (List.mem_append_left _ hm')
    exact (h.waiting m' (hfront ▸ List.mem_cons_of_mem m hm')).mono (hstory _ hne)
  · rw [List.map_append]
    refine List.forall_mem_append.mpr ⟨fun m' hm' => ?_, List.forall_mem_singleton.mpr ?_⟩
    · have hne := hothers m' (List.mem_append_right _ hm')
      exact (h.inFlight m' hm').mono (hstory _ hne)
    · refine (h.waiting m (hfront ▸ List.mem_cons_self)).push ?_
      simp [story, QueueEvent.turn?]
  · intro d hd serial hserial
    have hold : serial ∈ settledIn d log := hsettled d ▸ hserial
    exact h.finished_append hd hold (hstory serial (hover d hd serial hold))
  · rw [hsettled]
    exact h.dead.imp fun _ _ => List.mem_append_left _

/-- A message in hand has been handed out. -/
theorem Ledger.stands_of_held? (h : Ledger log q) {receipt : Nat}
    (hm : q.held? receipt = some m) : Stands log m [.handed m.delivery] := by
  have hperm := perm_cons_filter_of_lookup h.numbered.nodup hm
  exact h.inFlight m ((hperm.map Prod.snd).mem_iff.mpr List.mem_cons_self)

/-- What settling does, apart from the messages in hand. -/
theorem eq_of_settle {receipt : Nat} (hm : q.held? receipt = some m) (d : Disposition) :
    (q.settle receipt d).published = q.published ∧
      (q.settle receipt d).waiting = q.waiting ++ (if d = .requeue then [m.next] else []) ∧
        (q.settle receipt d).dead = q.dead ++ (if d = .reject then [m.body] else []) := by
  unfold settle
  rw [hm]
  cases d <;> simp

section Settle

variable {receipt : Nat} {d : Disposition} {e : QueueEvent}

theorem settledIn_append_ends (he : Ends e m.serial d) {d' : Disposition} (hd' : d' ≠ .requeue) :
    settledIn d' (log ++ [e]) = settledIn d' log ++ if d = d' then [m.serial] else [] := by
  rw [settledIn_append, he.settled d' hd']

/-- The message moves to one of three places. -/
theorem Ledger.places_settle (h : Ledger log q) (hm : q.held? receipt = some m)
    (he : Ends e m.serial d) : ((q.settle receipt d).live.map QueueMessage.serial ++
      (settledIn .ack (log ++ [e]) ++ settledIn .reject (log ++ [e]))).Perm
        (publishedIn (log ++ [e])) := by
  obtain ⟨-, hwaiting, -⟩ := eq_of_settle hm d
  obtain ⟨hflight, -⟩ := inFlight_settle hm d
  have hlive := (live_perm_of_held? h.numbered hm).map QueueMessage.serial
  have hplaces := (hlive.append_right _).symm.trans h.places
  rw [publishedIn_append, he.published, List.append_nil,
    settledIn_append_ends he Disposition.noConfusion,
    settledIn_append_ends he Disposition.noConfusion]
  refine List.Perm.trans (List.perm_iff_count.mpr fun s => ?_) hplaces
  unfold live
  rw [hwaiting, hflight]
  cases d <;> simp [QueueMessage.next, List.count_cons] <;> omega

/-- The body of a message that is rejected is put aside. -/
theorem Ledger.dead_settle (h : Ledger log q) (hm : q.held? receipt = some m)
    (he : Ends e m.serial d) :
    List.Forall₂ (fun serial body => .published serial body ∈ log ++ [e])
      (settledIn .reject (log ++ [e])) (q.settle receipt d).dead := by
  obtain ⟨-, -, hdead⟩ := eq_of_settle hm d
  obtain ⟨-, hpublished, -⟩ := h.stands_of_held? hm
  rw [settledIn_append_ends he Disposition.noConfusion, hdead]
  refine List.rel_append (h.dead.imp fun _ _ => List.mem_append_left _) ?_
  by_cases hd : d = .reject
  · rw [if_pos hd, if_pos hd]
    exact .cons (List.mem_append_left _ hpublished) .nil
  · rw [if_neg hd, if_neg hd]
    exact .nil

/-- A delivery is settled or lost. -/
theorem Ledger.settle (h : Ledger log q) (hm : q.held? receipt = some m)
    (he : Ends e m.serial d) : Ledger (log ++ [e]) (q.settle receipt d) := by
  obtain ⟨hcount, hwaiting, -⟩ := eq_of_settle hm d
  obtain ⟨hflight, -⟩ := inFlight_settle hm d
  obtain ⟨hothers, hover, hlater⟩ := h.serial_ne (live_perm_of_held? h.numbered hm)
  have hended : Stands (log ++ [e]) m [.handed m.delivery, .ended d] :=
    (h.stands_of_held? hm).push ((he.story m.serial).trans (if_pos rfl))
  have hstory : ∀ s, m.serial ≠ s → QueryGateway.story s [e] = [] := fun s hs =>
    (he.story s).trans (if_neg hs)
  refine ⟨numbered_settle h.numbered hm d, ?_, h.places_settle hm he, ?_, ?_, ?_, ?_, ?_,
    h.dead_settle hm he⟩
  · rw [publishedIn_append, he.published, List.append_nil, h.serials, hcount]
  · rw [enteredIn_append, handedIn_append, h.order, he.entered, he.handed, hwaiting]
    cases d <;> simp [QueueMessage.next]
  · intro serial hserial
    rw [hcount] at hserial
    rw [story_append, hstory serial (hlater serial hserial), h.fresh serial hserial]
    rfl
  · rw [hwaiting]
    refine List.forall_mem_append.mpr ⟨fun m' hm' => ?_, fun m' hm' => ?_⟩
    · have hne := hothers m' (List.mem_append_left _ hm')
      exact (h.waiting m' hm').mono (hstory _ hne)
    · split at hm'
      · next hd =>
        obtain rfl := List.mem_singleton.mp hm'
        subst hd
        exact hended.next
      · cases hm'
  · rw [hflight]
    intro m' hm'
    have hne := hothers m' (List.mem_append_right _ hm')
    have hmem : m' ∈ q.inFlight.map Prod.snd :=
      List.map_subset Prod.snd (List.filter_subset_self _) hm'
    exact (h.inFlight m' hmem).mono (hstory _ hne)
  · intro d' hd' serial hserial
    rw [settledIn_append_ends he hd'] at hserial
    rcases List.mem_append.mp hserial with hserial | hserial
    · exact h.finished_append hd' hserial (hstory serial (hover d' hd' serial hserial))
    · by_cases hd : d = d'
      · rw [if_pos hd] at hserial
        exact ⟨m, (List.mem_singleton.mp hserial).symm, hd ▸ hended⟩
      · rw [if_neg hd] at hserial
        cases hserial

end Settle

end Step

/-- What happens to a queue is written down. -/
theorem ledger_of_happens {log events : List QueueEvent} {q q' : MemoryQueue} (h : Ledger log q)
    (hstep : Happens q events q') : Ledger (log ++ events) q' := by
  cases hstep with
  | publish hq => exact h.publish hq
  | receive hfront hq => exact h.receive hfront hq
  | pending hq =>
    rw [List.append_nil]
    unfold MemoryQueue.receive MemoryQueue.take at hq
    split at hq
    · cases hq
    · split at hq
      · obtain ⟨-, rfl⟩ := Prod.mk.inj hq
        exact h
      · cases hq
  | settle hm d => exact h.settle hm (ends_settled _ _ _)
  | drop hm => exact h.settle hm (ends_lost _ _)
  | settleAgain hm d =>
    rw [List.append_nil, settle_of_not_held hm]
    exact h
  | dropSettled hm =>
    unfold drop
    rw [List.append_nil, settle_of_not_held hm]
    exact h

/-- The log is right in every state. -/
theorem ledger_of_run {log : List QueueEvent} {q : MemoryQueue} (h : Run log q) : Ledger log q := by
  induction h with
  | start => exact ledger_empty
  | next _ hstep ih => exact ledger_of_happens ih hstep

/-! ### What the log tells -/

section Told

variable {log : List QueueEvent} {q : MemoryQueue}

theorem mem_publishedIn {serial : Nat} {body : Bytes} (h : .published serial body ∈ log) :
    serial ∈ publishedIn log :=
  List.mem_filterMap.mpr ⟨_, h, rfl⟩

/-- The log of the queue and the story of a message agree on how the message is settled for good. -/
theorem count_settledIn {d : Disposition} (hd : d ≠ .requeue) (serial : Nat) :
    (settledIn d log).count serial = (story serial log).count (.ended d) := by
  induction log with
  | nil => rfl
  | cons e log ih =>
    have hsettled : settledIn d (e :: log) = settledIn d [e] ++ settledIn d log :=
      settledIn_append d [e] log
    have hstory : story serial (e :: log) = story serial [e] ++ story serial log :=
      story_append serial [e] log
    rw [hsettled, hstory, List.count_append, List.count_append, ih]
    congr 1
    cases e with
    | published _ _ => rfl
    | delivered _ s _ => by_cases hs : s = serial <;> simp [settledIn, story, QueueEvent.turn?, hs]
    | settled _ s d' =>
      by_cases hs : s = serial <;> by_cases hd' : d' = d <;>
        simp [settledIn, story, QueueEvent.turn?, hs, hd']
    | lost _ s =>
      by_cases hs : s = serial <;>
        simp [settledIn, story, QueueEvent.turn?, hs, Ne.symm hd]

/-- A message has one body. -/
theorem body_unique (hnodup : (publishedIn log).Nodup) {serial : Nat} {body body' : Bytes}
    (h : .published serial body ∈ log) (h' : .published serial body' ∈ log) : body = body' :=
  (QueueEvent.published.inj (Keyed.eq_of_nodup_filterMap hnodup h h' rfl rfl)).2

/-- A message that was published waits, is in hand, or is settled for good. -/
theorem Ledger.cases (h : Ledger log q) {serial : Nat} {body : Bytes}
    (hpublished : .published serial body ∈ log) : ∃ m : QueueMessage, m.serial = serial ∧
      m.body = body ∧ (m ∈ q.waiting ∧ Stands log m [] ∨
        m ∈ q.inFlight.map Prod.snd ∧ Stands log m [.handed m.delivery] ∨
          ∃ d, d ≠ .requeue ∧ Stands log m [.handed m.delivery, .ended d]) := by
  have hnodup : (publishedIn log).Nodup := h.serials ▸ List.nodup_range
  have hbody : ∀ {m : QueueMessage} {turns}, m.serial = serial → Stands log m turns →
      m.body = body := by
    rintro m turns rfl ⟨-, hm, -⟩
    exact body_unique hnodup hm hpublished
  rcases List.mem_append.mp (h.places.mem_iff.mpr (mem_publishedIn hpublished)) with hlive | hover
  · obtain ⟨m, hm, hserial⟩ := List.mem_map.mp hlive
    rcases List.mem_append.mp hm with hm | hm
    · have hstands := h.waiting m hm
      exact ⟨m, hserial, hbody hserial hstands, .inl ⟨hm, hstands⟩⟩
    · have hstands := h.inFlight m hm
      exact ⟨m, hserial, hbody hserial hstands, .inr (.inl ⟨hm, hstands⟩)⟩
  · obtain ⟨d, hd, hover⟩ : ∃ d, d ≠ .requeue ∧ serial ∈ settledIn d log := by
      rcases List.mem_append.mp hover with hover | hover
      · exact ⟨.ack, Disposition.noConfusion, hover⟩
      · exact ⟨.reject, Disposition.noConfusion, hover⟩
    obtain ⟨m, hserial, hstands⟩ := h.finished d hd serial hover
    exact ⟨m, hserial, hbody hserial hstands, .inr (.inr ⟨d, hd, hstands⟩)⟩

/-- The deliveries of a message are numbered; all but the last have been returned. -/
theorem Ledger.deliveries (h : Ledger log q) {serial : Nat} {body : Bytes}
    (hpublished : .published serial body ∈ log) :
    ∃ count, deliveriesIn (story serial log) = (List.range count).map (nthDelivery body) ∧
      count ≤ (story serial log).count (.ended .requeue) + 1 := by
  obtain ⟨m, rfl, rfl, hcases⟩ := h.cases hpublished
  -- in hand, or settled for good
  have hhanded : ∀ {turns}, deliveriesIn turns = [m.delivery] → Stands log m turns →
      ∃ count, deliveriesIn (story m.serial log) =
        (List.range count).map (nthDelivery m.body) ∧
          count ≤ (story m.serial log).count (.ended .requeue) + 1 := by
    intro turns hturns hstands
    obtain ⟨n, -, hattempt, hstory⟩ := hstands
    refine ⟨n + 1, ?_, ?_⟩
    · rw [hstory, deliveriesIn_rounds_append, hturns, delivery_eq_nth hattempt, List.range_succ,
        List.map_append]
      rfl
    · rw [hstory, count_ended_rounds_append, if_pos rfl]
      omega
  rcases hcases with ⟨-, hstands⟩ | ⟨-, hstands⟩ | ⟨d, -, hstands⟩
  · obtain ⟨n, -, -, hstory⟩ := hstands
    refine ⟨n, ?_, ?_⟩
    · rw [hstory, deliveriesIn_rounds_append]
      exact List.append_nil _
    · rw [hstory, count_ended_rounds_append, if_pos rfl]
      omega
  · exact hhanded rfl hstands
  · exact hhanded rfl hstands

/-- Every message is accounted for. -/
structure Accounted (log : List QueueEvent) (q : MemoryQueue) : Prop where
  /-- Messages are told apart. -/
  distinct : (publishedIn log).Nodup
  /-- A message that was published waits, is in hand, was acknowledged or was put aside, and only
  one of these. -/
  place : ∀ serial, (q.waiting.map QueueMessage.serial).count serial +
    ((q.inFlight.map Prod.snd).map QueueMessage.serial).count serial +
      (settledIn .ack log).count serial + (settledIn .reject log).count serial =
        if serial ∈ publishedIn log then 1 else 0
  /-- What is in the queue has its body still. -/
  body : ∀ m ∈ q.live, .published m.serial m.body ∈ log
  /-- What entered has been handed out or waits, in that order. -/
  order : enteredIn log = handedIn log ++ q.waiting.map QueueMessage.serial
  /-- The attempts of a message are one, two, three and so on. -/
  attempts : ∀ serial body, .published serial body ∈ log → ∀ k d,
    (deliveriesIn (story serial log))[k]? = some d →
      d.body = body ∧ (k + 1 < 2 ^ 32 → d.attempt.toNat = k + 1)
  /-- The bodies that were put aside, in that order. -/
  dead : List.Forall₂ (fun serial body => .published serial body ∈ log) (settledIn .reject log)
    q.dead

/-- Whatever receivers do with a queue, no message is lost, doubled, changed or handed out out of
turn. -/
theorem accounted_of_run (h : Run log q) : Accounted log q := by
  have hledger := ledger_of_run h
  have hnodup : (publishedIn log).Nodup := hledger.serials ▸ List.nodup_range
  refine ⟨hnodup, ?_, ?_, hledger.order, ?_, hledger.dead⟩
  · intro serial
    have hcount := hledger.places.count_eq serial
    rw [List.Nodup.count hnodup] at hcount
    unfold live at hcount
    rw [← hcount]
    simp only [List.map_append, List.count_append]
    omega
  · intro m hm
    rcases List.mem_append.mp hm with hm | hm
    · obtain ⟨-, hpublished, -⟩ := hledger.waiting m hm
      exact hpublished
    · obtain ⟨-, hpublished, -⟩ := hledger.inFlight m hm
      exact hpublished
  · intro serial body hpublished k d hd
    obtain ⟨count, hdeliveries, -⟩ := hledger.deliveries hpublished
    rw [hdeliveries] at hd
    obtain ⟨hk, hd⟩ := List.getElem?_eq_some_iff.mp hd
    rw [List.getElem_map, List.getElem_range] at hd
    subst hd
    exact ⟨rfl, fun hfits => (nthDelivery_eq hfits body).2⟩

/-- Two messages with one body: both are delivered, one is returned and one lost, and the second
time one is done and the other put aside. -/
theorem accounted_of_run_two : Accounted
    [.published 0 [65], .published 1 [65], .delivered 0 0 ⟨[65], 1⟩, .delivered 1 1 ⟨[65], 1⟩,
      .settled 0 0 .requeue, .lost 1 1, .delivered 2 0 ⟨[65], 2⟩, .settled 2 0 .ack,
      .delivered 3 1 ⟨[65], 2⟩, .settled 3 1 .reject]
    { dead := [[65]], published := 2, handedOut := 4 } := by
  have hpublished : Run [.published 0 [65], .published 1 [65]] _ :=
    (Run.start.next (.publish rfl)).next (.publish rfl)
  have hdelivered := (hpublished.next (.receive rfl rfl)).next (.receive rfl rfl)
  have hreturned := (hdelivered.next (@Happens.settle _ 0 _ rfl .requeue)).next
    (@Happens.drop _ 1 _ rfl)
  have hdone := (hreturned.next (.receive rfl rfl)).next (@Happens.settle _ 2 _ rfl .ack)
  have haside := (hdone.next (.receive rfl rfl)).next (@Happens.settle _ 3 _ rfl .reject)
  exact accounted_of_run haside

end Told

end MemoryQueue
end QueryGateway
