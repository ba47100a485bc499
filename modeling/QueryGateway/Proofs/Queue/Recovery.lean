import Mathlib.Data.List.Nodup
import QueryGateway.Proofs.Keyed
import QueryGateway.Proofs.Queue.Shelves

/-!
# Consumers of a queue on a list server

Producers publish to a queue on a list server and consumers take from it, each consumer under its
own name.  Their commands reach the server in any order; a command may be refused, or be carried out
without the reply being heard, and a consumer may break down at any moment.

## Main definitions

* `Exchange` — how a command and its reply fare.
* `Crew` — the server with the consumers of a queue.
* `Crew.Step`, `Crew.Run` — what they do, one command at a time.
* `Member.Sound` — how far a consumer has come, and what that says of its list.

## Main results

* `Crew.advances_of_step` — a step moves at most one envelope.
* `Crew.sound_of_run` — what the log tells of the lists.
-/

namespace QueryGateway

open Function (update)

/-! ### The lists on the server -/

/-- The key of a place. -/
def Place.key (queue : String) : Place → String
  | .waiting => queue
  | .processing c => RedisQueue.processingKey ⟨queue, c⟩
  | .dead => RedisQueue.deadKey ⟨queue, ""⟩

/-- What is added to the name of the queue in the key of a place. -/
def Place.suffix : Place → String
  | .waiting => ""
  | .processing c => ":processing:" ++ c
  | .dead => ":dead"

theorem Place.key_eq (queue : String) (p : Place) : p.key queue = queue ++ p.suffix := by
  cases p with
  | waiting => exact String.append_empty.symm
  | processing c => exact String.append_assoc
  | dead => rfl

theorem Place.suffix_injective : Function.Injective Place.suffix := by
  intro p q h
  have hchars := congrArg String.toList h
  cases p <;> cases q <;> simp [suffix] at hchars ⊢
  exact String.toList_inj.mp hchars

/-- Places have different keys. -/
theorem Place.key_injective (queue : String) : Function.Injective (Place.key queue) := by
  intro p q h
  rw [key_eq, key_eq] at h
  exact suffix_injective ((String.append_right_inj queue).mp h)

/-- The lists of a queue. -/
def ListStore.shelves (store : ListStore) (queue : String) (p : Place) : List Bytes :=
  store.get (p.key queue)

namespace ListStore

variable {store : ListStore} {queue : String} {p q : Place}

theorem get_set (store : ListStore) (key key' : String) (list : List Bytes) :
    (store.set key list).get key' = if key' = key then list else store.get key' := by
  unfold get set
  rw [Keyed.find?_insert]
  split <;> rfl

theorem shelves_set (store : ListStore) (queue : String) (p : Place) (list : List Bytes) :
    (store.set (p.key queue) list).shelves queue = update (store.shelves queue) p list := by
  funext p'
  unfold shelves
  rw [get_set, Function.update_apply]
  by_cases h : p' = p
  · rw [if_pos (congrArg _ h), if_pos h]
  · rw [if_neg fun heq => h (Place.key_injective queue heq), if_neg h]

theorem shelves_push (store : ListStore) (queue : String) (p : Place) (text : Bytes) :
    (store.run (.push (p.key queue) text)).2.shelves queue =
      update (store.shelves queue) p (text :: store.shelves queue p) :=
  shelves_set store queue p _

theorem shelves_remove (store : ListStore) (queue : String) (p : Place) (text : Bytes) :
    (store.run (.remove (p.key queue) text)).2.shelves queue =
      update (store.shelves queue) p ((store.shelves queue p).erase text) :=
  shelves_set store queue p _

theorem shelves_replace (store : ListStore) (queue : String) (hne : q ≠ p) (old new : Bytes) :
    (store.run (.replace (p.key queue) old (q.key queue) new)).2.shelves queue =
      update (update (store.shelves queue) p ((store.shelves queue p).erase old)) q
        (new :: store.shelves queue q) := by
  have hremoved := shelves_remove store queue p old
  have hlist := congrFun hremoved q
  rw [Function.update_of_ne hne] at hlist
  refine (shelves_set _ queue q _).trans ?_
  show update ((store.run (.remove (p.key queue) old)).2.shelves queue) q
    (new :: (store.run (.remove (p.key queue) old)).2.shelves queue q) = _
  rw [hlist, hremoved]

theorem run_move_none (waits : Bool) (q : Place) {takeAt : Side} (putAt : Side)
    (h : takeAt.take? (store.shelves queue p) = none) :
    store.run (.move waits (p.key queue) (q.key queue) takeAt putAt) = (none, store) := by
  unfold shelves at h
  unfold run
  dsimp only
  rw [h]

theorem run_move_some (waits : Bool) (hne : q ≠ p) {takeAt : Side} (putAt : Side) {text : Bytes}
    {rest : List Bytes} (h : takeAt.take? (store.shelves queue p) = some (text, rest)) :
    (store.run (.move waits (p.key queue) (q.key queue) takeAt putAt)).1 = some text ∧
      (store.run (.move waits (p.key queue) (q.key queue) takeAt putAt)).2.shelves queue =
        update (update (store.shelves queue) p rest) q
          (putAt.put text (store.shelves queue q)) := by
  have htaken := shelves_set store queue p rest
  have hlist := congrFun htaken q
  rw [Function.update_of_ne hne] at hlist
  unfold shelves at h
  unfold run
  dsimp only
  rw [h]
  refine ⟨rfl, (shelves_set _ queue q _).trans ?_⟩
  show update ((store.set (p.key queue) rest).shelves queue) q
    (putAt.put text ((store.set (p.key queue) rest).shelves queue q)) = _
  rw [hlist, htaken]

end ListStore

theorem Side.eq_nil_of_take? {list : List Bytes} (h : Side.left.take? list = none) : list = [] := by
  cases list with
  | nil => rfl
  | cons => cases h

theorem Side.eq_cons_of_take? {list rest : List Bytes} {text : Bytes}
    (h : Side.left.take? list = some (text, rest)) : list = text :: rest := by
  cases list with
  | nil => cases h
  | cons =>
    obtain ⟨rfl, rfl⟩ := Prod.mk.inj (Option.some.inj h)
    rfl

theorem Side.eq_append_of_take? {list rest : List Bytes} {text : Bytes}
    (h : Side.right.take? list = some (text, rest)) : list = rest ++ [text] := by
  obtain ⟨last, hlast, hpair⟩ := Option.map_eq_some_iff.mp h
  obtain ⟨rfl, rfl⟩ := Prod.mk.inj hpair
  obtain ⟨front, rfl⟩ := List.getLast?_eq_some_iff.mp hlast
  rw [List.dropLast_concat]

/-! ### Commands and programs -/

/-- How a command and its reply fare. -/
inductive Exchange
  | heard
  | refused (reason : String)
  /-- The command is carried out, but the reply is lost. -/
  | unheard (reason : String)

namespace Exchange

/-- The reply that is heard. -/
def reply (x : Exchange) (store : ListStore) (command : ListCommand) : ListReply :=
  match x with
  | heard => .ok (store.run command).1
  | refused reason => .error reason
  | unheard reason => .error reason

/-- Whether the command is carried out. -/
def takesEffect : Exchange → Bool
  | heard => true
  | refused _ => false
  | unheard _ => true

/-- The store afterwards. -/
def store (x : Exchange) (store : ListStore) (command : ListCommand) : ListStore :=
  if x.takesEffect then (store.run command).2 else store

/-- The element that is moved. -/
def moved? (x : Exchange) (store : ListStore) (command : ListCommand) : Option Bytes :=
  if x.takesEffect then (store.run command).1 else none

variable {x : Exchange} {lists : ListStore} {queue : String} {p q : Place}

theorem store_of_takesEffect (h : x.takesEffect = true) (lists : ListStore)
    (command : ListCommand) : x.store lists command = (lists.run command).2 := by
  unfold store
  rw [if_pos h]

theorem store_of_refused (h : x.takesEffect = false) (lists : ListStore)
    (command : ListCommand) : x.store lists command = lists := by
  unfold store
  rw [if_neg (by simp [h])]

/-- Either nothing is moved, or the element at the end of one list is moved to another; then the
reply tells which one it is, unless it is lost. -/
theorem move_cases (x : Exchange) (lists : ListStore) (queue : String) (waits : Bool)
    (hne : q ≠ p) (takeAt putAt : Side) :
    let command := ListCommand.move waits (p.key queue) (q.key queue) takeAt putAt
    (x.moved? lists command = none ∧ x.store lists command = lists ∧
      (x.reply lists command = .ok none ∧ takeAt.take? (lists.shelves queue p) = none ∨
        ∃ reason, x.reply lists command = .error reason)) ∨
    ∃ text rest, takeAt.take? (lists.shelves queue p) = some (text, rest) ∧
      x.moved? lists command = some text ∧
      (x.store lists command).shelves queue =
        update (update (lists.shelves queue) p rest) q (putAt.put text (lists.shelves queue q)) ∧
      (x.reply lists command = .ok (some text) ∨
        ∃ reason, x.reply lists command = .error reason) := by
  intro command
  cases hx : x.takesEffect with
  | false =>
    refine .inl ⟨if_neg (by simp [hx]), store_of_refused hx lists command, .inr ?_⟩
    cases x with
    | refused reason => exact ⟨reason, rfl⟩
    | heard | unheard => cases hx
  | true =>
    have hstore := store_of_takesEffect hx lists command
    have hmoved : x.moved? lists command = (lists.run command).1 := if_pos hx
    cases htake : takeAt.take? (lists.shelves queue p) with
    | none =>
      have hrun := ListStore.run_move_none waits q putAt htake
      rw [hrun] at hstore hmoved
      refine .inl ⟨hmoved, hstore, ?_⟩
      cases x with
      | heard =>
        refine .inl ⟨?_, rfl⟩
        show Except.ok (lists.run command).1 = _
        rw [hrun]
      | unheard reason => exact .inr ⟨reason, rfl⟩
      | refused => cases hx
    | some taken =>
      obtain ⟨text, rest⟩ := taken
      obtain ⟨hrun, hshelves⟩ := ListStore.run_move_some waits hne putAt htake
      refine .inr ⟨text, rest, rfl, hmoved.trans hrun, hstore ▸ hshelves, ?_⟩
      cases x with
      | heard => exact .inl (congrArg Except.ok hrun)
      | unheard reason => exact .inr ⟨reason, rfl⟩
      | refused => cases hx

end Exchange

namespace RedisQueue

variable (queue c : String)

theorem exists_publish_eq (id : String) (now : Instant) (body : Bytes) : ∃ next,
    publish ⟨queue, c⟩ id now body =
      .call (.push (Place.waiting.key queue) (Envelope.wrap id now body).encode) next :=
  ⟨_, rfl⟩

/-- Recovering moves an element and goes on until there is none. -/
theorem exists_recover_eq (n : Nat) : ∃ next,
    recover ⟨queue, c⟩ (n + 1) =
      .call (.move false ((Place.processing c).key queue) (Place.waiting.key queue) .left .right)
        next ∧
      (∀ reason, ∃ e, next (.error reason) = .done (.error e)) ∧
      next (.ok none) = .done (.ok ()) ∧
      ∀ text, next (.ok (some text)) = recover ⟨queue, c⟩ n :=
  ⟨_, rfl, fun _ => ⟨_, rfl⟩, rfl, fun _ => rfl⟩

/-- Receiving moves an element and hands it out if it is an envelope. -/
theorem exists_receive_eq (n : Nat) : ∃ next,
    receive ⟨queue, c⟩ (n + 1) =
      .call (.move true (Place.waiting.key queue) ((Place.processing c).key queue) .right .left)
        next ∧
      (∀ reason, ∃ e, next (.error reason) = .done (.error e)) ∧
      next (.ok none) = .done (.ok .pending) ∧
      ∀ {text e body}, Envelope.decode? text = some (e, body) →
        next (.ok (some text)) = .done (.ok (.handed ⟨.make body e.attempt, text⟩)) := by
  refine ⟨_, rfl, fun _ => ⟨_, rfl⟩, rfl, ?_⟩
  intro text e body h
  dsimp only [pure, Program.bind, Except.mapError]
  rw [h]

/-- The command that settles an envelope. -/
def settling (text : Bytes) (e : Envelope) : Disposition → ListCommand
  | .ack => .remove ((Place.processing c).key queue) text
  | .reject => .replace ((Place.processing c).key queue) text (Place.dead.key queue) text
  | .requeue =>
    .replace ((Place.processing c).key queue) text (Place.waiting.key queue) e.next.encode

theorem exists_settle_eq {text : Bytes} {e : Envelope} {body : Bytes}
    (h : Envelope.decode? text = some (e, body)) (d : Disposition) : ∃ next,
    settle ⟨queue, c⟩ text d = .call (settling queue c text e d) next := by
  cases d with
  | ack => exact ⟨_, rfl⟩
  | reject => exact ⟨_, rfl⟩
  | requeue =>
    unfold settle
    dsimp only
    rw [h]
    exact ⟨_, rfl⟩

end RedisQueue

/-! ### The consumers -/

/-- What a consumer is doing. -/
inductive ConsumerLoop
  | away
  | subscribing (rest : ListProgram (Except QueueError Unit))
  | idle
  | receiving (rest : ListProgram (Except QueueError Awaited))

/-- The consumer has subscribed. -/
def ConsumerLoop.serves : ConsumerLoop → Bool
  | .away | .subscribing _ => false
  | .idle | .receiving _ => true

/-- A consumer with the deliveries that it holds. -/
structure Member where
  loop : ConsumerLoop := .away
  held : List RedisDelivery := []

/-- The server with the consumers of a queue by their names. -/
structure Crew where
  store : ListStore := []
  members : String → Member := fun _ => {}

/-- The delivery that was received. -/
def deliveryOf : Except QueueError Awaited → List RedisDelivery
  | .ok (.handed d) => [d]
  | _ => []

namespace Crew

/-- The crew with a consumer doing something else. -/
def set (s : Crew) (c : String) (m : Member) : Crew := { s with members := update s.members c m }

/-- One step of a producer or a consumer, with what is logged of it: at most one command reaches the
server. -/
inductive Step (queue : String) : Crew → List ListEvent → Crew → Prop
  | publish {s : Crew} {producer id : String} {now : Instant} {body : Bytes}
      {command : ListCommand} {next : ListReply → ListProgram (Except QueueError Unit)}
      (hnow : now.WellFormed)
      (hprogram : RedisQueue.publish ⟨queue, producer⟩ id now body = .call command next)
      (x : Exchange) :
      Step queue s (if x.takesEffect then [.published id body] else [])
        { s with store := x.store s.store command }
  /-- There is one consumer of a name at most, and its recovery is as long as its list. -/
  | subscribe {s : Crew} {c : String} {n : Nat} (haway : (s.members c).loop = .away)
      (hn : (s.store.shelves queue (.processing c)).length ≤ n) :
      Step queue s [] (s.set c { loop := .subscribing (RedisQueue.subscribe ⟨queue, c⟩ n) })
  | recover {s : Crew} {c : String} {command : ListCommand}
      {next : ListReply → ListProgram (Except QueueError Unit)}
      (hloop : (s.members c).loop = .subscribing (.call command next)) (x : Exchange) :
      Step queue s ((x.moved? s.store command).toList.map (.returned c))
        { store := x.store s.store command
          members := update s.members c
            { s.members c with loop := .subscribing (next (x.reply s.store command)) } }
  | subscribed {s : Crew} {c : String}
      (hloop : (s.members c).loop = .subscribing (.done (.ok ()))) :
      Step queue s [.subscribed c] (s.set c { s.members c with loop := .idle })
  | ask {s : Crew} {c : String} (hloop : (s.members c).loop = .idle) (n : Nat) :
      Step queue s []
        (s.set c { s.members c with loop := .receiving (RedisQueue.receive ⟨queue, c⟩ n) })
  | receive {s : Crew} {c : String} {command : ListCommand}
      {next : ListReply → ListProgram (Except QueueError Awaited)}
      (hloop : (s.members c).loop = .receiving (.call command next)) (x : Exchange) :
      Step queue s ((x.moved? s.store command).toList.map (.received c))
        { store := x.store s.store command
          members := update s.members c
            { s.members c with loop := .receiving (next (x.reply s.store command)) } }
  | received {s : Crew} {c : String} {result : Except QueueError Awaited}
      (hloop : (s.members c).loop = .receiving (.done result)) :
      Step queue s [] (s.set c ⟨.idle, (s.members c).held ++ deliveryOf result⟩)
  | settle {s : Crew} {c : String} {delivery : RedisDelivery} {d : Disposition}
      {command : ListCommand} {next : ListReply → ListProgram (Except QueueError Unit)}
      (hheld : delivery ∈ (s.members c).held)
      (hprogram : RedisQueue.settle ⟨queue, c⟩ delivery.text d = .call command next)
      (x : Exchange) :
      Step queue s (if x.takesEffect then [.settled c delivery.text d] else [])
        { store := x.store s.store command
          members := update s.members c
            { s.members c with held := (s.members c).held.erase delivery } }
  /-- There is no envelope to be sent again. -/
  | unsettled {s : Crew} {c : String} {delivery : RedisDelivery} {d : Disposition}
      {result : Except QueueError Unit} (hheld : delivery ∈ (s.members c).held)
      (hprogram : RedisQueue.settle ⟨queue, c⟩ delivery.text d = .done result) :
      Step queue s []
        (s.set c { s.members c with held := (s.members c).held.erase delivery })
  /-- The consumer breaks down, or gives up. -/
  | leave {s : Crew} {c : String} (hloop : (s.members c).loop ≠ .away) :
      Step queue s [.left c] (s.set c {})

/-- What a crew has come to, with what is logged. -/
inductive Run (queue : String) : List ListEvent → Crew → Prop
  | start : Run queue [] {}
  | next {log events : List ListEvent} {s s' : Crew} :
      Run queue log s → Step queue s events s' → Run queue (log ++ events) s'

/-- The lists of the queue, and who serves it. -/
def shelves (s : Crew) (queue : String) : Shelves :=
  ⟨s.store.shelves queue, fun c => (s.members c).loop.serves⟩

end Crew

/-! ### How far a consumer has come -/

/-- What a consumer is doing, with the texts in its list and the deliveries that it holds. -/
def ConsumerLoop.Sound (q : RedisQueue) (list : List Bytes) (held : List RedisDelivery) :
    ConsumerLoop → Prop
  | .away => held = []
  | .subscribing rest => held = [] ∧
    ((∃ n, rest = q.recover n ∧ list.length < n) ∨
      ∃ result, rest = .done result ∧ (result = .ok () → list = []))
  | .idle => True
  | .receiving rest => (∃ n, rest = q.receive n) ∨
    ∃ result, rest = .done result ∧ ∀ d ∈ deliveryOf result,
      d.text ∈ list ∧ d.text ∉ held.map RedisDelivery.text

section ConsumerLoop

variable {q : RedisQueue} {list : List Bytes} {held : List RedisDelivery} {command : ListCommand}

/-- A consumer that is about to send a command while it subscribes is in the middle of its
recovery. -/
theorem ConsumerLoop.Sound.of_subscribing {next : ListReply → ListProgram (Except QueueError Unit)}
    (h : ConsumerLoop.Sound q list held (.subscribing (.call command next))) :
    held = [] ∧ ∃ n, q.recover (n + 1) = .call command next ∧ list.length ≤ n := by
  obtain ⟨hheld, ⟨n, hrest, hn⟩ | ⟨_, hrest, -⟩⟩ := h
  · obtain ⟨k, rfl⟩ := Nat.exists_eq_succ_of_ne_zero (Nat.ne_of_gt (Nat.zero_lt_of_lt hn))
    exact ⟨hheld, k, hrest.symm, Nat.le_of_lt_succ hn⟩
  · cases hrest

/-- The recovery goes on until the consumer's list is empty, unless it fails. -/
theorem ConsumerLoop.sound_subscribing {n : Nat}
    {next : ListReply → ListProgram (Except QueueError Unit)}
    (hprogram : q.recover (n + 1) = .call command next) (hheld : held = []) {reply : ListReply}
    (hreply : reply = .ok none ∧ list = [] ∨ (∃ text, reply = .ok (some text) ∧ list.length < n) ∨
      ∃ reason, reply = .error reason) :
    ConsumerLoop.Sound q list held (.subscribing (next reply)) := by
  obtain ⟨next', heq, herror, hnone, hsome⟩ := RedisQueue.exists_recover_eq q.queue q.consumer n
  cases heq.symm.trans hprogram
  refine ⟨hheld, ?_⟩
  rcases hreply with ⟨rfl, hempty⟩ | ⟨text, rfl, hn⟩ | ⟨reason, rfl⟩
  · exact .inr ⟨_, hnone, fun _ => hempty⟩
  · exact .inl ⟨n, hsome text, hn⟩
  · obtain ⟨e, he⟩ := herror reason
    exact .inr ⟨_, he, nofun⟩

/-- A consumer that is about to send a command while it receives is going to ask for a message. -/
theorem ConsumerLoop.Sound.of_receiving
    {next : ListReply → ListProgram (Except QueueError Awaited)}
    (h : ConsumerLoop.Sound q list held (.receiving (.call command next))) :
    ∃ n, q.receive (n + 1) = .call command next := by
  obtain ⟨n, hrest⟩ | ⟨_, hrest, -⟩ := h
  · cases n with
    | zero => cases hrest
    | succ k => exact ⟨k, hrest.symm⟩
  · cases hrest

/-- An envelope that is handed out is one that the consumer does not hold yet. -/
theorem ConsumerLoop.sound_receiving {n : Nat}
    {next : ListReply → ListProgram (Except QueueError Awaited)}
    (hprogram : q.receive (n + 1) = .call command next) {reply : ListReply}
    (hreply : reply = .ok none ∨
      (∃ text e body, reply = .ok (some text) ∧ Envelope.decode? text = some (e, body) ∧
        text ∈ list ∧ text ∉ held.map RedisDelivery.text) ∨
      ∃ reason, reply = .error reason) :
    ConsumerLoop.Sound q list held (.receiving (next reply)) := by
  obtain ⟨next', heq, herror, hnone, hsome⟩ := RedisQueue.exists_receive_eq q.queue q.consumer n
  cases heq.symm.trans hprogram
  rcases hreply with rfl | ⟨text, e, body, rfl, hdecode, hnew⟩ | ⟨reason, rfl⟩
  · exact .inr ⟨_, hnone, nofun⟩
  · exact .inr ⟨_, hsome hdecode, List.forall_mem_singleton.mpr hnew⟩
  · obtain ⟨e, he⟩ := herror reason
    exact .inr ⟨_, he, nofun⟩

end ConsumerLoop

/-- What is true of a consumer whose list holds some texts: the deliveries that it holds are of
different ones of them. -/
structure Member.Sound (q : RedisQueue) (list : List Bytes) (m : Member) : Prop where
  loop : m.loop.Sound q list m.held
  nodup : (m.held.map RedisDelivery.text).Nodup
  mem : ∀ d ∈ m.held, d.text ∈ list

section Member

variable {q : RedisQueue} {list : List Bytes} {m : Member}

theorem Member.sound_away (q : RedisQueue) (list : List Bytes) : Member.Sound q list {} :=
  ⟨rfl, List.nodup_nil, nofun⟩

/-- Only a consumer that has subscribed holds deliveries. -/
theorem Member.Sound.serves (h : m.Sound q list) {d : RedisDelivery} (hd : d ∈ m.held) :
    m.loop.serves = true := by
  have hloop := h.loop
  cases hm : m.loop with
  | away =>
    rw [hm] at hloop
    exact absurd hd (hloop ▸ List.not_mem_nil)
  | subscribing rest =>
    rw [hm] at hloop
    exact absurd hd (hloop.1 ▸ List.not_mem_nil)
  | idle | receiving => rfl

end Member

/-- The lists are as the log tells, and so are the consumers. -/
structure Crew.Sound (queue : String) (log : List ListEvent) (s : Crew) : Prop where
  kept : Kept log (s.store.shelves queue)
  members : ∀ c, (s.members c).Sound ⟨queue, c⟩ (s.store.shelves queue (.processing c))

/-- The step moves at most one envelope, which is logged, and the consumers are sound afterwards. -/
structure Crew.Advances (queue : String) (s : Crew) (events : List ListEvent) (s' : Crew) :
    Prop where
  effect : (events = [] ∧ s'.shelves queue = s.shelves queue) ∨
    ∃ e, events = [e] ∧ Shelves.Effect (s.shelves queue) e (s'.shelves queue)
  members : ∀ c, (s'.members c).Sound ⟨queue, c⟩ (s'.store.shelves queue (.processing c))

namespace Crew

variable {queue : String} {log : List ListEvent} {s : Crew} {c : String}

/-- A step of one consumer does not concern the others. -/
theorem Sound.members_update (h : Sound queue log s) {m : Member} {lists : Place → List Bytes}
    (hlists : ∀ c', c' ≠ c → lists (.processing c') = s.store.shelves queue (.processing c'))
    (hm : m.Sound ⟨queue, c⟩ (lists (.processing c))) (c' : String) :
    (update s.members c m c').Sound ⟨queue, c'⟩ (lists (.processing c')) := by
  by_cases hc : c' = c
  · subst hc
    rw [Function.update_self]
    exact hm
  · rw [Function.update_of_ne hc, hlists c' hc]
    exact h.members c'

theorem serves_set (s : Crew) (c : String) (m : Member) :
    (fun c' => (update s.members c m c').loop.serves) =
      update (fun c' => (s.members c').loop.serves) c m.loop.serves := by
  funext c'
  by_cases hc : c' = c
  · subst hc
    rw [Function.update_self, Function.update_self]
  · rw [Function.update_of_ne hc, Function.update_of_ne hc]

/-- The consumer goes on serving, or not, as before. -/
theorem serves_update {m : Member} (hm : m.loop.serves = (s.members c).loop.serves) :
    (fun c' => (update s.members c m c').loop.serves) = fun c' => (s.members c').loop.serves := by
  rw [serves_set, hm]
  exact Function.update_eq_self c _

/-- A step that changes only the lists. -/
theorem effect_of_shelves {s' : Crew} {e : ListEvent} {lists : Place → List Bytes}
    (hlists : s'.store.shelves queue = lists)
    (hserves : (fun c => (s'.members c).loop.serves) = fun c => (s.members c).loop.serves)
    (heffect : Shelves.Effect (s.shelves queue) e { s.shelves queue with lists }) :
    Shelves.Effect (s.shelves queue) e (s'.shelves queue) := by
  have hafter : s'.shelves queue = { s.shelves queue with lists } := by
    unfold shelves
    rw [hlists, hserves]
  rw [hafter]
  exact heffect

theorem Sound.publish (h : Sound queue log s) {producer id : String} {now : Instant} {body : Bytes}
    {command : ListCommand} {next : ListReply → ListProgram (Except QueueError Unit)}
    (hnow : now.WellFormed)
    (hprogram : RedisQueue.publish ⟨queue, producer⟩ id now body = .call command next)
    (x : Exchange) : Advances queue s (if x.takesEffect then [.published id body] else [])
      { s with store := x.store s.store command } := by
  obtain ⟨next', heq⟩ := RedisQueue.exists_publish_eq queue producer id now body
  cases heq.symm.trans hprogram
  cases hx : x.takesEffect with
  | false =>
    rw [Exchange.store_of_refused hx]
    exact ⟨.inl ⟨rfl, rfl⟩, h.members⟩
  | true =>
    rw [Exchange.store_of_takesEffect hx]
    have hlists := ListStore.shelves_push s.store queue .waiting (Envelope.wrap id now body).encode
    refine ⟨.inr ⟨_, rfl, effect_of_shelves hlists rfl ?_⟩, fun c => ?_⟩
    · exact .published (Envelope.carries_wrap id hnow body)
    · show (s.members c).Sound ⟨queue, c⟩ _
      rw [hlists, Function.update_of_ne Place.noConfusion]
      exact h.members c

theorem Sound.subscribe (h : Sound queue log s) {n : Nat}
    (haway : (s.members c).loop = .away)
    (hn : (s.store.shelves queue (.processing c)).length ≤ n) :
    Advances queue s []
      (s.set c { loop := .subscribing (RedisQueue.subscribe ⟨queue, c⟩ n) }) := by
  refine ⟨.inl ⟨rfl, ?_⟩, h.members_update (fun _ _ => rfl) ⟨?_, List.nodup_nil, nofun⟩⟩
  · unfold shelves set
    rw [serves_update (by rw [haway]; rfl)]
  · exact ⟨rfl, .inl ⟨n + 1, rfl, Nat.lt_succ_of_le hn⟩⟩

/-- Subscribing puts back what is at the head of the consumer's list, until there is nothing. -/
theorem Sound.recover (h : Sound queue log s) {command : ListCommand}
    {next : ListReply → ListProgram (Except QueueError Unit)}
    (hloop : (s.members c).loop = .subscribing (.call command next)) (x : Exchange) :
    Advances queue s ((x.moved? s.store command).toList.map (.returned c))
      { store := x.store s.store command
        members := update s.members c
          { s.members c with loop := .subscribing (next (x.reply s.store command)) } } := by
  have hsound := h.members c
  obtain ⟨hheld, n, hprogram, hn⟩ := (hloop ▸ hsound.loop).of_subscribing
  obtain ⟨next', heq, -⟩ := RedisQueue.exists_recover_eq queue c n
  cases heq.symm.trans hprogram
  have haway : (s.members c).loop.serves = false := by rw [hloop]; rfl
  -- whatever the reply is, the consumer does not serve yet
  have hserves : ∀ rest, (fun c' => (update s.members c
      { s.members c with loop := .subscribing rest } c').loop.serves) =
      fun c' => (s.members c').loop.serves := fun rest => serves_update haway.symm
  have hne : Place.waiting ≠ .processing c := Place.noConfusion
  rcases x.move_cases s.store queue false hne .left .right with
    ⟨hmoved, hstore, hreply⟩ | ⟨text, rest, htake, hmoved, hlists, hreply⟩
  · rw [hmoved, hstore]
    refine ⟨.inl ⟨rfl, congrArg _ (hserves _)⟩,
      h.members_update (fun _ _ => rfl) ⟨?_, hsound.nodup, hsound.mem⟩⟩
    exact ConsumerLoop.sound_subscribing hprogram hheld
      (hreply.imp (And.imp_right Side.eq_nil_of_take?) Or.inr)
  · have hlist := Side.eq_cons_of_take? htake
    have hrest : rest.length < n := by
      rw [hlist] at hn
      exact hn
    rw [hmoved]
    refine ⟨.inr ⟨_, rfl, effect_of_shelves hlists (hserves _) (.returned haway hlist)⟩,
      h.members_update (fun c' hc' => ?_) ?_⟩
    · rw [hlists, Function.update_of_ne Place.noConfusion,
        Function.update_of_ne (Shelves.processing_ne hc')]
    · rw [hlists, Function.update_of_ne hne.symm, Function.update_self]
      refine ⟨ConsumerLoop.sound_subscribing hprogram hheld ?_, hsound.nodup, ?_⟩
      · exact .inr (hreply.imp_left fun hreply => ⟨text, hreply, hrest⟩)
      · show ∀ d ∈ (s.members c).held, _
        rw [hheld]
        exact nofun

/-- Receiving hands out what is at the end of the queue's list. -/
theorem Sound.receive (h : Sound queue log s) {command : ListCommand}
    {next : ListReply → ListProgram (Except QueueError Awaited)}
    (hloop : (s.members c).loop = .receiving (.call command next)) (x : Exchange) :
    Advances queue s ((x.moved? s.store command).toList.map (.received c))
      { store := x.store s.store command
        members := update s.members c
          { s.members c with loop := .receiving (next (x.reply s.store command)) } } := by
  have hsound := h.members c
  obtain ⟨n, hprogram⟩ := (hloop ▸ hsound.loop).of_receiving
  obtain ⟨next', heq, -⟩ := RedisQueue.exists_receive_eq queue c n
  cases heq.symm.trans hprogram
  have hserving : (s.members c).loop.serves = true := by rw [hloop]; rfl
  -- whatever the reply is, the consumer goes on serving
  have hserves : ∀ rest, (fun c' => (update s.members c
      { s.members c with loop := .receiving rest } c').loop.serves) =
      fun c' => (s.members c').loop.serves := fun rest => serves_update hserving.symm
  have hne : Place.processing c ≠ .waiting := Place.noConfusion
  rcases x.move_cases s.store queue true hne .right .left with
    ⟨hmoved, hstore, hreply⟩ | ⟨text, rest, htake, hmoved, hlists, hreply⟩
  · rw [hmoved, hstore]
    refine ⟨.inl ⟨rfl, congrArg _ (hserves _)⟩,
      h.members_update (fun _ _ => rfl) ⟨?_, hsound.nodup, hsound.mem⟩⟩
    exact ConsumerLoop.sound_receiving hprogram (hreply.imp And.left Or.inr)
  · have hlist := Side.eq_append_of_take? htake
    have hwaiting : text ∈ s.store.shelves queue .waiting :=
      hlist ▸ List.mem_append_right _ List.mem_cons_self
    -- what is held is in the consumer's list, and not in the queue's
    have hnew : text ∉ (s.members c).held.map RedisDelivery.text := fun hmem => by
      obtain ⟨d, hd, rfl⟩ := List.mem_map.mp hmem
      exact h.kept.not_mem hne hwaiting (hsound.mem d hd)
    obtain ⟨e, body, rfl, he, -⟩ := h.kept.texts .waiting text hwaiting
    have hdecode := Envelope.decode?_encode he
    rw [hmoved]
    refine ⟨.inr ⟨_, rfl, effect_of_shelves hlists (hserves _) (.received hserving hlist)⟩,
      h.members_update (fun c' hc' => ?_) ?_⟩
    · rw [hlists, Function.update_of_ne (Shelves.processing_ne hc'),
        Function.update_of_ne Place.noConfusion]
    · rw [hlists, Function.update_self]
      refine ⟨ConsumerLoop.sound_receiving hprogram ?_, hsound.nodup, fun d hd => ?_⟩
      · exact .inr (hreply.imp_left fun hreply =>
          ⟨_, e, body, hreply, hdecode, List.mem_cons_self, hnew⟩)
      · exact List.mem_cons_of_mem _ (hsound.mem d hd)

/-- What was received is held until it is settled. -/
theorem Sound.received (h : Sound queue log s)
    {result : Except QueueError Awaited}
    (hloop : (s.members c).loop = .receiving (.done result)) :
    Advances queue s [] (s.set c ⟨.idle, (s.members c).held ++ deliveryOf result⟩) := by
  have hsound := h.members c
  have hrest := hsound.loop
  rw [hloop] at hrest
  have hresult : ∀ d ∈ deliveryOf result, d.text ∈ s.store.shelves queue (.processing c) ∧
      d.text ∉ (s.members c).held.map RedisDelivery.text := by
    rcases hrest with ⟨n, hrest⟩ | ⟨result', hrest, hresult⟩
    · cases n with
      | zero =>
        cases hrest
        exact nofun
      | succ k => cases hrest
    · cases hrest
      exact hresult
  have hserves := serves_update (s := s) (c := c)
    (m := ⟨.idle, (s.members c).held ++ deliveryOf result⟩) (by rw [hloop]; rfl)
  refine ⟨.inl ⟨rfl, congrArg _ hserves⟩, h.members_update (fun _ _ => rfl) ⟨trivial, ?_, ?_⟩⟩
  · rw [List.map_append]
    refine List.nodup_append.mpr ⟨hsound.nodup, ?_, fun text htext text' htext' heq => ?_⟩
    · unfold deliveryOf
      split <;> simp
    · obtain ⟨d, hd, rfl⟩ := List.mem_map.mp htext'
      exact (hresult d hd).2 (heq ▸ htext)
  · exact List.forall_mem_append.mpr ⟨hsound.mem, fun d hd => (hresult d hd).1⟩

/-- A consumer that is rid of a delivery holds the others as before; the text of the delivery may be
gone from its list. -/
theorem Sound.release (h : Sound queue log s) {delivery : RedisDelivery}
    (hheld : delivery ∈ (s.members c).held) {list : List Bytes}
    (hlist : ∀ text ∈ s.store.shelves queue (.processing c), text ≠ delivery.text → text ∈ list) :
    Member.Sound ⟨queue, c⟩ list
      { s.members c with held := (s.members c).held.erase delivery } := by
  have hsound := h.members c
  have hsublist : ((s.members c).held.erase delivery).Sublist (s.members c).held :=
    List.erase_sublist
  have htexts := hsublist.map RedisDelivery.text
  refine ⟨?_, hsound.nodup.sublist htexts, fun d hd => ?_⟩
  · have hloop := hsound.loop
    cases hm : (s.members c).loop with
    | away =>
      rw [hm] at hloop
      exact absurd hheld (hloop ▸ List.not_mem_nil)
    | subscribing rest =>
      rw [hm] at hloop
      exact absurd hheld (hloop.1 ▸ List.not_mem_nil)
    | idle => exact trivial
    | receiving rest =>
      rw [hm] at hloop
      refine hloop.imp_right ?_
      rintro ⟨result, hresult, hdeliveries⟩
      refine ⟨result, hresult, fun d hd => ?_⟩
      obtain ⟨hmem, hnew⟩ := hdeliveries d hd
      refine ⟨hlist _ hmem fun heq => ?_, fun hmem => hnew (htexts.subset hmem)⟩
      exact hnew (heq ▸ List.mem_map_of_mem hheld)
  · refine hlist _ (hsound.mem d (hsublist.subset hd)) fun heq => ?_
    -- two deliveries with one text are the same
    have hsame := List.inj_on_of_nodup_map hsound.nodup (hsublist.subset hd) hheld heq
    have hnodup := hsound.nodup.of_map RedisDelivery.text
    exact hnodup.not_mem_erase (hsame ▸ hd)

/-- What settling an envelope does to the lists. -/
theorem effect_of_settling {store : ListStore} (serves : String → Bool)
    (hserves : serves c = true) {e : Envelope} {body text : Bytes} (he : e.Carries body)
    (htext : e.encode = text) (hmem : text ∈ store.shelves queue (.processing c))
    (d : Disposition) : ∃ lists,
    (store.run (RedisQueue.settling queue c text e d)).2.shelves queue = lists ∧
      Shelves.Effect ⟨store.shelves queue, serves⟩ (.settled c text d) ⟨lists, serves⟩ ∧
      ∀ c', lists (.processing c') =
        if c' = c then (store.shelves queue (.processing c)).erase text
        else store.shelves queue (.processing c') := by
  subst htext
  have hrest : ∀ (list : List Bytes) (c' : String),
      update (store.shelves queue) (.processing c) list (.processing c') =
        if c' = c then list else store.shelves queue (.processing c') := by
    intro list c'
    rw [Function.update_apply]
    by_cases hc : c' = c <;> simp [hc]
  cases d with
  | ack =>
    exact ⟨_, ListStore.shelves_remove store queue (.processing c) _, .acked hserves hmem,
      hrest _⟩
  | reject =>
    have hne : Place.dead ≠ .processing c := Place.noConfusion
    refine ⟨_, ListStore.shelves_replace store queue hne _ _, .rejected hserves hmem, fun c' => ?_⟩
    rw [Function.update_of_ne Place.noConfusion, hrest]
  | requeue =>
    have hne : Place.waiting ≠ .processing c := Place.noConfusion
    refine ⟨_, ListStore.shelves_replace store queue hne _ _, .requeued hserves he hmem,
      fun c' => ?_⟩
    rw [Function.update_of_ne Place.noConfusion, hrest]

/-- Settling takes the envelope from the consumer's list. -/
theorem Sound.settle (h : Sound queue log s) {delivery : RedisDelivery} {d : Disposition}
    {command : ListCommand} {next : ListReply → ListProgram (Except QueueError Unit)}
    (hheld : delivery ∈ (s.members c).held)
    (hprogram : RedisQueue.settle ⟨queue, c⟩ delivery.text d = .call command next)
    (x : Exchange) :
    Advances queue s (if x.takesEffect then [.settled c delivery.text d] else [])
      { store := x.store s.store command
        members := update s.members c
          { s.members c with held := (s.members c).held.erase delivery } } := by
  have hmem := (h.members c).mem delivery hheld
  obtain ⟨e, body, htext, he, -⟩ := h.kept.texts _ _ hmem
  have hdecode := Envelope.decode?_encode he
  rw [htext] at hdecode
  obtain ⟨next', heq⟩ := RedisQueue.exists_settle_eq queue c hdecode d
  cases heq.symm.trans hprogram
  have hserves := serves_update (s := s) (c := c)
    (m := { s.members c with held := (s.members c).held.erase delivery }) rfl
  cases hx : x.takesEffect with
  | false =>
    rw [Exchange.store_of_refused hx]
    exact ⟨.inl ⟨rfl, congrArg _ hserves⟩,
      h.members_update (fun _ _ => rfl) (h.release hheld fun _ htext _ => htext)⟩
  | true =>
    rw [Exchange.store_of_takesEffect hx]
    have hserving := (h.members c).serves hheld
    obtain ⟨lists, hlists, heffect, hothers⟩ := effect_of_settling (s.shelves queue).serves
      hserving he htext hmem d
    refine ⟨.inr ⟨_, rfl, effect_of_shelves hlists hserves heffect⟩,
      h.members_update (fun c' hc' => ?_) (h.release hheld fun text htext hne => ?_)⟩
    · rw [hlists, hothers, if_neg hc']
    · rw [hlists, hothers, if_pos rfl]
      exact (List.mem_erase_of_ne hne).mpr htext

theorem Sound.subscribed (h : Sound queue log s)
    (hloop : (s.members c).loop = .subscribing (.done (.ok ()))) :
    Advances queue s [.subscribed c] (s.set c { s.members c with loop := .idle }) := by
  have hsound := h.members c
  have hrest := hsound.loop
  rw [hloop] at hrest
  have haway : (s.members c).loop.serves = false := by
    rw [hloop]
    rfl
  have hempty : s.store.shelves queue (.processing c) = [] := by
    rcases hrest.2 with ⟨n, hrest, hn⟩ | ⟨result, hrest, hresult⟩
    · cases n with
      | zero => exact absurd hn (Nat.not_lt_zero _)
      | succ k => cases hrest
    · cases hrest
      exact hresult rfl
  refine ⟨.inr ⟨_, rfl, ?_⟩,
    h.members_update (fun _ _ => rfl) ⟨trivial, hsound.nodup, hsound.mem⟩⟩
  have hafter : (s.set c { s.members c with loop := .idle }).shelves queue =
      { s.shelves queue with serves := update (s.shelves queue).serves c true } :=
    congrArg _ (serves_set s c _)
  rw [hafter]
  exact .subscribed haway hempty

theorem Sound.ask (h : Sound queue log s) (hloop : (s.members c).loop = .idle) (n : Nat) :
    Advances queue s []
      (s.set c { s.members c with loop := .receiving (RedisQueue.receive ⟨queue, c⟩ n) }) := by
  have hsound := h.members c
  have hserves := serves_update (s := s) (c := c)
    (m := { s.members c with loop := .receiving (RedisQueue.receive ⟨queue, c⟩ n) })
    (by rw [hloop]; rfl)
  exact ⟨.inl ⟨rfl, congrArg _ hserves⟩,
    h.members_update (fun _ _ => rfl) ⟨.inl ⟨n, rfl⟩, hsound.nodup, hsound.mem⟩⟩

theorem Sound.leave (h : Sound queue log s) : Advances queue s [.left c] (s.set c {}) := by
  refine ⟨.inr ⟨_, rfl, ?_⟩, h.members_update (fun _ _ => rfl) (Member.sound_away _ _)⟩
  have hafter : (s.set c {}).shelves queue =
      { s.shelves queue with serves := update (s.shelves queue).serves c false } :=
    congrArg _ (serves_set s c _)
  rw [hafter]
  exact .left

end Crew

end QueryGateway
