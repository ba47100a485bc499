import Mathlib.Data.List.Induction
import Mathlib.Logic.Relation
import QueryGateway.Proofs.Program
import QueryGateway.Proofs.Queue.Recovery

/-!
# What comes of receiving

A consumer takes entries from the queue until one is an envelope, which it hands out.  What is no
envelope it puts aside before it goes on, and meanwhile anyone may use the server: producers, the
other consumers, and the consumer itself where it settles what it holds.

## Main definitions

* `RedisQueue.Receives` — the finished runs of receiving.
* `Elsewhere`, `Meanwhile` — what the others have the server do between two commands.
* `Serving` — how the server answers a command of the consumer in the midst of that.
* `Accounts` — where the entries are that are no envelopes.
* `RedisQueue.PutsAside` — what becomes of the entries that a consumer takes.

## Main results

* `RedisQueue.trace_receive` — the runs of receiving are these.
* `RedisQueue.Receives.exists_putsAside` — what is no envelope becomes a dead letter.
* `RedisQueue.run_receive_strays` — receiving goes on behind any number of strays.
-/

namespace QueryGateway

open Function (update)
open Program

/-! ### Runs -/

/-- Commands with the replies to them. -/
abbrev ListEvents := List ((_ : ListCommand) × ListReply)

/-- The entries that a consumer took. -/
def takenIn (events : ListEvents) : List Bytes :=
  events.filterMap fun
    | ⟨.move _ _ _ _ _, .ok (some text)⟩ => some text
    | _ => none

namespace RedisQueue

variable {q : RedisQueue} {n : Nat} {events : ListEvents}
  {result : Except QueueError Awaited}

/-- The command that takes the next entry. -/
def taking (q : RedisQueue) : ListCommand := .move true q.queue q.processingKey .right .left

/-- The command that puts an entry aside. -/
def settingAside (q : RedisQueue) (text : Bytes) : ListCommand :=
  .replace q.processingKey text q.deadKey text

/-- The finished runs of receiving in a number of steps. -/
inductive Receives (q : RedisQueue) :
    Nat → ListEvents → Except QueueError Awaited → Prop
  | tired : Receives q 0 [] (.ok .pending)
  | failed {n : Nat} (reason : String) :
      Receives q (n + 1) [⟨q.taking, .error reason⟩] (.error (.receive ("BLMOVE: " ++ reason)))
  | nothing {n : Nat} : Receives q (n + 1) [⟨q.taking, .ok none⟩] (.ok .pending)
  | handed {n : Nat} {text body : Bytes} {e : Envelope}
      (h : Envelope.decode? text = some (e, body)) :
      Receives q (n + 1) [⟨q.taking, .ok (some text)⟩] (.ok (.handed ⟨.make body e.attempt, text⟩))
  /-- An entry that is no envelope could not be put aside. -/
  | stuck {n : Nat} {text : Bytes} (h : Envelope.decode? text = none) (reason : String) :
      Receives q (n + 1) [⟨q.taking, .ok (some text)⟩, ⟨q.settingAside text, .error reason⟩]
        (.error (.settle ("reject: " ++ reason)))
  /-- An entry that is no envelope is put aside, and the next one is taken. -/
  | aside {n : Nat} {text : Bytes} {reply : Option Bytes} {events : ListEvents}
      {result : Except QueueError Awaited} (h : Envelope.decode? text = none)
      (rest : Receives q n events result) :
      Receives q (n + 1)
        (⟨q.taking, .ok (some text)⟩ :: ⟨q.settingAside text, .ok reply⟩ :: events) result

/-- A run that begins with a command goes on with its reply. -/
theorem trace_command_bind {α : Type} {c : ListCommand} {failure : String → QueueError}
    {f : Except QueueError (Option Bytes) → ListProgram α} {result : α} :
    Trace (command c failure >>= f) events result ↔
      ∃ reply rest, events = ⟨c, reply⟩ :: rest ∧
        Trace (f (reply.mapError failure)) rest result :=
  trace_perform_bind

/-- A run that begins by putting an entry aside. -/
theorem trace_settle_bind {α : Type} {text : Bytes} {f : Except QueueError Unit → ListProgram α}
    {result : α} : Trace (q.settle text .reject >>= f) events result ↔
      ∃ reply rest, events = ⟨q.settingAside text, reply⟩ :: rest ∧
        Trace (f ((reply.mapError fun reason => .settle ("reject: " ++ reason)).map fun _ => ()))
          rest result :=
  trace_perform_bind

/-- The runs of receiving. -/
theorem trace_receive : (q.receive n).Trace events result ↔ q.Receives n events result := by
  induction n generalizing events with
  | zero =>
    refine trace_done.trans ⟨?_, ?_⟩
    · rintro ⟨rfl, rfl⟩
      exact .tired
    · rintro ⟨⟩
      exact ⟨rfl, rfl⟩
  | succ n ih =>
    refine trace_command_bind.trans ⟨?_, ?_⟩
    · rintro ⟨reply, rest, rfl, h⟩
      cases reply with
      | error reason =>
        obtain ⟨rfl, rfl⟩ := trace_done.mp h
        exact .failed reason
      | ok taken =>
        cases taken with
        | none =>
          obtain ⟨rfl, rfl⟩ := trace_done.mp h
          exact .nothing
        | some text =>
          dsimp only [Except.mapError] at h
          cases hdecode : Envelope.decode? text with
          | some read =>
            obtain ⟨e, body⟩ := read
            rw [hdecode] at h
            obtain ⟨rfl, rfl⟩ := trace_done.mp h
            exact .handed hdecode
          | none =>
            rw [hdecode] at h
            obtain ⟨reply, rest, rfl, hsettled⟩ := trace_settle_bind.mp h
            cases reply with
            | error reason =>
              obtain ⟨rfl, rfl⟩ := trace_done.mp hsettled
              exact .stuck hdecode reason
            | ok reply => exact .aside hdecode (ih.mp hsettled)
    · intro h
      cases h with
      | failed reason => exact ⟨_, [], rfl, .done _⟩
      | nothing => exact ⟨_, [], rfl, .done _⟩
      | handed hdecode =>
        refine ⟨_, [], rfl, ?_⟩
        dsimp only [Except.mapError]
        rw [hdecode]
        exact .done _
      | stuck hdecode reason =>
        refine ⟨_, _, rfl, ?_⟩
        dsimp only [Except.mapError]
        rw [hdecode]
        exact trace_settle_bind.mpr ⟨_, [], rfl, .done _⟩
      | aside hdecode rest =>
        refine ⟨_, _, rfl, ?_⟩
        dsimp only [Except.mapError]
        rw [hdecode]
        exact trace_settle_bind.mpr ⟨_, _, rfl, ih.mpr rest⟩

end RedisQueue

/-! ### The server meanwhile -/

/-- What the server does for others while a consumer receives: for producers, for the other
consumers, and for the consumer itself when it settles an envelope that it holds. -/
inductive Elsewhere (queue c : String) : ListCommand → Prop
  | publish (text : Bytes) : Elsewhere queue c (.push (Place.waiting.key queue) text)
  | receive {c' : String} (h : c' ≠ c) :
      Elsewhere queue c
        (.move true (Place.waiting.key queue) ((Place.processing c').key queue) .right .left)
  | recover {c' : String} (h : c' ≠ c) :
      Elsewhere queue c
        (.move false ((Place.processing c').key queue) (Place.waiting.key queue) .left .right)
  | settle {c' : String} {text : Bytes} (h : c' ≠ c ∨ (Envelope.decode? text).isSome = true)
      (e : Envelope) (d : Disposition) : Elsewhere queue c (RedisQueue.settling queue c' text e d)

/-- Others use the server. -/
def Meanwhile (queue c : String) : ListStore → ListStore → Prop :=
  Relation.ReflTransGen fun lists lists' =>
    ∃ (command : ListCommand) (x : Exchange), Elsewhere queue c command ∧
      lists' = x.store lists command

/-- A command of the consumer is answered, after others have used the server. -/
def Serving (queue c : String) (lists : ListStore) (command : ListCommand) (reply : ListReply)
    (lists' : ListStore) : Prop :=
  ∃ (middle : ListStore) (x : Exchange), Meanwhile queue c lists middle ∧
    reply = x.reply middle command ∧ lists' = x.store middle command

/-- What is no envelope is in the list of a consumer or among the dead letters as before, but for
the entries that were taken into that list and those that were put aside out of it. -/
structure Accounts (c : String) (taken aside : List Bytes) (lists lists' : Place → List Bytes) :
    Prop where
  processing (text : Bytes) (h : Envelope.decode? text = none) :
    (lists' (.processing c)).count text + aside.count text =
      (lists (.processing c)).count text + taken.count text
  dead (text : Bytes) (h : Envelope.decode? text = none) :
    (lists .dead).count text + aside.count text ≤ (lists' .dead).count text

namespace Accounts

variable {c : String} {taken taken' aside aside' : List Bytes}
  {lists lists' lists'' : Place → List Bytes}

theorem refl (c : String) (lists : Place → List Bytes) : Accounts c [] [] lists lists :=
  ⟨fun _ _ => rfl, fun _ _ => Nat.le_refl _⟩

theorem trans (h : Accounts c taken aside lists lists')
    (h' : Accounts c taken' aside' lists' lists'') :
    Accounts c (taken ++ taken') (aside ++ aside') lists lists'' := by
  constructor
  · intro text htext
    have hfirst := h.processing text htext
    have hsecond := h'.processing text htext
    rw [List.count_append, List.count_append]
    omega
  · intro text htext
    have hfirst := h.dead text htext
    have hsecond := h'.dead text htext
    rw [List.count_append]
    omega

/-- Another list may change; the dead letters may become more. -/
theorem update_of_ne {p : Place} (hp : p ≠ .processing c) {list : List Bytes}
    (hdead : p = .dead → ∀ text, (lists .dead).count text ≤ list.count text) :
    Accounts c [] [] lists (update lists p list) := by
  refine ⟨fun text _ => ?_, fun text _ => ?_⟩
  · rw [Function.update_of_ne hp.symm]
  · rw [Function.update_apply]
    split
    · next h => exact hdead h.symm text
    · exact Nat.le_refl _

/-- An envelope may be taken from a list, and anything from the list of another consumer. -/
theorem update_erase {c' : String} {text : Bytes}
    (h : c' ≠ c ∨ (Envelope.decode? text).isSome = true) :
    Accounts c [] [] lists
      (update lists (.processing c') ((lists (.processing c')).erase text)) := by
  by_cases hc : c' = c
  · subst hc
    refine ⟨fun stray hstray => ?_, fun stray _ => ?_⟩
    · have hne : stray ≠ text := by
        rintro rfl
        simp [hstray] at h
      rw [Function.update_self, List.count_erase_of_ne hne]
    · rw [Function.update_of_ne Place.noConfusion]
      exact Nat.le_refl _
  · exact update_of_ne (by simp [hc]) nofun

/-- An entry is taken. -/
theorem take {text : Bytes} {rest : List Bytes} (lists : Place → List Bytes) :
    Accounts c [text] [] lists
      (update (update lists .waiting rest) (.processing c) (text :: lists (.processing c))) := by
  refine ⟨fun stray _ => ?_, fun stray _ => ?_⟩
  · rw [Function.update_self]
    simp only [List.count_cons, List.count_nil]
    omega
  · rw [Function.update_of_ne Place.noConfusion, Function.update_of_ne Place.noConfusion]
    exact Nat.le_refl _

/-- An entry is put aside. -/
theorem putAside {text : Bytes} {lists : Place → List Bytes} (hmem : text ∈ lists (.processing c)) :
    Accounts c [] [text] lists
      (update (update lists (.processing c) ((lists (.processing c)).erase text)) .dead
        (text :: lists .dead)) := by
  refine ⟨fun stray _ => ?_, fun stray _ => ?_⟩
  · have hperm := (List.perm_cons_erase hmem).count_eq stray
    rw [Function.update_of_ne Place.noConfusion, Function.update_self, hperm]
    simp only [List.count_cons, List.count_nil]
    omega
  · rw [Function.update_self]
    simp only [List.count_cons, List.count_nil]
    omega

end Accounts

/-- What others do leaves alone what is no envelope. -/
theorem Elsewhere.accounts {queue c : String} {command : ListCommand}
    (h : Elsewhere queue c command) (x : Exchange) (lists : ListStore) :
    Accounts c [] [] (lists.shelves queue) ((x.store lists command).shelves queue) := by
  have hmoved {p q : Place} (hp : p ≠ .processing c ∧ p ≠ .dead)
      (hq : q ≠ .processing c ∧ q ≠ .dead) (hne : q ≠ p) (waits : Bool) (takeAt putAt : Side) :
      Accounts c [] [] (lists.shelves queue)
        ((x.store lists (.move waits (p.key queue) (q.key queue) takeAt putAt)).shelves queue) := by
    obtain ⟨-, hstore, -⟩ | ⟨text, rest, -, -, hshelves, -⟩ :=
      x.move_cases lists queue waits hne takeAt putAt
    · rw [hstore]
      exact .refl c _
    · rw [hshelves]
      exact (Accounts.update_of_ne hp.1 (absurd · hp.2)).trans
        (.update_of_ne hq.1 (absurd · hq.2))
  cases hx : x.takesEffect with
  | false =>
    rw [Exchange.store_of_refused hx]
    exact .refl c _
  | true =>
    cases h with
    | receive h => exact hmoved (by simp) (by simp [h]) (by simp) true .right .left
    | recover h => exact hmoved (by simp [h]) (by simp) (by simp) false .left .right
    | publish text =>
      rw [Exchange.store_of_takesEffect hx, ListStore.shelves_push]
      exact .update_of_ne (by simp) nofun
    | @settle c' text h e d =>
      rw [Exchange.store_of_takesEffect hx]
      cases d with
      | ack => exact ListStore.shelves_remove lists queue (.processing c') text ▸ .update_erase h
      | reject =>
        have hne : Place.dead ≠ .processing c' := Place.noConfusion
        refine (ListStore.shelves_replace lists queue hne text text) ▸
          (Accounts.update_erase h).trans (.update_of_ne (by simp) fun _ stray => ?_)
        rw [Function.update_of_ne hne]
        exact List.count_le_count_cons
      | requeue =>
        have hne : Place.waiting ≠ .processing c' := Place.noConfusion
        exact (ListStore.shelves_replace lists queue hne text e.next.encode) ▸
          (Accounts.update_erase h).trans (.update_of_ne (by simp) nofun)

theorem Meanwhile.accounts {queue c : String} {lists lists' : ListStore}
    (h : Meanwhile queue c lists lists') :
    Accounts c [] [] (lists.shelves queue) (lists'.shelves queue) := by
  induction h with
  | refl => exact .refl c _
  | tail _ hstep ih =>
    obtain ⟨command, x, helsewhere, rfl⟩ := hstep
    exact ih.trans (helsewhere.accounts x _)

/-! ### What is put aside -/

namespace RedisQueue

variable {queue c : String} {n : Nat} {events : ListEvents} {lists lists' : ListStore}
  {result : Except QueueError Awaited} {text : Bytes} {reply : ListReply}

/-- Taking moves one entry at most, and that which the reply tells unless it is an error. -/
theorem exists_taken (h : Serving queue c lists (taking ⟨queue, c⟩) reply lists') :
    ∃ moved : Option Bytes,
      Accounts c moved.toList [] (lists.shelves queue) (lists'.shelves queue) ∧
      (∀ text ∈ moved, text ∈ lists'.shelves queue (.processing c)) ∧
      ∀ taken, reply = .ok taken → moved = taken := by
  obtain ⟨middle, x, hmeanwhile, rfl, rfl⟩ := h
  have hne : Place.processing c ≠ .waiting := Place.noConfusion
  rcases x.move_cases middle queue true hne .right .left with
    ⟨-, hstore, hreply⟩ | ⟨text, rest, -, -, hshelves, hreply⟩
  · refine ⟨none, ?_, nofun, fun taken htaken => ?_⟩
    · have hstore : x.store middle (taking ⟨queue, c⟩) = middle := hstore
      rw [hstore]
      exact hmeanwhile.accounts
    · rcases hreply with ⟨hreply, -⟩ | ⟨reason, hreply⟩
      · exact Except.ok.inj (hreply.symm.trans htaken)
      · cases hreply.symm.trans htaken
  · refine ⟨some text, ?_, fun text' htext => ?_, fun taken htaken => ?_⟩
    · exact hshelves ▸ hmeanwhile.accounts.trans (.take _)
    · obtain rfl := Option.some.inj htext
      have hlist := congrFun hshelves (.processing c)
      rw [Function.update_self] at hlist
      exact hlist ▸ List.mem_cons_self
    · rcases hreply with hreply | ⟨reason, hreply⟩
      · exact Except.ok.inj (hreply.symm.trans htaken)
      · cases hreply.symm.trans htaken

/-- A stray that is put aside. -/
theorem accounts_settingAside {taken : Option Bytes}
    (h : Serving queue c lists (settingAside ⟨queue, c⟩ text) (.ok taken) lists')
    (htext : Envelope.decode? text = none) (hmem : text ∈ lists.shelves queue (.processing c)) :
    Accounts c [] [text] (lists.shelves queue) (lists'.shelves queue) := by
  obtain ⟨middle, x, hmeanwhile, hreply, rfl⟩ := h
  have hkept := hmeanwhile.accounts
  have hx : x.takesEffect = true := by
    cases x with
    | heard | unheard => rfl
    | refused => cases hreply
  have hmem : text ∈ middle.shelves queue (.processing c) := by
    have hcount := hkept.processing text htext
    rw [← List.count_pos_iff] at hmem ⊢
    simp only [List.count_nil] at hcount
    omega
  have hshelves := ListStore.shelves_replace middle queue
    (Place.noConfusion : Place.dead ≠ .processing c) text text
  rw [Exchange.store_of_takesEffect hx]
  exact hshelves ▸ hkept.trans (.putAside hmem)

/-- What becomes of the entries that a consumer takes while it receives.  All but the last are no
envelopes, and the last is handed out if it is one.  When the commands that put entries aside
succeed, what is no envelope is among the dead letters as often as it was taken, and is not left in
the consumer's list; one entry may be left there, of which nothing was heard, when receiving ends
with an error. -/
structure PutsAside (queue c : String) (events : ListEvents)
    (result : Except QueueError Awaited) (strays : List Bytes) : Prop where
  taken : takenIn events = strays ++ (deliveryOf result).map RedisDelivery.text
  undecodable : ∀ text ∈ strays, Envelope.decode? text = none
  handed : ∀ d ∈ deliveryOf result, ∃ e body, Envelope.decode? d.text = some (e, body) ∧
    d.delivery = .make body e.attempt
  kept (lists lists' : ListStore) (h : Served (Serving queue c) lists events lists')
    (hsettled : ∀ text reply, ⟨settingAside ⟨queue, c⟩ text, reply⟩ ∈ events →
      ∃ taken, reply = .ok taken) :
    ∃ lost : Option Bytes, ((∀ e, result ≠ .error e) → lost = none) ∧
      ∀ text, Envelope.decode? text = none →
        (lists'.shelves queue (.processing c)).count text =
          (lists.shelves queue (.processing c)).count text + lost.toList.count text ∧
        (lists.shelves queue .dead).count text + strays.count text ≤
          (lists'.shelves queue .dead).count text

/-- A consumer puts aside what is no envelope. -/
theorem Receives.exists_putsAside (h : Receives ⟨queue, c⟩ n events result) :
    ∃ strays, PutsAside queue c events result strays := by
  induction h with
  | tired =>
    refine ⟨[], rfl, List.forall_mem_nil _, List.forall_mem_nil _, fun lists lists' h _ => ?_⟩
    obtain rfl := served_nil.mp h
    exact ⟨none, fun _ => rfl, fun _ _ => ⟨rfl, Nat.le_refl _⟩⟩
  | failed reason =>
    refine ⟨[], rfl, List.forall_mem_nil _, List.forall_mem_nil _, fun lists lists' h _ => ?_⟩
    obtain ⟨moved, haccounts, -, -⟩ := exists_taken (served_singleton.mp h)
    exact ⟨moved, fun h => absurd rfl (h _), fun text htext =>
      ⟨haccounts.processing text htext, haccounts.dead text htext⟩⟩
  | nothing =>
    refine ⟨[], rfl, List.forall_mem_nil _, List.forall_mem_nil _, fun lists lists' h _ => ?_⟩
    obtain ⟨moved, haccounts, -, hmoved⟩ := exists_taken (served_singleton.mp h)
    obtain rfl := hmoved none rfl
    exact ⟨none, fun _ => rfl, fun text htext =>
      ⟨haccounts.processing text htext, haccounts.dead text htext⟩⟩
  | @handed n text body e hdecode =>
    refine ⟨[], rfl, List.forall_mem_nil _, List.forall_mem_singleton.mpr ⟨e, body, hdecode, rfl⟩,
      fun lists lists' h _ => ?_⟩
    obtain ⟨moved, haccounts, -, hmoved⟩ := exists_taken (served_singleton.mp h)
    obtain rfl := hmoved (some text) rfl
    refine ⟨none, fun _ => rfl, fun stray hstray => ⟨?_, haccounts.dead stray hstray⟩⟩
    have hne : stray ∉ [text] := by
      rintro hmem
      obtain rfl := List.mem_singleton.mp hmem
      cases hdecode.symm.trans hstray
    have hcount := haccounts.processing stray hstray
    rwa [Option.toList_some, List.count_eq_zero_of_not_mem hne] at hcount
  | @stuck n text hdecode reason =>
    refine ⟨[text], rfl, List.forall_mem_singleton.mpr hdecode, List.forall_mem_nil _,
      fun lists lists' _ hsettled => ?_⟩
    obtain ⟨taken, htaken⟩ := hsettled text (.error reason) (by simp)
    cases htaken
  | @aside n text reply events result hdecode rest ih =>
    obtain ⟨strays, hrest⟩ := ih
    refine ⟨text :: strays, congrArg (text :: ·) hrest.taken,
      List.forall_mem_cons.mpr ⟨hdecode, hrest.undecodable⟩, hrest.handed,
      fun lists lists' h hsettled => ?_⟩
    obtain ⟨taken, htaking, h⟩ := served_cons.mp h
    obtain ⟨cleared, hsetting, h⟩ := served_cons.mp h
    obtain ⟨lost, hlost, hkept⟩ := hrest.kept cleared lists' h fun text reply hmem =>
      hsettled text reply (List.mem_cons_of_mem _ (List.mem_cons_of_mem _ hmem))
    obtain ⟨moved, htakes, hmem, hmoved⟩ := exists_taken htaking
    obtain rfl := hmoved (some text) rfl
    have haside := htakes.trans (accounts_settingAside hsetting hdecode (hmem text rfl))
    refine ⟨lost, hlost, fun stray hstray => ?_⟩
    obtain ⟨hprocessing, hdead⟩ := hkept stray hstray
    have hmoved := haside.processing stray hstray
    have hadded := haside.dead stray hstray
    simp only [Option.toList_some, List.append_nil, List.nil_append, List.count_cons,
      List.count_nil] at hmoved hadded ⊢
    omega

end RedisQueue

/-! ### Runs without faults -/

namespace ListProgram

variable {α β : Type}

theorem run_call (command : ListCommand) (next : ListReply → ListProgram α) (lists : ListStore) :
    run (.call command next) ⟨lists, []⟩ =
      run (next (.ok (lists.run command).1)) ⟨(lists.run command).2, []⟩ := rfl

theorem run_bind (p : ListProgram α) (f : α → ListProgram β) (server : ListServer) :
    run (p >>= f) server = run (f (run p server).1) (run p server).2 := by
  unfold run
  dsimp only
  rw [Program.run_bind]
  rfl

end ListProgram

namespace RedisQueue

variable {queue c : String} {lists lists' : ListStore} {text : Bytes}

/-- The last entry is taken first. -/
theorem run_taking {front : List Bytes}
    (hwaiting : lists.shelves queue .waiting = front ++ [text]) (c : String) :
    (lists.run (taking ⟨queue, c⟩)).1 = some text ∧
      (lists.run (taking ⟨queue, c⟩)).2.shelves queue =
        update (update (lists.shelves queue) .waiting front) (.processing c)
          (text :: lists.shelves queue (.processing c)) := by
  have htake : Side.right.take? (lists.shelves queue .waiting) = some (text, front) := by
    rw [hwaiting]
    simp [Side.take?]
  exact ListStore.run_move_some true (Place.noConfusion : Place.processing c ≠ .waiting) .left htake

/-- The next entry is put aside if it is no envelope, and receiving goes on. -/
theorem run_receive_stray {front : List Bytes}
    (hwaiting : lists.shelves queue .waiting = front ++ [text])
    (htext : Envelope.decode? text = none) (c : String) : ∃ lists' : ListStore,
      lists'.shelves queue =
        update (update (lists.shelves queue) .waiting front) .dead
          (text :: lists.shelves queue .dead) ∧
      ∀ n, ListProgram.run (receive ⟨queue, c⟩ (n + 1)) ⟨lists, []⟩ =
        ListProgram.run (receive ⟨queue, c⟩ n) ⟨lists', []⟩ := by
  obtain ⟨hmoved, hshelves⟩ := run_taking hwaiting c
  refine ⟨((lists.run (taking ⟨queue, c⟩)).2.run (settingAside ⟨queue, c⟩ text)).2, ?_, fun n => ?_⟩
  · refine (ListStore.shelves_replace _ queue
      (Place.noConfusion : Place.dead ≠ .processing c) text text).trans ?_
    rw [hshelves]
    funext p
    cases p with
    | processing c' => by_cases hc : c' = c <;> simp [hc]
    | waiting | dead => simp
  · show ListProgram.run (.call (taking ⟨queue, c⟩) _) _ = _
    rw [ListProgram.run_call, hmoved]
    dsimp only [pure, Program.bind, Except.mapError]
    rw [htext]
    rfl

/-- Receiving goes on behind any number of entries that are no envelopes, all of which it puts
aside as they are. -/
theorem run_receive_strays {front strays : List Bytes}
    (hwaiting : lists.shelves queue .waiting = front ++ strays)
    (hstrays : ∀ text ∈ strays, Envelope.decode? text = none) (c : String) :
    ∃ lists' : ListStore,
      lists'.shelves queue =
        update (update (lists.shelves queue) .waiting front) .dead
          (strays ++ lists.shelves queue .dead) ∧
      ∀ n, ListProgram.run (receive ⟨queue, c⟩ (n + strays.length)) ⟨lists, []⟩ =
        ListProgram.run (receive ⟨queue, c⟩ n) ⟨lists', []⟩ := by
  -- the last entry is taken first
  induction strays using List.reverseRecOn generalizing lists with
  | nil =>
    refine ⟨lists, ?_, fun n => rfl⟩
    rw [List.append_nil] at hwaiting
    rw [← hwaiting, List.nil_append, Function.update_eq_self, Function.update_eq_self]
  | append_singleton strays text ih =>
    rw [← List.append_assoc] at hwaiting
    obtain ⟨htext, hstrays⟩ : Envelope.decode? text = none ∧
        ∀ stray ∈ strays, Envelope.decode? stray = none := by
      simpa [or_imp, forall_and, and_comm] using hstrays
    obtain ⟨middle, hmiddle, hrun⟩ := run_receive_stray hwaiting htext c
    have hrest : middle.shelves queue .waiting = front ++ strays := by
      rw [hmiddle, Function.update_of_ne Place.noConfusion, Function.update_self]
    obtain ⟨lists', hshelves, hruns⟩ := ih hrest hstrays
    refine ⟨lists', ?_, fun n => ?_⟩
    · rw [hshelves, hmiddle]
      funext p
      cases p <;> simp
    · rw [List.length_append, List.length_singleton, ← Nat.add_assoc, hrun, hruns]

/-- The next entry is handed out if it is an envelope. -/
theorem run_receive_envelope {front : List Bytes} {e : Envelope} {body : Bytes}
    (hwaiting : lists.shelves queue .waiting = front ++ [text])
    (htext : Envelope.decode? text = some (e, body)) (c : String) (n : Nat) :
    ∃ lists' : ListStore,
      lists'.shelves queue =
        update (update (lists.shelves queue) .waiting front) (.processing c)
          (text :: lists.shelves queue (.processing c)) ∧
      ListProgram.run (receive ⟨queue, c⟩ (n + 1)) ⟨lists, []⟩ =
        (.ok (.handed ⟨.make body e.attempt, text⟩), ⟨lists', []⟩) := by
  obtain ⟨hmoved, hshelves⟩ := run_taking hwaiting c
  refine ⟨_, hshelves, ?_⟩
  show ListProgram.run (.call (taking ⟨queue, c⟩) _) _ = _
  rw [ListProgram.run_call, hmoved]
  dsimp only [pure, Program.bind, Except.mapError]
  rw [htext]
  rfl

end RedisQueue

end QueryGateway
