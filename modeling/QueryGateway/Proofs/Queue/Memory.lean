import QueryGateway.Queue.Memory

/-!
# Messages of the memory queue

A message that was published is in the queue until it is settled for good: it waits, or it is handed
out.  Receiving and delivering again only move it; being done with it or putting it aside takes out
this message and no other.

## Main definitions

* `MemoryQueue.live` — the messages that wait or are handed out.
* `MemoryQueue.Numbered` — no two deliveries have the same receipt.

## Main results

* `MemoryQueue.live_publish`, `MemoryQueue.live_receive`, `MemoryQueue.live_settle` — what the
  operations do to the messages.
* `MemoryQueue.held?_settle` — settling a delivery does not touch the others.
-/

namespace QueryGateway

/-! ### Look-ups by number -/

section Lookup

variable {α : Type} {k : Nat} {v : α} {entries : List (Nat × α)}

theorem lookup_filter_ne {k' : Nat} (h : k ≠ k') :
    (entries.filter (·.1 != k')).lookup k = entries.lookup k := by
  induction entries with
  | nil => rfl
  | cons entry rest ih =>
    obtain ⟨r, w⟩ := entry
    rw [List.filter_cons, List.lookup_cons]
    by_cases hr : r = k'
    · subst hr
      rw [if_neg (by simp), ih, beq_eq_false_iff_ne.mpr h]
    · rw [if_pos (by simpa using hr), List.lookup_cons, ih]

/-- An entry that is found, in front of the others. -/
theorem perm_cons_filter_of_lookup (hnodup : (entries.map Prod.fst).Nodup)
    (h : entries.lookup k = some v) :
    entries.Perm ((k, v) :: entries.filter (·.1 != k)) := by
  induction entries with
  | nil => cases h
  | cons entry rest ih =>
    obtain ⟨r, w⟩ := entry
    rw [List.map_cons, List.nodup_cons] at hnodup
    rw [List.lookup_cons] at h
    rw [List.filter_cons]
    split at h
    · next hk =>
      obtain rfl := Option.some.inj h
      obtain rfl := beq_iff_eq.mp hk
      -- no other entry has this number
      have hrest : rest.filter (·.1 != k) = rest := by
        refine List.filter_eq_self.mpr fun entry hentry => bne_iff_ne.mpr ?_
        intro heq
        have hmem := List.mem_map_of_mem (f := Prod.fst) hentry
        rw [heq] at hmem
        exact hnodup.1 hmem
      rw [if_neg (by simp), hrest]
    · next hk =>
      have hne : r ≠ k := fun heq => by simp [heq] at hk
      rw [if_pos (by simpa using hne)]
      exact ((ih hnodup.2 h).cons _).trans (List.Perm.swap _ _ _)

end Lookup

namespace MemoryQueue

/-- The messages that wait or are handed out. -/
def live (q : MemoryQueue) : List QueueMessage := q.waiting ++ q.inFlight.map Prod.snd

/-- No two deliveries in hand have the same receipt, and none has one that is still to be given. -/
structure Numbered (q : MemoryQueue) : Prop where
  nodup : (q.inFlight.map Prod.fst).Nodup
  lt : ∀ receipt ∈ q.inFlight.map Prod.fst, receipt < q.handedOut

variable {q q' : MemoryQueue}

/-- A message that is handed out is in the queue. -/
theorem mem_live_of_held? {receipt : Nat} {m : QueueMessage} (h : q.held? receipt = some m) :
    m ∈ q.live := by
  obtain ⟨before, after, hflight, -⟩ := List.lookup_eq_some_iff.mp h
  unfold live
  rw [hflight]
  simp

/-- Receipts of deliveries in hand have been given. -/
theorem lt_of_held? (hq : q.Numbered) {receipt : Nat} {m : QueueMessage}
    (h : q.held? receipt = some m) : receipt < q.handedOut := by
  obtain ⟨before, after, hflight, -⟩ := List.lookup_eq_some_iff.mp h
  refine hq.lt receipt ?_
  rw [hflight]
  simp

/-! ### Publishing -/

/-- What is published is one more message. -/
theorem live_publish {body : Bytes} (h : q.publish body = .ok q') :
    q'.live.Perm (⟨q.published, body, 1⟩ :: q.live) ∧ q'.inFlight = q.inFlight ∧
      q'.handedOut = q.handedOut := by
  unfold publish at h
  split at h
  · cases h
  · obtain rfl := Except.ok.inj h
    refine ⟨?_, rfl, rfl⟩
    unfold live
    rw [List.append_assoc]
    exact List.perm_middle

theorem numbered_publish (hq : q.Numbered) {body : Bytes} (h : q.publish body = .ok q') :
    q'.Numbered := by
  obtain ⟨-, hflight, hhanded⟩ := live_publish h
  exact ⟨hflight ▸ hq.nodup, hflight ▸ hhanded ▸ hq.lt⟩

/-- Publishing does not touch the deliveries in hand. -/
theorem held?_publish {body : Bytes} (h : q.publish body = .ok q') (receipt : Nat) :
    q'.held? receipt = q.held? receipt := by
  unfold held?
  rw [(live_publish h).2.1]

/-! ### Receiving -/

/-- The message at the front is handed out unless the receiver goes by the closing. -/
theorem receive_of_waiting (noticed : Bool) (hopen : noticed = true → q.isClosed = false)
    {m : QueueMessage} {rest : List QueueMessage} (hwaiting : q.waiting = m :: rest) :
    q.receive noticed = (.delivery q.handedOut m.delivery, { q with
      waiting := rest
      inFlight := q.inFlight ++ [(q.handedOut, m)]
      handedOut := q.handedOut + 1 }) := by
  unfold receive take
  rw [if_neg (by cases noticed <;> simp [hopen]), hwaiting]

/-- A delivery is handed out from the front, whether or not the queue is closed. -/
theorem take_of_receive {noticed : Bool} {receipt : Nat} {d : Delivery}
    (h : q.receive noticed = (.delivery receipt d, q')) : q.take = (.delivery receipt d, q') := by
  unfold receive at h
  split at h
  · cases h
  · exact h

/-- A delivery is of a message that waited; it has a new receipt. -/
theorem exists_of_receive {noticed : Bool} {receipt : Nat} {d : Delivery}
    (h : q.receive noticed = (.delivery receipt d, q')) :
    ∃ m, d = m.delivery ∧ receipt = q.handedOut ∧ q'.live.Perm q.live ∧
      q'.inFlight = q.inFlight ++ [(receipt, m)] ∧ q'.handedOut = receipt + 1 := by
  have htake := take_of_receive h
  unfold take at htake
  split at htake
  · next hwaiting =>
    have hreceived := congrArg Prod.fst htake
    dsimp only at hreceived
    split at hreceived <;> cases hreceived
  · next m rest hwaiting =>
    obtain ⟨hreceived, rfl⟩ := Prod.mk.inj htake
    obtain ⟨rfl, rfl⟩ := Received.delivery.inj hreceived
    refine ⟨m, rfl, rfl, ?_, rfl, rfl⟩
    unfold live
    rw [hwaiting, List.map_append, ← List.append_assoc]
    exact List.perm_append_singleton m _

theorem numbered_of_receive (hq : q.Numbered) {noticed : Bool} {receipt : Nat} {d : Delivery}
    (h : q.receive noticed = (.delivery receipt d, q')) : q'.Numbered := by
  obtain ⟨m, -, rfl, -, hflight, hhanded⟩ := exists_of_receive h
  have hkeys : q'.inFlight.map Prod.fst = q.inFlight.map Prod.fst ++ [q.handedOut] := by
    rw [hflight, List.map_append]
    rfl
  constructor
  · rw [hkeys, List.nodup_append]
    refine ⟨hq.nodup, by simp, fun receipt hreceipt other hother heq => ?_⟩
    have hlt := hq.lt receipt hreceipt
    rw [heq, List.mem_singleton.mp hother] at hlt
    exact Nat.lt_irrefl _ hlt
  · rw [hkeys, hhanded]
    intro receipt hreceipt
    rcases List.mem_append.mp hreceipt with hreceipt | hreceipt
    · exact Nat.lt_succ_of_lt (hq.lt receipt hreceipt)
    · rw [List.mem_singleton.mp hreceipt]
      exact Nat.lt_succ_self _

/-- The delivery in hand with the new receipt is the one that was received. -/
theorem held?_of_receive (hq : q.Numbered) {receipt : Nat} {m : QueueMessage}
    (hflight : q'.inFlight = q.inFlight ++ [(receipt, m)]) (hreceipt : receipt = q.handedOut) :
    q'.held? receipt = some m ∧ ∀ other, other ≠ receipt → q'.held? other = q.held? other := by
  have hnone : q.inFlight.lookup receipt = none := by
    rw [List.lookup_eq_none_iff]
    intro entry hentry
    have hlt := hq.lt entry.1 (List.mem_map_of_mem hentry)
    simpa using Nat.ne_of_gt (hreceipt ▸ hlt)
  unfold held?
  rw [hflight]
  constructor
  · rw [List.lookup_append, hnone]
    simp
  · intro other hother
    rw [List.lookup_append, List.lookup_cons, beq_eq_false_iff_ne.mpr hother]
    simp

/-! ### Settling -/

/-- A message in hand, in front of the others. -/
theorem live_perm_of_held? (hq : q.Numbered) {receipt : Nat} {m : QueueMessage}
    (hm : q.held? receipt = some m) :
    q.live.Perm (m :: (q.waiting ++ (q.inFlight.filter (·.1 != receipt)).map Prod.snd)) := by
  have hflight := perm_cons_filter_of_lookup hq.nodup hm
  exact ((hflight.map Prod.snd).append_left q.waiting).trans List.perm_middle

/-- The message of a delivery that is settled is delivered again, or is in the queue no more; the
others are there as before. -/
theorem live_settle (hq : q.Numbered) {receipt : Nat} {m : QueueMessage}
    (hm : q.held? receipt = some m) (d : Disposition) : ∃ others, q.live.Perm (m :: others) ∧
      (q.settle receipt d).live.Perm (if d = .requeue then m.next :: others else others) := by
  refine ⟨_, live_perm_of_held? hq hm, ?_⟩
  unfold settle
  rw [hm]
  cases d with
  | ack => exact List.Perm.refl _
  | reject => exact List.Perm.refl _
  | requeue =>
    unfold live
    rw [if_pos rfl, List.append_assoc]
    exact List.perm_middle

theorem inFlight_settle {receipt : Nat} {m : QueueMessage} (hm : q.held? receipt = some m)
    (d : Disposition) :
    (q.settle receipt d).inFlight = q.inFlight.filter (·.1 != receipt) ∧
      (q.settle receipt d).handedOut = q.handedOut := by
  unfold settle
  rw [hm]
  cases d <;> exact ⟨rfl, rfl⟩

theorem numbered_settle (hq : q.Numbered) {receipt : Nat} {m : QueueMessage}
    (hm : q.held? receipt = some m) (d : Disposition) : (q.settle receipt d).Numbered := by
  obtain ⟨hflight, hhanded⟩ := inFlight_settle hm d
  have hsublist : ((q.settle receipt d).inFlight.map Prod.fst).Sublist
      (q.inFlight.map Prod.fst) := by
    rw [hflight]
    exact (List.filter_sublist).map Prod.fst
  refine ⟨hq.nodup.sublist hsublist, fun other hother => ?_⟩
  rw [hhanded]
  exact hq.lt other (hsublist.subset hother)

/-- Settling a delivery does not touch the others. -/
theorem held?_settle {receipt : Nat} {m : QueueMessage} (hm : q.held? receipt = some m)
    (d : Disposition) {other : Nat} (hother : other ≠ receipt) :
    (q.settle receipt d).held? other = q.held? other := by
  unfold held?
  rw [(inFlight_settle hm d).1, lookup_filter_ne hother]

end MemoryQueue
end QueryGateway
