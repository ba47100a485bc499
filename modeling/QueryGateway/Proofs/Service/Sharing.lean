import Mathlib.Logic.Relation
import QueryGateway.Proofs.Service.Connectors
import QueryGateway.Service.Registry

/-!
# Connectors that are shared

Any number of queries look for connectors at once, while connectors are taken out of use and close
by themselves.  Each of these errands may be held up between any two of its steps, so a connector
may be open without being in use; then some errand that is still under way has it in hand, and will
put it in use or close it.

## Main definitions

* `Registry.Errand`, `Registry.Visit` — what is asked of the connectors, and how far it has come.
* `Registry.Sharing`, `Registry.Sharing.Step` — the connectors with the visits, and what happens.
* `Registry.Standing` — what a visit has in hand.
* `Registry.Claimed`, `Registry.Covered` — no connector is in the hands of two, and no open one is
  lost sight of.

## Main results

* `Registry.Minds.move` — a step of a visit is one of eight moves.
* `Registry.Sharing.orderly_of_reaches` — what is true of the connectors at any time.
* `Registry.Sharing.shared_of_reaches` — the connectors when nothing is under way, and the
  connectors that are handed out.
-/

namespace QueryGateway.Registry

/-! ### Visits -/

/-- What is asked of the connectors. -/
inductive Errand
  | find (source : Source)
  | remove (name : String)
  | closeAll

/-- Finding a connector gives one; the other errands give none. -/
abbrev Outcome := Except QueryError (Option ConnectorId)

/-- The program of an errand. -/
def Errand.program : Errand → RegistryProgram Outcome
  | .find source => do return (← connectorFor source).map some
  | .remove name => do return (← Registry.remove name).map fun _ => none
  | .closeAll => do
    Registry.closeAll
    return .ok none

/-- The connectors give an answer to a step, and are changed by it.  Any kind of data source may be
supported, connecting may fail, closing may report anything, and connectors that are taken out of
use all at once come in any order. -/
inductive Provides (cs : Connectors) : (c : RegistryCall) → c.Answer → Connectors → Prop
  | inUse (name : String) : Provides cs (.inUse name) (cs.inUse? name) cs
  | supports (kind : String) (answer : Bool) : Provides cs (.supports kind) answer cs
  | connected (source : Source) :
      Provides cs (.connect source) (.ok (cs.add source.name).1) (cs.add source.name).2
  | refused (source : Source) (e : QueryError) : Provides cs (.connect source) (.error e) cs
  | adopt (name : String) (c : ConnectorId) :
      Provides cs (.adopt name c) (cs.adopt name c).1 (cs.adopt name c).2
  | close (c : ConnectorId) (report : Except QueryError Unit) :
      Provides cs (.close c) report (cs.close c)
  | evict (name : String) : Provides cs (.evict name) (cs.evict name).1 (cs.evict name).2
  | evictAll {drained : List ConnectorId} (h : drained.Perm cs.evictAll.1) :
      Provides cs .evictAll drained cs.evictAll.2

/-- A step of a visit, with the connectors before and after it. -/
structure Look where
  call : RegistryCall
  answer : call.Answer
  before : Connectors
  after : Connectors

/-- The connector that was not put in use because another one was. -/
def Look.lost? : Look → Option ConnectorId
  | ⟨.adopt _ c, some _, _, _⟩ => some c
  | _ => none

/-- An errand with the steps that were made and what is left of its program. -/
structure Visit where
  errand : Errand
  past : List Look
  rest : RegistryProgram Outcome

namespace Visit

/-- The errand is run. -/
def IsOver (v : Visit) : Prop := ∃ outcome, v.rest = .done outcome

/-- The connectors that the visit opened and that were not put in use. -/
def lost (v : Visit) : List ConnectorId := v.past.filterMap Look.lost?

end Visit

/-- The connectors with the visits that were ever begun. -/
structure Sharing where
  connectors : Connectors := {}
  visits : List Visit := []

namespace Sharing

/-- One thing that happens: an errand is begun, a visit makes its next step, or a connector closes
by itself. -/
inductive Step : Sharing → Sharing → Prop
  | begun {cs : Connectors} {visits : List Visit} (errand : Errand) :
      Step ⟨cs, visits⟩ ⟨cs, ⟨errand, [], errand.program⟩ :: visits⟩
  | called {cs cs' : Connectors} {visits others : List Visit} {errand : Errand} {past : List Look}
      {c : RegistryCall} {next : c.Answer → RegistryProgram Outcome} {answer : c.Answer}
      (hvisits : visits.Perm (⟨errand, past, .call c next⟩ :: others))
      (hprovides : Provides cs c answer cs') :
      Step ⟨cs, visits⟩ ⟨cs', ⟨errand, past ++ [⟨c, answer, cs, cs'⟩], next answer⟩ :: others⟩
  | closed {cs : Connectors} {visits : List Visit} (c : ConnectorId) :
      Step ⟨cs, visits⟩ ⟨cs.close c, visits⟩

/-- What may be the case after a while. -/
def Reaches (s : Sharing) : Prop := Relation.ReflTransGen Step {} s

end Sharing

/-! ### What a visit has in hand -/

/-- What the rest of a program will do with connectors. -/
structure Hand where
  /-- The connector that it is about to put in use, with the name of its data source. -/
  fresh : Option (String × ConnectorId) := none
  /-- The connectors that it will close. -/
  closing : List ConnectorId := []
  /-- The connector that it will give. -/
  given : Option ConnectorId := none

/-- What the rest of a program will do with connectors, as far as that is decided. -/
def hand : RegistryProgram Outcome → Hand
  | .done (.ok found) => { given := found }
  | .done (.error _) => {}
  | .call (.adopt name c) _ => { fresh := some (name, c) }
  | .call (.close c) next =>
    { hand (next (.ok ())) with closing := c :: (hand (next (.ok ()))).closing }
  | .call _ _ => {}

/-- What is in hand after a step. -/
def Hand.after (h : Hand) : (c : RegistryCall) → c.Answer → Hand
  | .inUse _, found => { given := found }
  | .supports _, _ => {}
  | .connect source, .ok c => { fresh := some (source.name, c) }
  | .connect _, .error _ => {}
  | .adopt _ c, none => { given := some c }
  | .adopt _ c, some existing => { closing := [c], given := some existing }
  | .close _, _ => { h with closing := h.closing.tail }
  | .evict _, found => { closing := found.toList }
  | .evictAll, found => { closing := found }

/-- The program keeps what it has in hand: after each step it has just what the answer makes of
it. -/
inductive Minds : RegistryProgram Outcome → Prop
  | done (outcome : Outcome) : Minds (.done outcome)
  | call {c : RegistryCall} {next : c.Answer → RegistryProgram Outcome}
      (h : ∀ answer, Minds (next answer))
      (hhand : ∀ answer, hand (next answer) = (hand (.call c next)).after c answer) :
      Minds (.call c next)

theorem hand_close (c : ConnectorId) (next : Except QueryError Unit → RegistryProgram Outcome) :
    hand (.call (.close c) next) =
      { hand (next (.ok ())) with closing := c :: (hand (next (.ok ()))).closing } := rfl

/-- The program of connectors that are closed in turn. -/
theorem minds_closeEach (cs : List ConnectorId) :
    Minds (closeEach cs >>= fun _ => .done (.ok none)) ∧
      hand (closeEach cs >>= fun _ => .done (.ok none)) = { closing := cs } := by
  induction cs with
  | nil => exact ⟨.done _, rfl⟩
  | cons c cs ih =>
    obtain ⟨hminds, hhand⟩ := ih
    refine ⟨.call (fun _ => hminds) fun _ => rfl, ?_⟩
    have hnext := hand_close c fun _ => closeEach cs >>= fun _ => .done (.ok none)
    rw [hhand] at hnext
    exact hnext

theorem minds_find (source : Source) : Minds (Errand.find source).program := by
  refine .call (fun found => ?_) fun found => by cases found <;> rfl
  cases found with
  | some c => exact .done _
  | none =>
    refine .call (fun supported => ?_) fun supported => by cases supported <;> rfl
    cases supported with
    | false => exact .done _
    | true =>
      refine .call (fun connected => ?_) fun connected => by cases connected <;> rfl
      cases connected with
      | error e => exact .done _
      | ok c =>
        refine .call (fun existing => ?_) fun existing => by cases existing <;> rfl
        cases existing with
        | none => exact .done _
        | some existing => exact .call (fun _ => .done _) fun _ => rfl

theorem minds_remove (name : String) : Minds (Errand.remove name).program := by
  refine .call (fun found => ?_) fun found => by cases found <;> rfl
  cases found with
  | none => exact .done _
  | some c =>
    refine .call (fun report => ?_) fun report => by cases report <;> rfl
    cases report <;> exact .done _

theorem minds_program (errand : Errand) : Minds errand.program := by
  cases errand with
  | find source => exact minds_find source
  | remove name => exact minds_remove name
  | closeAll =>
    exact .call (fun cs => (minds_closeEach cs).1) fun cs => (minds_closeEach cs).2

theorem hand_program (errand : Errand) : hand errand.program = {} := by
  cases errand <;> rfl

/-! ### The moves of a visit -/

/-- What a visit has in hand, and what it lost. -/
structure Standing extends Hand where
  lost : List ConnectorId := []

/-- Where a visit stands. -/
def Visit.standing (v : Visit) : Standing := { hand v.rest with lost := v.lost }

/-- What one step of a visit comes to. -/
inductive Move (cs : Connectors) : Standing → Connectors → Standing → Prop
  /-- Nothing changes. -/
  | looked (lost : List ConnectorId) : Move cs { lost } cs { lost }
  | found {name : String} {c : ConnectorId} {lost : List ConnectorId}
      (h : cs.inUse? name = some c) : Move cs { lost } cs { given := some c, lost }
  | connected (name : String) (lost : List ConnectorId) :
      Move cs { lost } (cs.add name).2 { fresh := some (name, (cs.add name).1), lost }
  /-- The connector in hand is put in use; one that was in use before has closed. -/
  | adopted {name : String} {c : ConnectorId} {lost : List ConnectorId}
      (h : cs.inUse? name = none) :
      Move cs { fresh := some (name, c), lost } { cs with cache := Keyed.insert name c cs.cache }
        { given := some c, lost }
  /-- Another connector is in use already. -/
  | outrun {name : String} {c existing : ConnectorId} {lost : List ConnectorId}
      (h : cs.inUse? name = some existing) :
      Move cs { fresh := some (name, c), lost } cs
        { closing := [c], given := some existing, lost := lost ++ [c] }
  | closed (c : ConnectorId) (h : Hand) (lost : List ConnectorId) :
      Move cs { h with closing := c :: h.closing, lost } (cs.close c) { h with lost }
  | evicted (name : String) (lost : List ConnectorId) :
      Move cs { lost } { cs with cache := Keyed.erase name cs.cache }
        { closing := (Keyed.find? name cs.cache).toList, lost }
  | evictedAll {drained : List ConnectorId} (lost : List ConnectorId)
      (h : ∀ c, c ∈ drained ↔ c ∈ cs.cache.map Prod.snd) :
      Move cs { lost } { cs with cache := [] } { closing := drained, lost }

theorem Visit.lost_concat (errand : Errand) (past : List Look) (look : Look)
    (rest rest' : RegistryProgram Outcome) : lost ⟨errand, past ++ [look], rest'⟩ =
      lost ⟨errand, past, rest⟩ ++ look.lost?.toList := by
  unfold lost
  rw [List.filterMap_append]
  cases h : look.lost? <;> simp [h]

/-- A step of a visit is a move. -/
theorem Minds.move {cs cs' : Connectors} {c : RegistryCall}
    {next : c.Answer → RegistryProgram Outcome} {answer : c.Answer}
    (h : Minds (.call c next)) (hprovides : Provides cs c answer cs') (errand : Errand)
    (past : List Look) :
    Move cs (Visit.standing ⟨errand, past, .call c next⟩) cs'
      (Visit.standing ⟨errand, past ++ [⟨c, answer, cs, cs'⟩], next answer⟩) := by
  cases h with
  | call h hhand =>
  unfold Visit.standing
  rw [hhand, Visit.lost_concat errand past _ (.call c next)]
  generalize Visit.lost ⟨errand, past, .call c next⟩ = lost
  cases hprovides with
  | inUse name =>
    simp only [Look.lost?, Option.toList_none, List.append_nil]
    cases hfound : cs.inUse? name with
    | none => exact .looked lost
    | some existing => exact .found hfound
  | supports kind =>
    simp only [Look.lost?, Option.toList_none, List.append_nil]
    exact .looked lost
  | connected source =>
    simp only [Look.lost?, Option.toList_none, List.append_nil]
    exact .connected source.name lost
  | refused source e =>
    simp only [Look.lost?, Option.toList_none, List.append_nil]
    exact .looked lost
  | adopt name c =>
    unfold Connectors.adopt
    cases hfound : cs.inUse? name with
    | none =>
      simp only [Look.lost?, Option.toList_none, List.append_nil]
      exact .adopted hfound
    | some existing => exact .outrun hfound
  | close c report =>
    simp only [Look.lost?, Option.toList_none, List.append_nil]
    exact .closed c (hand (next (.ok ()))) lost
  | evict name =>
    simp only [Look.lost?, Option.toList_none, List.append_nil]
    exact .evicted name lost
  | evictAll hperm =>
    simp only [Look.lost?, Option.toList_none, List.append_nil]
    refine .evictedAll lost fun c => ?_
    exact hperm.mem_iff.trans (List.mergeSort_perm _ _).mem_iff

/-! ### No connector is in the hands of two -/

namespace Standing

/-- The connectors that belong to one visit alone. -/
def own (st : Standing) : List ConnectorId := (st.fresh.map Prod.snd).toList ++ st.lost

/-- The connectors that a visit will put in use or close. -/
def owed (st : Standing) : List ConnectorId := (st.fresh.map Prod.snd).toList ++ st.closing

/-- A connector that is about to be put in use belongs to its visit besides those that it lost. -/
theorem flatMap_own_of_fresh (name : String) (c : ConnectorId) (lost : List ConnectorId)
    (given : Option ConnectorId) (others : List Standing) :
    (({ fresh := some (name, c), lost } : Standing) :: others).flatMap own =
      c :: (({ given, lost } : Standing) :: others).flatMap own := rfl

end Standing

variable {cs cs' : Connectors} {st st' : Standing} {sts sts' others : List Standing}

/-- A connector that is in use or is handed out belongs to no visit, and one that belongs to a visit
belongs to that one alone. -/
structure Claimed (cs : Connectors) (sts : List Standing) : Prop where
  nodup : (sts.flatMap Standing.own).Nodup
  own : ∀ c ∈ sts.flatMap Standing.own, (cs.source? c).isSome = true
  cached : ∀ name c, Keyed.find? name cs.cache = some c →
    cs.source? c = some name ∧ c ∉ sts.flatMap Standing.own
  fresh : ∀ st ∈ sts, ∀ name c, st.fresh = some (name, c) → cs.source? c = some name
  given : ∀ st ∈ sts, ∀ c, st.given = some c →
    (cs.source? c).isSome = true ∧ c ∉ sts.flatMap Standing.own

namespace Claimed

theorem perm (h : Claimed cs sts) (hperm : sts.Perm sts') : Claimed cs sts' := by
  have hown := hperm.flatMap_right Standing.own
  constructor
  · exact hown.nodup_iff.mp h.nodup
  · intro c hc
    exact h.own c (hown.mem_iff.mpr hc)
  · intro name c hfind
    rw [← hown.mem_iff]
    exact h.cached name c hfind
  · intro st hst
    exact h.fresh st (hperm.mem_iff.mpr hst)
  · intro st hst c hgiven
    rw [← hown.mem_iff]
    exact h.given st (hperm.mem_iff.mpr hst) c hgiven

/-- Nothing changes hands. -/
theorem keep (h : Claimed cs (st :: others)) (hprecedes : cs.Precedes cs')
    (hown : st'.own.Perm st.own)
    (hcached : ∀ name c, Keyed.find? name cs'.cache = some c → Keyed.find? name cs.cache = some c)
    (hfresh : ∀ name c, st'.fresh = some (name, c) → st.fresh = some (name, c))
    (hgiven : ∀ c, st'.given = some c →
      st.given = some c ∨ ∃ name, Keyed.find? name cs.cache = some c) :
    Claimed cs' (st' :: others) := by
  have hperm : ((st' :: others).flatMap Standing.own).Perm ((st :: others).flatMap Standing.own) :=
    hown.append_right _
  constructor
  · exact hperm.nodup_iff.mpr h.nodup
  · intro c hc
    exact hprecedes.isSome (h.own c (hperm.mem_iff.mp hc))
  · intro name c hfind
    obtain ⟨hsource, hforeign⟩ := h.cached name c (hcached name c hfind)
    exact ⟨hprecedes.source hsource, mt hperm.mem_iff.mp hforeign⟩
  · intro other hother name c hfresh'
    rcases List.mem_cons.mp hother with rfl | hother
    · exact hprecedes.source (h.fresh st List.mem_cons_self name c (hfresh name c hfresh'))
    · exact hprecedes.source (h.fresh other (List.mem_cons_of_mem _ hother) name c hfresh')
  · intro other hother c hgiven'
    have hold : (cs.source? c).isSome = true ∧ c ∉ (st :: others).flatMap Standing.own := by
      rcases List.mem_cons.mp hother with rfl | hother
      · rcases hgiven c hgiven' with hgiven' | ⟨name, hfind⟩
        · exact h.given st List.mem_cons_self c hgiven'
        · obtain ⟨hsource, hforeign⟩ := h.cached name c hfind
          exact ⟨hsource ▸ rfl, hforeign⟩
      · exact h.given other (List.mem_cons_of_mem _ hother) c hgiven'
    exact ⟨hprecedes.isSome hold.1, mt hperm.mem_iff.mp hold.2⟩

/-- A connector that is opened is nobody's yet. -/
theorem connected {name : String} {lost : List ConnectorId}
    (h : Claimed cs ({ lost } :: others)) :
    Claimed (cs.add name).2 ({ fresh := some (name, (cs.add name).1), lost } :: others) := by
  have hprecedes : cs.Precedes (cs.add name).2 := Connectors.precedes_add
  have hnew : ∀ c, (cs.source? c).isSome = true → c ≠ (cs.add name).1 := by
    rintro c hc rfl
    rw [Connectors.source?_add_self] at hc
    cases hc
  have hsource : (cs.add name).2.source? (cs.add name).1 = some name := by
    rw [Connectors.source?_add, if_pos rfl]
  have hown := Standing.flatMap_own_of_fresh name (cs.add name).1 lost none others
  constructor
  · rw [hown]
    exact List.nodup_cons.mpr ⟨fun hmem => hnew _ (h.own _ hmem) rfl, h.nodup⟩
  · intro c hc
    rw [hown] at hc
    rcases List.mem_cons.mp hc with rfl | hc
    · exact hsource ▸ rfl
    · exact hprecedes.isSome (h.own c hc)
  · intro name' c hfind
    obtain ⟨hsource', hforeign⟩ := h.cached name' c hfind
    rw [hown]
    exact ⟨hprecedes.source hsource', List.not_mem_cons_of_ne_of_not_mem
      (hnew c (hsource' ▸ rfl)) hforeign⟩
  · intro other hother name' c hfresh
    rcases List.mem_cons.mp hother with rfl | hother
    · cases hfresh
      exact hsource
    · exact hprecedes.source (h.fresh other (List.mem_cons_of_mem _ hother) name' c hfresh)
  · intro other hother c hgiven
    rcases List.mem_cons.mp hother with rfl | hother
    · cases hgiven
    · obtain ⟨hknown, hforeign⟩ := h.given other (List.mem_cons_of_mem _ hother) c hgiven
      rw [hown]
      exact ⟨hprecedes.isSome hknown, List.not_mem_cons_of_ne_of_not_mem (hnew c hknown) hforeign⟩

/-- A connector that is put in use is its visit's own no longer. -/
theorem adopted {name : String} {c : ConnectorId} {lost : List ConnectorId}
    (h : Claimed cs ({ fresh := some (name, c), lost } :: others)) :
    Claimed { cs with cache := Keyed.insert name c cs.cache }
      ({ given := some c, lost } :: others) := by
  have hown := Standing.flatMap_own_of_fresh name c lost (some c) others
  have hsource : cs.source? c = some name := h.fresh _ List.mem_cons_self name c rfl
  obtain ⟨hforeign, hnodup⟩ := List.nodup_cons.mp (hown ▸ h.nodup)
  constructor
  · exact hnodup
  · intro c' hc'
    exact h.own c' (hown ▸ List.mem_cons_of_mem _ hc')
  · intro name' c' hfind
    rw [Keyed.find?_insert] at hfind
    split at hfind
    · next hname =>
      subst hname
      obtain rfl := Option.some.inj hfind
      exact ⟨hsource, hforeign⟩
    · obtain ⟨hsource', hforeign'⟩ := h.cached name' c' hfind
      exact ⟨hsource', List.not_mem_of_not_mem_cons (hown ▸ hforeign')⟩
  · intro other hother name' c' hfresh
    rcases List.mem_cons.mp hother with rfl | hother
    · cases hfresh
    · exact h.fresh other (List.mem_cons_of_mem _ hother) name' c' hfresh
  · intro other hother c' hgiven
    rcases List.mem_cons.mp hother with rfl | hother
    · cases hgiven
      exact ⟨Option.isSome_of_eq_some hsource, hforeign⟩
    · obtain ⟨hknown, hforeign'⟩ := h.given other (List.mem_cons_of_mem _ hother) c' hgiven
      exact ⟨hknown, List.not_mem_of_not_mem_cons (hown ▸ hforeign')⟩

/-- A move lets no connector come into the hands of two. -/
theorem move (h : Claimed cs (st :: others)) (hmove : Move cs st cs' st') :
    Claimed cs' (st' :: others) := by
  cases hmove with
  | looked lost => exact h
  | found hinUse =>
    refine h.keep (Connectors.precedes_of_opened rfl) (.refl _) (fun _ _ => id) nofun ?_
    intro c hgiven
    cases hgiven
    exact Or.inr ⟨_, (Connectors.inUse?_eq_some.mp hinUse).1⟩
  | connected name lost => exact h.connected
  | adopted => exact h.adopted
  | @outrun name c existing lost hinUse =>
    refine h.keep (Connectors.precedes_of_opened rfl) ?_ (fun _ _ => id) nofun ?_
    · change (lost ++ [c]).Perm ([c] ++ lost)
      exact List.perm_append_comm
    · intro c hgiven
      cases hgiven
      exact Or.inr ⟨_, (Connectors.inUse?_eq_some.mp hinUse).1⟩
  | closed c hand lost =>
    refine h.keep Connectors.precedes_close (.refl _) ?_ (fun _ _ => id) fun _ => Or.inl
    intro name c' hfind
    rwa [Connectors.cache_close] at hfind
  | evicted name lost =>
    refine h.keep (Connectors.precedes_of_opened rfl) (.refl _) ?_ nofun nofun
    intro name' c hfind
    rw [Keyed.find?_erase] at hfind
    split at hfind
    · cases hfind
    · exact hfind
  | evictedAll lost _ =>
    exact h.keep (Connectors.precedes_of_opened rfl) (.refl _) nofun nofun nofun

/-- A connector may close by itself. -/
theorem close (h : Claimed cs sts) (c : ConnectorId) : Claimed (cs.close c) sts := by
  constructor
  · exact h.nodup
  · intro c' hc'
    rw [Connectors.source?_close]
    exact h.own c' hc'
  · intro name c' hfind
    rw [Connectors.cache_close] at hfind
    rw [Connectors.source?_close]
    exact h.cached name c' hfind
  · intro st hst name c' hfresh
    exact Connectors.source?_close.trans (h.fresh st hst name c' hfresh)
  · intro st hst c' hgiven
    rw [Connectors.source?_close]
    exact h.given st hst c' hgiven

/-- A visit that begins has nothing in hand. -/
theorem begin (h : Claimed cs sts) : Claimed cs ({} :: sts) := by
  constructor
  · exact h.nodup
  · exact h.own
  · exact h.cached
  · intro st hst name c hfresh
    rcases List.mem_cons.mp hst with rfl | hst
    · cases hfresh
    · exact h.fresh st hst name c hfresh
  · intro st hst c hgiven
    rcases List.mem_cons.mp hst with rfl | hst
    · cases hgiven
    · exact h.given st hst c hgiven

end Claimed

/-! ### No open connector is lost sight of -/

/-- An open connector is in use, or some visit will put it in use or close it; and a connector that
was not put in use is closed, or will be by its visit. -/
structure Covered (cs : Connectors) (sts : List Standing) : Prop where
  isOpen : ∀ c, cs.isOpen c = true →
    (∃ name, Keyed.find? name cs.cache = some c) ∨ ∃ st ∈ sts, c ∈ st.owed
  lost : ∀ st ∈ sts, ∀ c ∈ st.lost, c ∈ st.closing ∨ cs.isOpen c = false

namespace Covered

theorem perm (h : Covered cs sts) (hperm : sts.Perm sts') : Covered cs sts' := by
  constructor
  · intro c hopen
    rcases h.isOpen c hopen with hcached | ⟨st, hst, howed⟩
    · exact Or.inl hcached
    · exact Or.inr ⟨st, hperm.mem_iff.mp hst, howed⟩
  · intro st hst
    exact h.lost st (hperm.mem_iff.mpr hst)

/-- What a visit lost stays closed once it has closed it. -/
theorem lost_of_precedes (h : Covered cs sts) (hclaimed : Claimed cs sts)
    (hprecedes : cs.Precedes cs') (hst : st ∈ sts) {closing : List ConnectorId}
    (hclosing : ∀ c ∈ st.closing, c ∈ closing ∨ cs'.isOpen c = false) :
    ∀ c ∈ st.lost, c ∈ closing ∨ cs'.isOpen c = false := by
  intro c hc
  rcases h.lost st hst c hc with hmem | hclosed
  · exact hclosing c hmem
  · have hown : c ∈ sts.flatMap Standing.own :=
      List.mem_flatMap.mpr ⟨st, hst, List.mem_append_right _ hc⟩
    exact Or.inr (hprecedes.closed (hclaimed.own c hown) hclosed)

/-- A visit makes a move that accounts for what was in use and for what it had in hand. -/
theorem of_move (h : Covered cs (st :: others)) (hclaimed : Claimed cs (st :: others))
    (hprecedes : cs.Precedes cs')
    (hopen : ∀ c, cs'.isOpen c = true → cs.isOpen c = true ∨ c ∈ st'.owed)
    (hcached : ∀ name c, cs'.isOpen c = true → Keyed.find? name cs.cache = some c →
      Keyed.find? name cs'.cache = some c ∨ c ∈ st'.owed)
    (howed : ∀ c ∈ st.owed, cs'.isOpen c = true →
      (∃ name, Keyed.find? name cs'.cache = some c) ∨ c ∈ st'.owed)
    (hlost : ∀ c ∈ st'.lost, c ∈ st'.closing ∨ cs'.isOpen c = false) :
    Covered cs' (st' :: others) := by
  have hself : st' ∈ st' :: others := List.mem_cons_self
  constructor
  · intro c hopen'
    rcases hopen c hopen' with hopen | hc
    · rcases h.isOpen c hopen with ⟨name, hfind⟩ | ⟨other, hother, hc⟩
      · rcases hcached name c hopen' hfind with hfind | hc
        · exact Or.inl ⟨name, hfind⟩
        · exact Or.inr ⟨st', hself, hc⟩
      · rcases List.mem_cons.mp hother with rfl | hother
        · rcases howed c hc hopen' with hfind | hc
          · exact Or.inl hfind
          · exact Or.inr ⟨st', hself, hc⟩
        · exact Or.inr ⟨other, List.mem_cons_of_mem _ hother, hc⟩
    · exact Or.inr ⟨st', hself, hc⟩
  · intro other hother
    rcases List.mem_cons.mp hother with rfl | hother
    · exact hlost
    · exact h.lost_of_precedes hclaimed hprecedes (List.mem_cons_of_mem _ hother) fun _ => Or.inl

/-- After a move, each open connector is still accounted for. -/
theorem move (h : Covered cs (st :: others)) (hclaimed : Claimed cs (st :: others))
    (hmove : Move cs st cs' st') : Covered cs' (st' :: others) := by
  cases hmove with
  | looked lost => exact h
  | found hinUse =>
    have hprecedes : cs.Precedes cs := Connectors.precedes_of_opened rfl
    refine h.of_move hclaimed hprecedes (fun _ => Or.inl) (fun _ _ _ => Or.inl) nofun ?_
    exact h.lost_of_precedes hclaimed hprecedes List.mem_cons_self nofun
  | connected name lost =>
    refine h.of_move hclaimed Connectors.precedes_add ?_ (fun _ _ _ => Or.inl) nofun ?_
    · intro c hopen
      rcases Connectors.isOpen_add hopen with rfl | hopen
      · exact Or.inr List.mem_cons_self
      · exact Or.inl hopen
    · exact h.lost_of_precedes hclaimed Connectors.precedes_add List.mem_cons_self nofun
  | @adopted name c lost hnone =>
    have hprecedes : cs.Precedes { cs with cache := Keyed.insert name c cs.cache } :=
      Connectors.precedes_of_opened rfl
    refine h.of_move hclaimed hprecedes (fun _ => Or.inl) ?_ ?_ ?_
    · intro name' c' hopen hfind
      refine Or.inl ?_
      rw [Keyed.find?_insert]
      split
      · next hname =>
        -- the connector that is replaced has closed
        subst hname
        have hclosed : cs.isOpen c' = false := Connectors.isOpen_of_inUse?_eq_none hnone hfind
        exact absurd (hclosed.symm.trans hopen) Bool.false_ne_true
      · exact hfind
    · intro c' hc' _
      obtain rfl := List.mem_singleton.mp hc'
      exact Or.inl ⟨name, by rw [Keyed.find?_insert, if_pos rfl]⟩
    · exact h.lost_of_precedes hclaimed hprecedes List.mem_cons_self nofun
  | @outrun name c existing lost hinUse =>
    have hprecedes : cs.Precedes cs := Connectors.precedes_of_opened rfl
    refine h.of_move hclaimed hprecedes (fun _ => Or.inl) (fun _ _ _ => Or.inl)
      (fun _ hc _ => Or.inr hc) ?_
    intro c' hc'
    rcases List.mem_append.mp hc' with hc' | hc'
    · exact h.lost_of_precedes hclaimed hprecedes List.mem_cons_self nofun c' hc'
    · exact Or.inl hc'
  | closed c hand lost =>
    refine h.of_move hclaimed Connectors.precedes_close ?_ ?_ ?_ ?_
    · intro c' hopen
      exact Or.inl (Connectors.isOpen_close.mp hopen).2
    · intro name c' _ hfind
      rw [Connectors.cache_close]
      exact Or.inl hfind
    · intro c' howed hopen
      have hne : c' ≠ c := (Connectors.isOpen_close.mp hopen).1
      refine Or.inr ?_
      rcases List.mem_append.mp howed with hfresh | hclosing
      · exact List.mem_append_left _ hfresh
      · exact List.mem_append_right _ (List.mem_of_ne_of_mem hne hclosing)
    · refine h.lost_of_precedes hclaimed Connectors.precedes_close List.mem_cons_self ?_
      intro c' hc'
      rcases List.mem_cons.mp hc' with rfl | hc'
      · exact Or.inr (Bool.eq_false_iff.mpr fun hopen => (Connectors.isOpen_close.mp hopen).1 rfl)
      · exact Or.inl hc'
  | evicted name lost =>
    have hprecedes : cs.Precedes { cs with cache := Keyed.erase name cs.cache } :=
      Connectors.precedes_of_opened rfl
    refine h.of_move hclaimed hprecedes (fun _ => Or.inl) ?_ nofun ?_
    · intro name' c _ hfind
      rw [Keyed.find?_erase]
      split
      · next hname =>
        subst hname
        exact Or.inr (Option.mem_toList.mpr hfind)
      · exact Or.inl hfind
    · exact h.lost_of_precedes hclaimed hprecedes List.mem_cons_self nofun
  | evictedAll lost hdrained =>
    have hprecedes : cs.Precedes { cs with cache := [] } := Connectors.precedes_of_opened rfl
    refine h.of_move hclaimed hprecedes (fun _ => Or.inl) ?_ nofun ?_
    · intro name c _ hfind
      exact Or.inr ((hdrained c).mpr (List.mem_map_of_mem (Keyed.mem_of_find? hfind)))
    · exact h.lost_of_precedes hclaimed hprecedes List.mem_cons_self nofun

theorem close (h : Covered cs sts) (hclaimed : Claimed cs sts) (c : ConnectorId) :
    Covered (cs.close c) sts := by
  constructor
  · intro c' hopen
    rw [Connectors.cache_close]
    exact h.isOpen c' (Connectors.isOpen_close.mp hopen).2
  · intro st hst
    exact h.lost_of_precedes hclaimed Connectors.precedes_close hst fun _ => Or.inl

theorem begin (h : Covered cs sts) : Covered cs ({} :: sts) := by
  constructor
  · intro c hopen
    rcases h.isOpen c hopen with hcached | ⟨st, hst, howed⟩
    · exact Or.inl hcached
    · exact Or.inr ⟨st, List.mem_cons_of_mem _ hst, howed⟩
  · exact List.forall_mem_cons.mpr ⟨nofun, h.lost⟩

end Covered

/-! ### The connector that is found -/

/-- The steps that a program made, down to what is left of it. -/
inductive Leads : RegistryProgram Outcome → List Look → RegistryProgram Outcome → Prop
  | refl (p : RegistryProgram Outcome) : Leads p [] p
  | look {c : RegistryCall} {next : c.Answer → RegistryProgram Outcome} {answer : c.Answer}
      {cs cs' : Connectors} {past : List Look} {rest : RegistryProgram Outcome}
      (h : Provides cs c answer cs') (hrest : Leads (next answer) past rest) :
      Leads (.call c next) (⟨c, answer, cs, cs'⟩ :: past) rest

/-- A visit that makes one more step is led there by the steps so far. -/
theorem Leads.concat {p : RegistryProgram Outcome} {past : List Look} {c : RegistryCall}
    {next : c.Answer → RegistryProgram Outcome} {answer : c.Answer}
    (h : Leads p past (.call c next)) (hprovides : Provides cs c answer cs') :
    Leads p (past ++ [⟨c, answer, cs, cs'⟩]) (next answer) := by
  generalize hrest : Program.call c next = rest at h
  induction h with
  | refl p =>
    subst hrest
    exact .look hprovides (.refl _)
  | look h _ ih => exact .look h (ih hrest)

/-- How a connector for a data source is found. -/
inductive Found (source : Source) (c : ConnectorId) : List Look → Prop
  /-- It was in use. -/
  | shared {cs : Connectors} (h : cs.inUse? source.name = some c) :
      Found source c [⟨.inUse source.name, some c, cs, cs⟩]
  /-- It was opened and put in use. -/
  | opened {earlier : List Look} {before after cs cs' : Connectors}
      (hopened : ⟨.connect source, .ok c, before, after⟩ ∈ earlier)
      (h : Keyed.find? source.name cs'.cache = some c) :
      Found source c (earlier ++ [⟨.adopt source.name c, none, cs, cs'⟩])
  /-- It was put in use while another one was being opened, which is closed. -/
  | outrun {earlier : List Look} {own : ConnectorId} {report : Except QueryError Unit}
      {cs before after : Connectors} (h : cs.inUse? source.name = some c)
      (hclosed : after.isOpen own = false) :
      Found source c (earlier ++
        [⟨.adopt source.name own, some c, cs, cs⟩, ⟨.close own, report, before, after⟩])

theorem leads_done {outcome outcome' : Outcome} {past : List Look}
    (h : Leads (.done outcome) past (.done outcome')) : past = [] ∧ outcome = outcome' := by
  cases h
  exact ⟨rfl, rfl⟩

theorem exists_of_leads_call {c : RegistryCall} {next : c.Answer → RegistryProgram Outcome}
    {past : List Look} {outcome : Outcome} (h : Leads (.call c next) past (.done outcome)) :
    ∃ answer before after rest, past = ⟨c, answer, before, after⟩ :: rest ∧
      Provides before c answer after ∧ Leads (next answer) rest (.done outcome) := by
  cases h with
  | look h hrest => exact ⟨_, _, _, _, rfl, h, hrest⟩

/-- What becomes of a connector that was just opened. -/
theorem found_of_leads_adopt (earlier : List Look) {source : Source} {past : List Look}
    {own c : ConnectorId}
    {next : Option ConnectorId → RegistryProgram Outcome} {before after : Connectors}
    (hopened : ⟨.connect source, .ok own, before, after⟩ ∈ earlier)
    (hnone : next none = .done (.ok (some own)))
    (hsome : ∀ existing, next (some existing) =
      .call (.close own) fun _ => .done (.ok (some existing)))
    (h : Leads (.call (.adopt source.name own) next) past (.done (.ok (some c)))) :
    Found source c (earlier ++ past) := by
  obtain ⟨existing, cs, _, rest, rfl, hadopt, hrest⟩ := exists_of_leads_call h
  cases hadopt
  unfold Connectors.adopt at hrest ⊢
  cases hinUse : cs.inUse? source.name with
  | none =>
    rw [hinUse] at hrest
    rw [hnone] at hrest
    obtain ⟨rfl, houtcome⟩ := leads_done hrest
    cases houtcome
    exact .opened hopened (by rw [Keyed.find?_insert, if_pos rfl])
  | some existing =>
    rw [hinUse] at hrest
    rw [hsome] at hrest
    obtain ⟨report, before', _, rest, rfl, hclose, hover⟩ := exists_of_leads_call hrest
    cases hclose
    obtain ⟨rfl, houtcome⟩ := leads_done hover
    cases houtcome
    refine .outrun hinUse (Bool.eq_false_iff.mpr fun hopen => ?_)
    exact (Connectors.isOpen_close.mp hopen).1 rfl

/-- A connector that is found is the one in use, or it was opened and put in use just now. -/
theorem found_of_leads {source : Source} {past : List Look} {c : ConnectorId}
    (h : Leads (Errand.find source).program past (.done (.ok (some c)))) :
    Found source c past := by
  obtain ⟨found, cs, _, rest, rfl, hlook, hfound⟩ := exists_of_leads_call h
  cases hlook
  cases hinUse : cs.inUse? source.name with
  | some existing =>
    rw [hinUse] at hfound
    obtain ⟨rfl, houtcome⟩ := leads_done hfound
    cases houtcome
    exact .shared hinUse
  | none =>
    rw [hinUse] at hfound
    obtain ⟨supported, _, _, rest, rfl, -, hsupported⟩ := exists_of_leads_call hfound
    cases supported with
    | false => cases (leads_done hsupported).2
    | true =>
      obtain ⟨connected, _, _, rest, rfl, -, hconnected⟩ := exists_of_leads_call hsupported
      cases connected with
      | error e => cases (leads_done hconnected).2
      | ok own =>
        have hopened {looked supported connected : Look} :
            connected ∈ [looked, supported, connected] := by simp
        exact found_of_leads_adopt [_, _, _] hopened rfl (fun _ => rfl) hconnected

/-! ### The connectors at any time -/

namespace Sharing

/-- What is true of the connectors and the visits at any time. -/
structure Orderly (s : Sharing) : Prop where
  minds : ∀ v ∈ s.visits, Minds v.rest
  leads : ∀ v ∈ s.visits, Leads v.errand.program v.past v.rest
  claimed : Claimed s.connectors (s.visits.map Visit.standing)
  covered : Covered s.connectors (s.visits.map Visit.standing)

theorem orderly_empty : Orderly {} where
  minds := nofun
  leads := nofun
  claimed := ⟨List.nodup_nil, nofun, nofun, nofun, nofun⟩
  covered := by
    refine ⟨fun c hopen => ?_, nofun⟩
    obtain ⟨k, hget, -⟩ := Connectors.isOpen_iff.mp hopen
    cases c <;> cases hget

theorem Orderly.step {s s' : Sharing} (h : Orderly s) (hstep : Step s s') : Orderly s' := by
  obtain ⟨hminds, hleads, hclaimed, hcovered⟩ := h
  cases hstep with
  | begun errand =>
    have hstanding : Visit.standing ⟨errand, [], errand.program⟩ = {} := by
      unfold Visit.standing
      rw [hand_program]
      rfl
    refine ⟨?_, ?_, ?_, ?_⟩
    · exact List.forall_mem_cons.mpr ⟨minds_program errand, hminds⟩
    · exact List.forall_mem_cons.mpr ⟨.refl _, hleads⟩
    · rw [List.map_cons, hstanding]
      exact hclaimed.begin
    · rw [List.map_cons, hstanding]
      exact hcovered.begin
  | @called cs cs' visits others errand past c next answer hvisits hprovides =>
    have hmap := hvisits.map Visit.standing
    have hclaimed := hclaimed.perm hmap
    have hcovered := hcovered.perm hmap
    obtain ⟨hself, hothers⟩ := List.forall_mem_cons.mp fun v hv =>
      hminds v (hvisits.mem_iff.mpr hv)
    obtain ⟨hpast, hpasts⟩ := List.forall_mem_cons.mp fun v hv =>
      hleads v (hvisits.mem_iff.mpr hv)
    have hmove := hself.move hprovides errand past
    refine ⟨?_, ?_, ?_, ?_⟩
    · cases hself with
      | call hnext => exact List.forall_mem_cons.mpr ⟨hnext answer, hothers⟩
    · exact List.forall_mem_cons.mpr ⟨hpast.concat hprovides, hpasts⟩
    · exact hclaimed.move hmove
    · exact hcovered.move hclaimed hmove
  | closed c => exact ⟨hminds, hleads, hclaimed.close c, hcovered.close hclaimed c⟩

theorem orderly_of_reaches {s : Sharing} (h : Reaches s) : Orderly s := by
  induction h with
  | refl => exact orderly_empty
  | tail _ hstep ih => exact ih.step hstep

/-- A visit that is over has nothing left to do. -/
theorem standing_of_isOver {v : Visit} (h : v.IsOver) :
    v.standing.owed = [] ∧ v.standing.closing = [] := by
  obtain ⟨outcome, hrest⟩ := h
  unfold Visit.standing
  rw [hrest]
  cases outcome <;> exact ⟨rfl, rfl⟩

/-- When nothing is under way, the open connectors are those in use. -/
theorem Orderly.isOpen_iff {s : Sharing} (h : Orderly s) (hover : ∀ v ∈ s.visits, v.IsOver)
    (c : ConnectorId) :
    s.connectors.isOpen c = true ↔ ∃ name, s.connectors.inUse? name = some c := by
  constructor
  · intro hopen
    rcases h.covered.isOpen c hopen with ⟨name, hfind⟩ | ⟨st, hst, howed⟩
    · exact ⟨name, Connectors.inUse?_eq_some.mpr ⟨hfind, hopen⟩⟩
    · obtain ⟨v, hv, rfl⟩ := List.mem_map.mp hst
      rw [(standing_of_isOver (hover v hv)).1] at howed
      cases howed
  · rintro ⟨name, hinUse⟩
    exact (Connectors.inUse?_eq_some.mp hinUse).2

/-- Whatever queries look for connectors, and whatever is removed and closes in the meantime: when
nothing is under way, the open connectors are just those in use, at most one for each data source.
A connector that is handed out was in use for the data source at the time, or was put in use then.
A connector that lost the race to be put in use is never in use and never handed out, and it is
closed when its visit is over. -/
theorem shared_of_reaches {s : Sharing} (h : Reaches s) :
    ((∀ v ∈ s.visits, v.IsOver) →
      (∀ c, s.connectors.isOpen c = true ↔ ∃ name, s.connectors.inUse? name = some c) ∧
        ∀ c c', s.connectors.isOpen c = true → s.connectors.isOpen c' = true →
          s.connectors.source? c = s.connectors.source? c' → c = c') ∧
      (∀ v ∈ s.visits, ∀ source c, v.errand = .find source → v.rest = .done (.ok (some c)) →
        Found source c v.past) ∧
      ∀ v ∈ s.visits, ∀ c ∈ v.lost,
        (s.connectors.source? c).isSome = true ∧
          (∀ name, Keyed.find? name s.connectors.cache ≠ some c) ∧
          (∀ v' ∈ s.visits, v'.rest ≠ .done (.ok (some c))) ∧
          (v.IsOver → s.connectors.isOpen c = false) := by
  have horderly := orderly_of_reaches h
  refine ⟨fun hover => ⟨horderly.isOpen_iff hover, ?_⟩, ?_, ?_⟩
  · intro c c' hopen hopen' hsource
    obtain ⟨name, hinUse⟩ := (horderly.isOpen_iff hover c).mp hopen
    obtain ⟨name', hinUse'⟩ := (horderly.isOpen_iff hover c').mp hopen'
    have hfind := (Connectors.inUse?_eq_some.mp hinUse).1
    have hfind' := (Connectors.inUse?_eq_some.mp hinUse').1
    rw [(horderly.claimed.cached name c hfind).1, (horderly.claimed.cached name' c' hfind').1]
      at hsource
    obtain rfl := Option.some.inj hsource
    exact Option.some.inj (hfind.symm.trans hfind')
  · intro v hv source c herrand hrest
    have hleads := horderly.leads v hv
    rw [herrand, hrest] at hleads
    exact found_of_leads hleads
  · intro v hv c hlost
    have hstanding : v.standing ∈ s.visits.map Visit.standing := List.mem_map_of_mem hv
    have hown : c ∈ (s.visits.map Visit.standing).flatMap Standing.own :=
      List.mem_flatMap.mpr ⟨v.standing, hstanding, List.mem_append_right _ hlost⟩
    refine ⟨horderly.claimed.own c hown, fun name hfind => ?_, fun v' hv' hrest => ?_,
      fun hover => ?_⟩
    · exact (horderly.claimed.cached name c hfind).2 hown
    · have hgiven : v'.standing.given = some c := by
        unfold Visit.standing
        rw [hrest]
        rfl
      exact (horderly.claimed.given _ (List.mem_map_of_mem hv') c hgiven).2 hown
    · rcases horderly.covered.lost _ hstanding c hlost with hclosing | hclosed
      · rw [(standing_of_isOver hover).2] at hclosing
        cases hclosing
      · exact hclosed

/-- Two queries look for the same connector and open one each.  The second to put its own in use
shares the other's, which is the only one that stays open. -/
theorem shared_of_reaches_race : ∃ (s : Sharing) (first second : Visit), Reaches s ∧
    first ∈ s.visits ∧ second ∈ s.visits ∧ (∀ v ∈ s.visits, v.IsOver) ∧
      first.rest = .done (.ok (some 2)) ∧ second.rest = .done (.ok (some 2)) ∧
      second.lost = [1] ∧ s.connectors.isOpen 1 = false ∧
      s.connectors.inUse? "users" = some 2 := by
  let source : Source := { name := "users", kind := "postgres" }
  have hreaches : Reaches _ := Relation.ReflTransGen.refl
    |>.tail (.begun (.find source))
    |>.tail (.begun (.find source))
    |>.tail (.called (.refl _) (.inUse _))
    |>.tail (.called (.swap _ _ _) (.inUse _))
    |>.tail (.called (.refl _) (.supports _ true))
    |>.tail (.called (.refl _) (.connected _))
    |>.tail (.called (.swap _ _ _) (.supports _ true))
    |>.tail (.called (.refl _) (.connected _))
    |>.tail (.called (.refl _) (.adopt _ _))
    |>.tail (.called (.swap _ _ _) (.adopt _ _))
    |>.tail (.called (.refl _) (.close _ (.ok ())))
  obtain ⟨-, -, hlost⟩ := shared_of_reaches hreaches
  have hclosed := (hlost _ List.mem_cons_self 1 List.mem_cons_self).2.2.2 ⟨_, rfl⟩
  refine ⟨_, _, _, hreaches, List.mem_cons_of_mem _ List.mem_cons_self, List.mem_cons_self, ?_, rfl,
    rfl, rfl, hclosed, by decide⟩
  exact List.forall_mem_cons.mpr ⟨⟨_, rfl⟩, List.forall_mem_cons.mpr ⟨⟨_, rfl⟩, nofun⟩⟩

end Sharing

end QueryGateway.Registry
