import Mathlib.Data.List.Induction
import QueryGateway.Context

/-!
# Contexts that are derived from one another

Contexts are made anew, tightened, and derived from others, and are cancelled while time goes by.
Which contexts a cancellation reaches is told by how they were made, without their tokens: a clone
has the token of what it was cloned from, every other context has one of its own, and the token of a
derived context descends from that of the context it was derived from.

## Main definitions

* `ContextStep`, `Contexts`, `Contexts.run?` — contexts that are made, cancelled and waited for.
* `ContextOrigin`, `ContextStep.origins` — how each context was made.
* `ContextOrigin.HasToken`, `ContextOrigin.Descends`, `ContextOrigin.Below` — which token a context
  has, and which tokens that descends from.
* `ContextOrigin.HasParentToken` — which token that of a context was derived from.
* `ContextOrigin.Narrows` — a context is a clone or a child, over any number of steps.
* `Contexts.Lawful` — cancellation, deadlines and checks of contexts that were made in turn.

## Main results

* `Contexts.cases_of_step?` — what one step does.
* `Contexts.sound_of_run?` — the tokens in the contexts tell how these were made.
* `Contexts.lawful_of_run?` — contexts are lawful after any steps.
-/

namespace QueryGateway

/-! ### Steps -/

/-- What is done with contexts.  A context goes by its number: how many were made before it. -/
inductive ContextStep
  | fresh
  | withTimeout (ms : Nat)
  /-- A clone is tightened. -/
  | timeout (k ms : Nat)
  | child (k : Nat)
  /-- A context without deadline is made whose token descends from that of another. -/
  | follower (k : Nat)
  | cancel (k : Nat)
  /-- Time goes by. -/
  | pass (ms : Nat)
  deriving DecidableEq

/-- The contexts that were made, in order, and the moment. -/
structure Contexts where
  made : List Context := []
  moment : Moment := {}
  deriving DecidableEq

namespace Contexts

/-- One more context, and the moment after it was made. -/
def add (s : Contexts) (made : Context × Moment) : Contexts := ⟨s.made ++ [made.1], made.2⟩

/-- The contexts after a step; there is no step with a context that was not made. -/
def step? (s : Contexts) : ContextStep → Option Contexts
  | .fresh => some (s.add (Context.fresh s.moment))
  | .withTimeout ms =>
    let (c, m) := Context.fresh s.moment
    some (s.add (c.timeout m ms, m))
  | .timeout k ms => s.made[k]?.map fun c => s.add (c.timeout s.moment ms, s.moment)
  | .child k => s.made[k]?.map fun c => s.add (c.child s.moment)
  | .follower k => s.made[k]?.map fun c => s.add (c.follower s.moment)
  | .cancel k => s.made[k]?.map fun c => { s with moment := c.cancel s.moment }
  | .pass ms => some { s with moment := s.moment.later ms }

/-- The contexts after steps in turn. -/
def run? (s : Contexts) (steps : List ContextStep) : Option Contexts := steps.foldlM step? s

end Contexts

/-! ### How contexts were made -/

/-- How a context was made. -/
inductive ContextOrigin
  | new
  | clone (k : Nat)
  | child (k : Nat)
  | follower (k : Nat)
  deriving DecidableEq

/-- How a step makes a context, if it makes one. -/
def ContextStep.origin? : ContextStep → Option ContextOrigin
  | .fresh | .withTimeout _ => some .new
  | .timeout k _ => some (.clone k)
  | .child k => some (.child k)
  | .follower k => some (.follower k)
  | .cancel _ | .pass _ => none

/-- How the contexts that steps make are made, in order. -/
def ContextStep.origins (steps : List ContextStep) : List ContextOrigin :=
  steps.filterMap ContextStep.origin?

namespace ContextOrigin

/-- The context whose token is shared. -/
def cloned? : ContextOrigin → Option Nat
  | .clone k => some k
  | .new | .child _ | .follower _ => none

/-- The context from whose token the new token descends. -/
def parent? : ContextOrigin → Option Nat
  | .child k | .follower k => some k
  | .new | .clone _ => none

/-- The context whose deadline is taken over. -/
def narrowed? : ContextOrigin → Option Nat
  | .clone k | .child k => some k
  | .new | .follower _ => none

/-- A context has the token that was made for a context, which goes by the number of that. -/
inductive HasToken (os : List ContextOrigin) : Nat → Nat → Prop
  | own {i : Nat} {m : ContextOrigin} (hm : os[i]? = some m) (h : m.cloned? = none) : HasToken os i i
  | clone {i k t : Nat} (hm : os[i]? = some (.clone k)) (h : HasToken os k t) : HasToken os i t

/-- A token is another, or descends from it. -/
inductive Descends (os : List ContextOrigin) : Nat → Nat → Prop
  | refl (t : Nat) : Descends os t t
  | parent {t k p a : Nat} {m : ContextOrigin} (hm : os[t]? = some m) (hk : m.parent? = some k)
      (hp : HasToken os k p) (h : Descends os p a) : Descends os t a

/-- The token of a context is that of another, or descends from it. -/
def Below (os : List ContextOrigin) (i k : Nat) : Prop :=
  ∃ t a, HasToken os i t ∧ HasToken os k a ∧ Descends os t a

/-- The token of a context was derived from another token. -/
def HasParentToken (os : List ContextOrigin) (i p : Nat) : Prop :=
  ∃ t k, ∃ m : ContextOrigin,
    HasToken os i t ∧ os[t]? = some m ∧ m.parent? = some k ∧ HasToken os k p

/-- A context is another, or a clone or child of it over any number of steps. -/
inductive Narrows (os : List ContextOrigin) : Nat → Nat → Prop
  | refl (i : Nat) : Narrows os i i
  | step {i j k : Nat} {m : ContextOrigin} (hm : os[i]? = some m) (hj : m.narrowed? = some j)
      (h : Narrows os j k) : Narrows os i k

/-- Contexts are made from those that were made before. -/
def Ordered (os : List ContextOrigin) : Prop :=
  ∀ i (m : ContextOrigin), os[i]? = some m → ∀ k, m.cloned? = some k ∨ m.parent? = some k → k < i

variable {os : List ContextOrigin}

theorem cloned?_eq_some_iff {m : ContextOrigin} {k : Nat} : m.cloned? = some k ↔ m = .clone k := by
  cases m <;> simp [cloned?]

/-- The context whose deadline is taken over is the one that is cloned, or the parent. -/
theorem cloned?_or_parent?_of_narrowed? {m : ContextOrigin} {k : Nat} (h : m.narrowed? = some k) :
    m.cloned? = some k ∨ m.parent? = some k := by
  cases m with
  | clone j => exact Or.inl h
  | child j => exact Or.inr h
  | new => cases h
  | follower j => cases h

theorem Ordered.narrowed?_lt (hord : Ordered os) {i k : Nat} {m : ContextOrigin}
    (hm : os[i]? = some m) (hk : m.narrowed? = some k) : k < i :=
  hord i m hm k (cloned?_or_parent?_of_narrowed? hk)

theorem lt_length_of_getElem? {i : Nat} {m : ContextOrigin} (h : os[i]? = some m) : i < os.length :=
  (List.getElem?_eq_some_iff.mp h).1

theorem HasToken.le (hord : Ordered os) {i t : Nat} (h : HasToken os i t) : t ≤ i := by
  induction h with
  | own hm h => exact Nat.le_refl _
  | clone hm h ih => exact Nat.le_of_lt (Nat.lt_of_le_of_lt ih (hord _ _ hm _ (Or.inl rfl)))

theorem HasToken.unique {i t u : Nat} (ht : HasToken os i t) (hu : HasToken os i u) : t = u := by
  induction ht with
  | own hm h =>
    cases hu with
    | own hm' h' => rfl
    | clone hm' h' =>
      obtain rfl := Option.some.inj (hm.symm.trans hm')
      cases h
  | clone hm h ih =>
    cases hu with
    | own hm' h' =>
      obtain rfl := Option.some.inj (hm.symm.trans hm')
      cases h'
    | clone hm' h' =>
      obtain rfl := ContextOrigin.clone.inj (Option.some.inj (hm.symm.trans hm'))
      exact ih h'

theorem exists_hasToken (hord : Ordered os) : ∀ {i : Nat}, i < os.length → ∃ t, HasToken os i t := by
  intro i
  induction i using Nat.strongRecOn with
  | ind i ih =>
    intro hi
    obtain ⟨m, hm⟩ : ∃ m, os[i]? = some m := ⟨_, List.getElem?_eq_getElem hi⟩
    cases hc : m.cloned? with
    | none => exact ⟨i, .own hm hc⟩
    | some k =>
      have hk : k < i := hord i m hm k (Or.inl hc)
      obtain ⟨t, ht⟩ := ih k hk (Nat.lt_trans hk hi)
      obtain rfl := cloned?_eq_some_iff.mp hc
      exact ⟨t, .clone hm ht⟩

theorem Descends.le (hord : Ordered os) {t a : Nat} (h : Descends os t a) : a ≤ t := by
  induction h with
  | refl t => exact Nat.le_refl t
  | parent hm hk hp h ih =>
    have := hord _ _ hm _ (Or.inr hk)
    have := hp.le hord
    omega

theorem below_self (hord : Ordered os) {i : Nat} (hi : i < os.length) : Below os i i := by
  obtain ⟨t, ht⟩ := exists_hasToken hord hi
  exact ⟨t, t, ht, ht, .refl t⟩

/-! ### One more context -/

section Append

variable {m : ContextOrigin}

theorem getElem?_concat_of_lt {i : Nat} (hi : i < os.length) : (os ++ [m])[i]? = os[i]? :=
  List.getElem?_append_left hi

theorem ordered_concat (hord : Ordered os)
    (hm : ∀ k, m.cloned? = some k ∨ m.parent? = some k → k < os.length) : Ordered (os ++ [m]) := by
  intro i m' hm' k hk
  rcases Nat.lt_or_ge i os.length with hi | hi
  · rw [getElem?_concat_of_lt hi] at hm'
    exact hord i m' hm' k hk
  · have hlast : i = os.length := by
      have := lt_length_of_getElem? hm'
      rw [List.length_append, List.length_singleton] at this
      omega
    subst hlast
    rw [List.getElem?_concat_length] at hm'
    obtain rfl := Option.some.inj hm'
    exact hm k hk

theorem hasToken_concat (hord : Ordered os) {i t : Nat} (hi : i < os.length) :
    HasToken (os ++ [m]) i t ↔ HasToken os i t := by
  constructor
  · intro h
    induction h with
    | own hm h =>
      rw [getElem?_concat_of_lt hi] at hm
      exact .own hm h
    | clone hm h ih =>
      rw [getElem?_concat_of_lt hi] at hm
      exact .clone hm (ih (Nat.lt_trans (hord _ _ hm _ (Or.inl rfl)) hi))
  · intro h
    induction h with
    | own hm h => exact .own ((getElem?_concat_of_lt hi).trans hm) h
    | clone hm h ih =>
      exact .clone ((getElem?_concat_of_lt hi).trans hm)
        (ih (Nat.lt_trans (hord _ _ hm _ (Or.inl rfl)) hi))

theorem descends_concat (hord : Ordered os) {t a : Nat} (ht : t < os.length) :
    Descends (os ++ [m]) t a ↔ Descends os t a := by
  constructor
  · intro h
    induction h with
    | refl t => exact .refl t
    | parent hm hk hp h ih =>
      rw [getElem?_concat_of_lt ht] at hm
      have hlt := hord _ _ hm _ (Or.inr hk)
      have hp := (hasToken_concat hord (Nat.lt_trans hlt ht)).mp hp
      exact .parent hm hk hp (ih (Nat.lt_of_le_of_lt (hp.le hord) (Nat.lt_trans hlt ht)))
  · intro h
    induction h with
    | refl t => exact .refl t
    | parent hm hk hp h ih =>
      have hlt := hord _ _ hm _ (Or.inr hk)
      have hp' := (hasToken_concat (m := m) hord (Nat.lt_trans hlt ht)).mpr hp
      exact .parent ((getElem?_concat_of_lt ht).trans hm) hk hp'
        (ih (Nat.lt_of_le_of_lt (hp.le hord) (Nat.lt_trans hlt ht)))

/-- Among the contexts that were there, nothing changes. -/
theorem below_concat (hord : Ordered os) {i k : Nat} (hi : i < os.length) (hk : k < os.length) :
    Below (os ++ [m]) i k ↔ Below os i k := by
  constructor
  · rintro ⟨t, a, ht, ha, h⟩
    have ht := (hasToken_concat hord hi).mp ht
    exact ⟨t, a, ht, (hasToken_concat hord hk).mp ha,
      (descends_concat hord (Nat.lt_of_le_of_lt (ht.le hord) hi)).mp h⟩
  · rintro ⟨t, a, ht, ha, h⟩
    exact ⟨t, a, (hasToken_concat hord hi).mpr ht, (hasToken_concat hord hk).mpr ha,
      (descends_concat hord (Nat.lt_of_le_of_lt (ht.le hord) hi)).mpr h⟩

theorem hasToken_last (hown : m.cloned? = none) {t : Nat} :
    HasToken (os ++ [m]) os.length t ↔ t = os.length := by
  have hlast : (os ++ [m])[os.length]? = some m := List.getElem?_concat_length
  constructor
  · intro h
    exact h.unique (.own hlast hown)
  · rintro rfl
    exact .own hlast hown

/-- No token descends from one that is made later. -/
theorem not_below_last (hord : Ordered os) (hown : m.cloned? = none) {i : Nat}
    (hi : i < os.length) : ¬ Below (os ++ [m]) i os.length := by
  rintro ⟨t, a, ht, ha, h⟩
  obtain rfl := (hasToken_last hown).mp ha
  have ht := ((hasToken_concat hord hi).mp ht).le hord
  have := ((descends_concat hord (Nat.lt_of_le_of_lt ht hi)).mp h).le hord
  omega

/-- A new token descends from what its parent is or descends from. -/
theorem below_last_iff (hord : Ordered os) (hown : m.cloned? = none)
    (hm : ∀ k, m.parent? = some k → k < os.length) {j : Nat} (hj : j < os.length) :
    Below (os ++ [m]) os.length j ↔ ∃ k, m.parent? = some k ∧ Below os k j := by
  have hlast : (os ++ [m])[os.length]? = some m := List.getElem?_concat_length
  constructor
  · rintro ⟨t, a, ht, ha, h⟩
    obtain rfl := (hasToken_last hown).mp ht
    have ha' := (hasToken_concat hord hj).mp ha
    cases h with
    | refl => exact absurd (ha'.le hord) (Nat.not_le.mpr hj)
    | parent hm' hk hp h =>
      obtain rfl := Option.some.inj (hlast.symm.trans hm')
      have hp := (hasToken_concat hord (hm _ hk)).mp hp
      exact ⟨_, hk, _, _, hp, ha',
        (descends_concat hord (Nat.lt_of_le_of_lt (hp.le hord) (hm _ hk))).mp h⟩
  · rintro ⟨k, hk, p, a, hp, ha, h⟩
    refine ⟨_, a, (hasToken_last hown).mpr rfl, (hasToken_concat hord hj).mpr ha, ?_⟩
    exact .parent hlast hk ((hasToken_concat hord (hm k hk)).mpr hp)
      ((descends_concat hord (Nat.lt_of_le_of_lt (hp.le hord) (hm k hk))).mpr h)

/-- A clone has the token of what it is cloned from. -/
theorem hasToken_clone {i k t : Nat} (hi : os[i]? = some (.clone k)) :
    HasToken os i t ↔ HasToken os k t := by
  constructor
  · intro h
    cases h with
    | own hm h =>
      obtain rfl := Option.some.inj (hi.symm.trans hm)
      cases h
    | clone hm h =>
      obtain rfl := ContextOrigin.clone.inj (Option.some.inj (hi.symm.trans hm))
      exact h
  · exact .clone hi

theorem below_clone_left {i k j : Nat} (hi : os[i]? = some (.clone k)) :
    Below os i j ↔ Below os k j := by
  unfold Below
  simp only [hasToken_clone hi]

theorem below_clone_right {i k j : Nat} (hi : os[i]? = some (.clone k)) :
    Below os j i ↔ Below os j k := by
  unfold Below
  simp only [hasToken_clone hi]

end Append

/-! ### Parents and siblings -/

/-- Tokens are made after the tokens that they are derived from. -/
theorem HasParentToken.lt (hord : Ordered os) {i t p : Nat} (h : HasParentToken os i p)
    (ht : HasToken os i t) : p < t := by
  obtain ⟨u, k, m, hu, hm, hk, hp⟩ := h
  obtain rfl := ht.unique hu
  exact Nat.lt_of_le_of_lt (hp.le hord) (hord _ m hm k (Or.inr hk))

/-- Neither the token that a token is derived from descends from it, nor does another one that is
derived from the same. -/
theorem not_below_of_hasParentToken (hord : Ordered os) {i p : Nat} (hi : HasParentToken os i p) :
    (∀ j, HasToken os j p → ¬ Below os j i) ∧
      ∀ j, HasParentToken os j p → (¬ ∃ t, HasToken os i t ∧ HasToken os j t) → ¬ Below os j i := by
  constructor
  · rintro j hj ⟨t, a, ht, ha, h⟩
    obtain rfl := ht.unique hj
    exact Nat.not_le.mpr (hi.lt hord ha) (h.le hord)
  · rintro j ⟨u, k, m, hu, hm, hk, hp⟩ hne ⟨t, a, ht, ha, h⟩
    obtain rfl := ht.unique hu
    cases h with
    | refl => exact hne ⟨_, ha, ht⟩
    | parent hm' hk' hp' h =>
      -- whatever is above the other token is older than this one
      obtain rfl := Option.some.inj (hm.symm.trans hm')
      obtain rfl := Option.some.inj (hk.symm.trans hk')
      obtain rfl := hp.unique hp'
      exact Nat.not_le.mpr (hi.lt hord ha) (h.le hord)

end ContextOrigin

open ContextOrigin

/-! ### What contexts hold -/

/-- A deadline is not later than another, where none is later than any. -/
def NotLater (d e : Option Nat) : Prop := ∀ t, e = some t → ∃ t', d = some t' ∧ t' ≤ t

theorem NotLater.refl (d : Option Nat) : NotLater d d := fun t h => ⟨t, h, Nat.le_refl t⟩

theorem NotLater.trans {d e f : Option Nat} (hde : NotLater d e) (hef : NotLater e f) :
    NotLater d f := by
  intro t h
  obtain ⟨t', he, hle⟩ := hef t h
  obtain ⟨t'', hd, hle'⟩ := hde t' he
  exact ⟨t'', hd, Nat.le_trans hle' hle⟩

/-- Whether a token is or descends from that with a serial number. -/
def Token.Lists (t : Token) (serial : Nat) : Prop := serial ∈ t.serial :: t.ancestors

theorem Tokens.isCancelled_iff {ts : Tokens} {t : Token} :
    ts.isCancelled t = true ↔ ∃ serial ∈ ts.cancelled, t.Lists serial := by
  simp only [Tokens.isCancelled, List.any_eq_true, List.contains_iff_mem, Token.Lists]
  exact ⟨fun ⟨x, hl, hc⟩ => ⟨x, hc, hl⟩, fun ⟨x, hc, hl⟩ => ⟨x, hl, hc⟩⟩

namespace Context

variable {c : Context} {m : Moment}

theorem notLater_timeout (c : Context) (m : Moment) (ms : Nat) :
    NotLater (c.timeout m ms).deadline c.deadline := by
  intro t h
  refine ⟨_, rfl, ?_⟩
  rw [h]
  dsimp only
  split <;> omega

theorem check?_eq_cancelled_iff : c.check? m = some .cancelled ↔ c.isCancelled m = true := by
  unfold check?
  split
  · next h => simp [h]
  · next h => split <;> simp [h]

/-- A deadline is over once it is not after the time. -/
theorem remaining?_eq_zero_iff :
    c.remaining? m = some 0 ↔ ∃ d, c.deadline = some d ∧ d ≤ m.now := by
  unfold remaining?
  rw [Option.map_eq_some_iff]
  simp only [Nat.sub_eq_zero_iff_le]

theorem check?_eq_deadlineExceeded_iff : c.check? m = some .deadlineExceeded ↔
    c.isCancelled m = false ∧ ∃ d, c.deadline = some d ∧ d ≤ m.now := by
  rw [← remaining?_eq_zero_iff]
  unfold check?
  split
  · next h => simp [h]
  · next h => split <;> simp_all

theorem check?_eq_none_iff : c.check? m = none ↔
    c.isCancelled m = false ∧ ∀ d, c.deadline = some d → m.now < d := by
  have hdeadline : (∀ d, c.deadline = some d → m.now < d) ↔ c.remaining? m ≠ some 0 := by
    rw [Ne, remaining?_eq_zero_iff]
    exact ⟨fun h ⟨d, hd, hle⟩ => Nat.not_le.mpr (h d hd) hle,
      fun h d hd => Nat.not_le.mp fun hle => h ⟨d, hd, hle⟩⟩
  rw [hdeadline]
  unfold check?
  split
  · next h => simp [h]
  · next h => split <;> simp_all

end Context

namespace Contexts

variable {s s' : Contexts} {step : ContextStep} {steps : List ContextStep}

/-- What making a context adds: a token of its own below that of its parent, or the token that it
shares, and a deadline that is not later than the one it takes over. -/
inductive Makes (s : Contexts) : ContextOrigin → Context → Moment → Prop
  | own {o : ContextOrigin} {c : Context} (hown : o.cloned? = none)
      (hserial : c.token.serial = s.moment.tokens.issued)
      (hparent : ∀ k, o.parent? = some k → ∃ d, s.made[k]? = some d ∧
        c.token.ancestors = d.token.serial :: d.token.ancestors)
      (hroot : o.parent? = none → c.token.ancestors = []) :
      Makes s o c { s.moment with
        tokens := { s.moment.tokens with issued := s.moment.tokens.issued + 1 } }
  | clone {k : Nat} {c d : Context} (hd : s.made[k]? = some d) (htoken : c.token = d.token) :
      Makes s (.clone k) c s.moment

/-- What one step does: a context is made, or cancelled, or time goes by. -/
theorem cases_of_step? (h : s.step? step = some s') :
    (∃ o c, step.origin? = some o ∧ s'.made = s.made ++ [c] ∧ Makes s o c s'.moment ∧
      ∀ k, o.narrowed? = some k → ∃ d, s.made[k]? = some d ∧ NotLater c.deadline d.deadline) ∨
    (∃ k c, step = .cancel k ∧ s.made[k]? = some c ∧
      s' = { s with moment := c.cancel s.moment }) ∨
    ∃ ms, step = .pass ms ∧ s' = { s with moment := s.moment.later ms } := by
  cases step with
  | fresh =>
    obtain rfl := Option.some.inj h
    exact Or.inl ⟨.new, _, rfl, rfl, .own rfl rfl nofun fun _ => rfl, nofun⟩
  | withTimeout ms =>
    obtain rfl := Option.some.inj h
    exact Or.inl ⟨.new, _, rfl, rfl, .own rfl rfl nofun fun _ => rfl, nofun⟩
  | timeout k ms =>
    obtain ⟨c, hc, rfl⟩ := Option.map_eq_some_iff.mp h
    refine Or.inl ⟨.clone k, _, rfl, rfl, .clone hc rfl, ?_⟩
    rintro _ ⟨⟩
    exact ⟨c, hc, c.notLater_timeout s.moment ms⟩
  | child k =>
    obtain ⟨c, hc, rfl⟩ := Option.map_eq_some_iff.mp h
    refine Or.inl ⟨.child k, _, rfl, rfl, .own rfl rfl ?_ nofun, ?_⟩
    · rintro _ ⟨⟩
      exact ⟨c, hc, rfl⟩
    · rintro _ ⟨⟩
      exact ⟨c, hc, NotLater.refl _⟩
  | follower k =>
    obtain ⟨c, hc, rfl⟩ := Option.map_eq_some_iff.mp h
    refine Or.inl ⟨.follower k, _, rfl, rfl, .own rfl rfl ?_ nofun, nofun⟩
    rintro _ ⟨⟩
    exact ⟨c, hc, rfl⟩
  | cancel k =>
    obtain ⟨c, hc, rfl⟩ := Option.map_eq_some_iff.mp h
    exact Or.inr (Or.inl ⟨k, c, rfl, hc, rfl⟩)
  | pass ms =>
    obtain rfl := Option.some.inj h
    exact Or.inr (Or.inr ⟨ms, rfl, rfl⟩)

theorem Makes.lt_length {o : ContextOrigin} {c : Context} {m : Moment} (h : Makes s o c m) {k : Nat}
    (hk : o.cloned? = some k ∨ o.parent? = some k) : k < s.made.length := by
  cases h with
  | own hown hserial hparent hroot =>
    rcases hk with hk | hk
    · exact absurd (hown.symm.trans hk) nofun
    · obtain ⟨d, hd, -⟩ := hparent k hk
      exact (List.getElem?_eq_some_iff.mp hd).1
  | clone hd htoken =>
    rcases hk with ⟨⟨⟩⟩ | ⟨⟨⟩⟩
    exact (List.getElem?_eq_some_iff.mp hd).1

/-- Making a context cancels nothing and takes no time. -/
theorem Makes.moment_eq {o : ContextOrigin} {c : Context} {m : Moment} (h : Makes s o c m) :
    m.tokens.cancelled = s.moment.tokens.cancelled ∧ m.now = s.moment.now ∧
      s.moment.tokens.issued ≤ m.tokens.issued := by
  cases h with
  | own => exact ⟨rfl, rfl, Nat.le_succ _⟩
  | clone => exact ⟨rfl, rfl, Nat.le_refl _⟩

/-- The contexts hold what the steps made of them. -/
structure Sound (steps : List ContextStep) (s : Contexts) : Prop where
  length_eq : s.made.length = (ContextStep.origins steps).length
  ordered : Ordered (ContextStep.origins steps)
  /-- Serial numbers are given out once. -/
  issued : ∀ c ∈ s.made, ∀ serial : Nat, c.token.Lists serial → serial < s.moment.tokens.issued
  /-- The tokens in the contexts are related as the contexts were made. -/
  lists : ∀ (i k : Nat) (c d : Context), s.made[i]? = some c → s.made[k]? = some d →
    (c.token.Lists d.token.serial ↔ Below (ContextStep.origins steps) i k)
  cancelled : ∀ serial : Nat, serial ∈ s.moment.tokens.cancelled ↔
    ∃ (k : Nat) (c : Context), ContextStep.cancel k ∈ steps ∧ s.made[k]? = some c ∧
      c.token.serial = serial
  made : ∀ k : Nat, ContextStep.cancel k ∈ steps → k < s.made.length
  clone : ∀ (i k : Nat) (c d : Context),
    (ContextStep.origins steps)[i]? = some (ContextOrigin.clone k) →
    s.made[i]? = some c → s.made[k]? = some d → c.token = d.token
  narrowed : ∀ (i k : Nat) (o : ContextOrigin) (c d : Context),
    (ContextStep.origins steps)[i]? = some o → o.narrowed? = some k →
    s.made[i]? = some c → s.made[k]? = some d → NotLater c.deadline d.deadline

theorem sound_nil : Sound [] {} where
  length_eq := rfl
  ordered := nofun
  issued := nofun
  lists := nofun
  cancelled := by simp
  made := nofun
  clone := nofun
  narrowed := nofun

/-- An entry of a list with one more entry was there, or is the last. -/
theorem getElem?_concat_eq_some {α : Type} {l : List α} {a b : α} {i : Nat}
    (h : (l ++ [a])[i]? = some b) : l[i]? = some b ∨ (i = l.length ∧ a = b) := by
  rcases Nat.lt_trichotomy i l.length with hi | hi | hi
  · exact Or.inl ((List.getElem?_append_left hi).symm.trans h)
  · subst hi
    rw [List.getElem?_concat_length] at h
    exact Or.inr ⟨rfl, Option.some.inj h⟩
  · rw [List.getElem?_eq_none (by rw [List.length_append]; exact hi)] at h
    cases h

theorem origins_concat_of_some {o : ContextOrigin} (h : step.origin? = some o) :
    ContextStep.origins (steps ++ [step]) = ContextStep.origins steps ++ [o] := by
  simp [ContextStep.origins, h]

theorem origins_concat_of_none (h : step.origin? = none) :
    ContextStep.origins (steps ++ [step]) = ContextStep.origins steps := by
  simp [ContextStep.origins, h]

namespace Sound

theorem lt_length (hs : Sound steps s) {i : Nat} {c : Context} (h : s.made[i]? = some c) :
    i < (ContextStep.origins steps).length :=
  hs.length_eq ▸ (List.getElem?_eq_some_iff.mp h).1

theorem serial_lt (hs : Sound steps s) {i : Nat} {c : Context} (h : s.made[i]? = some c) :
    c.token.serial < s.moment.tokens.issued :=
  hs.issued c (List.mem_of_getElem? h) _ List.mem_cons_self

variable {o : ContextOrigin} {c : Context} {m : Moment}

/-- The tokens are related as the contexts were made after one more was made. -/
theorem lists_concat (hs : Sound steps s) (hmakes : Makes s o c m) {i k : Nat} {d e : Context}
    (hi : (s.made ++ [c])[i]? = some d) (hk : (s.made ++ [c])[k]? = some e) :
    d.token.Lists e.token.serial ↔ Below (ContextStep.origins steps ++ [o]) i k := by
  have hord := ordered_concat hs.ordered fun k hk => hs.length_eq ▸ hmakes.lt_length hk
  have hlen : (ContextStep.origins steps ++ [o]).length = s.made.length + 1 := by
    rw [List.length_append, hs.length_eq, List.length_singleton]
  cases hmakes with
  | own hown hserial hparent hroot =>
    rcases getElem?_concat_eq_some hi with hi | ⟨rfl, rfl⟩ <;>
      rcases getElem?_concat_eq_some hk with hk | ⟨rfl, rfl⟩
    · rw [below_concat hs.ordered (hs.lt_length hi) (hs.lt_length hk)]
      exact hs.lists i k d e hi hk
    · -- no token that was there descends from the new one
      rw [hserial, hs.length_eq]
      exact iff_of_false
        (fun h => Nat.lt_irrefl _ (hs.issued d (List.mem_of_getElem? hi) _ h))
        (not_below_last hs.ordered hown (hs.lt_length hi))
    · -- the new token lists what its parent does, besides itself
      have hne : e.token.serial ≠ c.token.serial := by
        rw [hserial]
        exact Nat.ne_of_lt (hs.serial_lt hk)
      rw [hs.length_eq, below_last_iff hs.ordered hown
        (fun p hp => by obtain ⟨_, hp, -⟩ := hparent p hp; exact hs.lt_length hp) (hs.lt_length hk)]
      unfold Token.Lists
      rw [List.mem_cons, or_iff_right hne]
      cases hp : o.parent? with
      | none => simp [hroot hp]
      | some p =>
        obtain ⟨f, hf, hancestors⟩ := hparent p hp
        rw [hancestors]
        constructor
        · exact fun h => ⟨p, rfl, (hs.lists p k f e hf hk).mp h⟩
        · rintro ⟨_, ⟨⟩, h⟩
          exact (hs.lists p k f e hf hk).mpr h
    · exact iff_of_true List.mem_cons_self
        (below_self hord (by rw [hlen]; exact Nat.lt_succ_self _))
  | @clone p _ f hf htoken =>
    have hlast : (ContextStep.origins steps ++ [ContextOrigin.clone p])[s.made.length]? =
        some (ContextOrigin.clone p) := by
      rw [hs.length_eq, List.getElem?_concat_length]
    have hp := hs.lt_length hf
    -- on either side, the clone can be replaced by what it was cloned from
    rcases getElem?_concat_eq_some hi with hi | ⟨rfl, rfl⟩ <;>
      rcases getElem?_concat_eq_some hk with hk | ⟨rfl, rfl⟩
    · rw [below_concat hs.ordered (hs.lt_length hi) (hs.lt_length hk)]
      exact hs.lists i k d e hi hk
    · rw [below_clone_right hlast, below_concat hs.ordered (hs.lt_length hi) hp, htoken]
      exact hs.lists i p d f hi hf
    · rw [below_clone_left hlast, below_concat hs.ordered hp (hs.lt_length hk), htoken]
      exact hs.lists p k f e hf hk
    · rw [below_clone_left hlast, below_clone_right hlast, below_concat hs.ordered hp hp, htoken]
      exact hs.lists p p f f hf hf

theorem issued_concat (hs : Sound steps s) (hmakes : Makes s o c m) :
    ∀ d ∈ s.made ++ [c], ∀ serial : Nat, d.token.Lists serial → serial < m.tokens.issued := by
  intro d hd serial hlists
  rcases List.mem_append.mp hd with hd | hd
  · exact Nat.lt_of_lt_of_le (hs.issued d hd serial hlists) hmakes.moment_eq.2.2
  · obtain rfl := List.mem_singleton.mp hd
    cases hmakes with
    | clone hf htoken =>
      rw [htoken] at hlists
      exact hs.issued _ (List.mem_of_getElem? hf) serial hlists
    | own hown hserial hparent hroot =>
      refine Nat.lt_succ_of_le ?_
      rcases List.mem_cons.mp hlists with rfl | hlists
      · exact Nat.le_of_eq hserial
      · cases hp : o.parent? with
        | none =>
          rw [hroot hp] at hlists
          cases hlists
        | some p =>
          obtain ⟨f, hf, hancestors⟩ := hparent p hp
          rw [hancestors] at hlists
          exact Nat.le_of_lt (hs.issued f (List.mem_of_getElem? hf) serial hlists)

/-- If every context that was there is related to the one that it came from, and so is the new one,
every context still is. -/
theorem related_concat (hs : Sound steps s) (hmakes : Makes s o c m)
    {source : ContextOrigin → Option Nat} {R : Context → Context → Prop}
    (hsource : ∀ o k, source o = some k → o.cloned? = some k ∨ o.parent? = some k)
    (hold : ∀ (i k : Nat) (o : ContextOrigin) (c d : Context),
      (ContextStep.origins steps)[i]? = some o → source o = some k →
      s.made[i]? = some c → s.made[k]? = some d → R c d)
    (hnew : ∀ (k : Nat) (d : Context), source o = some k → s.made[k]? = some d → R c d)
    (i k : Nat) (o' : ContextOrigin) (d e : Context)
    (ho : (ContextStep.origins steps ++ [o])[i]? = some o') (hk : source o' = some k)
    (hd : (s.made ++ [c])[i]? = some d) (he : (s.made ++ [c])[k]? = some e) : R d e := by
  have hord := ordered_concat hs.ordered fun k hk => hs.length_eq ▸ hmakes.lt_length hk
  have hlt : k < i := hord i o' ho k (hsource o' k hk)
  rcases getElem?_concat_eq_some hd with hd | ⟨rfl, rfl⟩
  · have hi := (List.getElem?_eq_some_iff.mp hd).1
    rw [List.getElem?_append_left (Nat.lt_trans hlt hi)] at he
    rw [getElem?_concat_of_lt (hs.lt_length hd)] at ho
    exact hold i k o' d e ho hk hd he
  · rw [List.getElem?_append_left hlt] at he
    rw [hs.length_eq, List.getElem?_concat_length] at ho
    obtain rfl := Option.some.inj ho
    exact hnew k e hk he

/-- After a context was made. -/
theorem concat_of_makes (hs : Sound steps s) (ho : step.origin? = some o) (hmakes : Makes s o c m)
    (hnarrowed : ∀ k, o.narrowed? = some k →
      ∃ d, s.made[k]? = some d ∧ NotLater c.deadline d.deadline) :
    Sound (steps ++ [step]) ⟨s.made ++ [c], m⟩ := by
  have hcancel : ∀ k, ContextStep.cancel k ∈ steps ++ [step] ↔ ContextStep.cancel k ∈ steps := by
    intro k
    rw [List.mem_append, List.mem_singleton]
    refine or_iff_left ?_
    rintro rfl
    cases ho
  have hold : ∀ {k : Nat}, k < s.made.length → (s.made ++ [c])[k]? = s.made[k]? :=
    fun hk => List.getElem?_append_left hk
  have horigins : ContextStep.origins (steps ++ [step]) = ContextStep.origins steps ++ [o] :=
    origins_concat_of_some ho
  constructor
  case length_eq =>
    rw [horigins, List.length_append, List.length_append, hs.length_eq]
    rfl
  case ordered =>
    rw [horigins]
    exact ordered_concat hs.ordered fun k hk => hs.length_eq ▸ hmakes.lt_length hk
  case issued => exact hs.issued_concat hmakes
  case lists =>
    rw [horigins]
    exact fun i k d e hi hk => hs.lists_concat hmakes hi hk
  case cancelled =>
    intro serial
    rw [hmakes.moment_eq.1, hs.cancelled]
    simp only [hcancel]
    constructor
    · rintro ⟨k, d, hk, hd, rfl⟩
      exact ⟨k, d, hk, (hold (hs.made k hk)).trans hd, rfl⟩
    · rintro ⟨k, d, hk, hd, rfl⟩
      exact ⟨k, d, hk, (hold (hs.made k hk)).symm.trans hd, rfl⟩
  case made =>
    intro k hk
    rw [List.length_append]
    exact Nat.lt_add_right _ (hs.made k ((hcancel k).mp hk))
  case clone =>
    rw [horigins]
    refine fun i k d e hi hd he => hs.related_concat hmakes (R := fun c d => c.token = d.token)
      (fun _ _ => Or.inl) ?_ ?_ i k _ d e hi rfl hd he
    · intro i k o c d ho hk hc hd
      obtain rfl := cloned?_eq_some_iff.mp hk
      exact hs.clone i k c d ho hc hd
    · intro p f hp hf
      obtain rfl := cloned?_eq_some_iff.mp hp
      cases hmakes with
      | own hown => cases hown
      | clone hmade htoken =>
        obtain rfl := Option.some.inj (hmade.symm.trans hf)
        exact htoken
  case narrowed =>
    rw [horigins]
    refine hs.related_concat hmakes (fun _ _ => cloned?_or_parent?_of_narrowed?) hs.narrowed ?_
    intro k d hk hd
    obtain ⟨f, hf, h⟩ := hnarrowed k hk
    obtain rfl := Option.some.inj (hf.symm.trans hd)
    exact h

/-- After a step that makes no context and gives out no token. -/
theorem concat_of_none (hs : Sound steps s) (ho : step.origin? = none)
    (hissued : m.tokens.issued = s.moment.tokens.issued)
    (hcancelled : ∀ serial : Nat, serial ∈ m.tokens.cancelled ↔
      ∃ (k : Nat) (c : Context), ContextStep.cancel k ∈ steps ++ [step] ∧ s.made[k]? = some c ∧
        c.token.serial = serial)
    (hmade : ∀ k : Nat, ContextStep.cancel k ∈ steps ++ [step] → k < s.made.length) :
    Sound (steps ++ [step]) { s with moment := m } := by
  have horigins : ContextStep.origins (steps ++ [step]) = ContextStep.origins steps :=
    origins_concat_of_none ho
  exact {
    length_eq := horigins ▸ hs.length_eq
    ordered := horigins ▸ hs.ordered
    issued := hissued ▸ hs.issued
    lists := horigins ▸ hs.lists
    cancelled := hcancelled
    made := hmade
    clone := horigins ▸ hs.clone
    narrowed := horigins ▸ hs.narrowed }

/-- One step keeps contexts sound. -/
theorem concat (hs : Sound steps s) (h : s.step? step = some s') : Sound (steps ++ [step]) s' := by
  rcases cases_of_step? h with ⟨o, c, ho, hmade, hmakes, hnarrowed⟩ | ⟨k, c, rfl, hc, rfl⟩ |
    ⟨ms, rfl, rfl⟩
  · have := hs.concat_of_makes ho hmakes hnarrowed
    rwa [← hmade] at this
  · refine hs.concat_of_none rfl rfl (fun serial => ?_) fun j hj => ?_
    · have hcancelled : serial ∈ (c.cancel s.moment).tokens.cancelled ↔
          serial = c.token.serial ∨ serial ∈ s.moment.tokens.cancelled := List.mem_cons
      rw [hcancelled, hs.cancelled]
      constructor
      · rintro (rfl | ⟨j, d, hj, hd, rfl⟩)
        · exact ⟨k, c, by simp, hc, rfl⟩
        · exact ⟨j, d, by simp [hj], hd, rfl⟩
      · rintro ⟨j, d, hj, hd, rfl⟩
        rcases List.mem_append.mp hj with hj | hj
        · exact Or.inr ⟨j, d, hj, hd, rfl⟩
        · obtain rfl := ContextStep.cancel.inj (List.mem_singleton.mp hj)
          exact Or.inl (congrArg (·.token.serial) (Option.some.inj (hd.symm.trans hc)))
    · rcases List.mem_append.mp hj with hj | hj
      · exact hs.made j hj
      · obtain rfl := ContextStep.cancel.inj (List.mem_singleton.mp hj)
        exact (List.getElem?_eq_some_iff.mp hc).1
  · have hcancel : ∀ k,
        ContextStep.cancel k ∈ steps ++ [.pass ms] ↔ ContextStep.cancel k ∈ steps := by
      simp
    refine hs.concat_of_none rfl rfl (fun serial => ?_) fun j hj => hs.made j ((hcancel j).mp hj)
    simp only [hcancel]
    exact hs.cancelled serial

end Sound

theorem run?_concat (s : Contexts) (steps : List ContextStep) (step : ContextStep) :
    s.run? (steps ++ [step]) = (s.run? steps).bind fun s' => s'.step? step := by
  unfold run?
  rw [List.foldlM_append]
  cases List.foldlM step? s steps <;> simp

/-- Contexts that are made, cancelled and waited for are sound. -/
theorem sound_of_run? (h : run? {} steps = some s) : Sound steps s := by
  induction steps using List.reverseRecOn generalizing s with
  | nil =>
    obtain rfl := Option.some.inj h
    exact sound_nil
  | append_singleton steps step ih =>
    rw [run?_concat, Option.bind_eq_some_iff] at h
    obtain ⟨s₀, h₀, h⟩ := h
    exact (ih h₀).concat h

/-! ### As time goes by -/

/-- Contexts stay as they are while more are made; nothing is uncancelled, and time does not go
back. -/
structure Continues (s s' : Contexts) : Prop where
  made : s.made <+: s'.made
  cancelled : s.moment.tokens.cancelled ⊆ s'.moment.tokens.cancelled
  now : s.moment.now ≤ s'.moment.now

theorem Continues.refl (s : Contexts) : Continues s s :=
  ⟨List.prefix_refl _, List.Subset.refl _, Nat.le_refl _⟩

theorem Continues.trans {s₁ s₂ s₃ : Contexts} (h : Continues s₁ s₂) (h' : Continues s₂ s₃) :
    Continues s₁ s₃ :=
  ⟨h.made.trans h'.made, List.Subset.trans h.cancelled h'.cancelled, Nat.le_trans h.now h'.now⟩

theorem continues_of_step? (h : s.step? step = some s') : Continues s s' := by
  rcases cases_of_step? h with ⟨o, c, -, hmade, hmakes, -⟩ | ⟨k, c, -, -, rfl⟩ | ⟨ms, -, rfl⟩
  · exact ⟨hmade ▸ List.prefix_append _ _, hmakes.moment_eq.1 ▸ List.Subset.refl _,
      Nat.le_of_eq hmakes.moment_eq.2.1.symm⟩
  · exact ⟨List.prefix_refl _, List.subset_cons_self _ _, Nat.le_refl _⟩
  · exact ⟨List.prefix_refl _, List.Subset.refl _, Nat.le_add_right _ _⟩

theorem continues_of_run? (h : s.run? steps = some s') : Continues s s' := by
  induction steps using List.reverseRecOn generalizing s' with
  | nil =>
    obtain rfl := Option.some.inj h
    exact Continues.refl s
  | append_singleton steps step ih =>
    rw [run?_concat, Option.bind_eq_some_iff] at h
    obtain ⟨s₀, h₀, h⟩ := h
    exact (ih h₀).trans (continues_of_step? h)

/-- Work that may not go on may not go on later. -/
theorem Continues.check?_ne_none (h : Continues s s') {c : Context} (hc : c.check? s.moment ≠ none) :
    c.check? s'.moment ≠ none := by
  intro hnone
  obtain ⟨hcancelled, hdeadline⟩ := Context.check?_eq_none_iff.mp hnone
  refine hc (Context.check?_eq_none_iff.mpr ⟨?_, fun d hd => ?_⟩)
  · rw [← Bool.not_eq_true] at hcancelled ⊢
    intro hbefore
    obtain ⟨serial, hmem, hlists⟩ := Tokens.isCancelled_iff.mp hbefore
    exact hcancelled (Tokens.isCancelled_iff.mpr ⟨serial, h.cancelled hmem, hlists⟩)
  · exact Nat.lt_of_le_of_lt h.now (hdeadline d hd)

/-! ### Lawful contexts -/

/-- Cancellation, deadlines and checks of the contexts that steps made. -/
structure Lawful (steps : List ContextStep) (s : Contexts) : Prop where
  /-- There is a context for each step that makes one. -/
  length_eq : s.made.length = (ContextStep.origins steps).length
  /-- A context is cancelled iff one was cancelled whose token its own is or descends from. -/
  isCancelled_iff : ∀ (i : Nat) (c : Context), s.made[i]? = some c →
    (c.isCancelled s.moment = true ↔
      ∃ k, ContextStep.cancel k ∈ steps ∧ Below (ContextStep.origins steps) i k)
  /-- Cancelling a context reaches neither those with the token from which its own was derived, nor
  those with another token that was derived from that. -/
  notBelow : ∀ i p, HasParentToken (ContextStep.origins steps) i p →
    (∀ j, HasToken (ContextStep.origins steps) j p → ¬ Below (ContextStep.origins steps) j i) ∧
    ∀ j, HasParentToken (ContextStep.origins steps) j p →
      (¬ ∃ t, HasToken (ContextStep.origins steps) i t ∧ HasToken (ContextStep.origins steps) j t) →
      ¬ Below (ContextStep.origins steps) j i
  /-- A tightened clone has the token of the original. -/
  clone : ∀ (i k : Nat) (c d : Context),
    (ContextStep.origins steps)[i]? = some (ContextOrigin.clone k) →
    s.made[i]? = some c → s.made[k]? = some d → c.token = d.token
  /-- Clones and children never have a later deadline. -/
  notLater : ∀ (i k : Nat) (c d : Context), Narrows (ContextStep.origins steps) i k →
    s.made[i]? = some c → s.made[k]? = some d → NotLater c.deadline d.deadline
  check?_eq_cancelled_iff : ∀ c ∈ s.made,
    (c.check? s.moment = some .cancelled ↔ c.isCancelled s.moment = true)
  check?_eq_deadlineExceeded_iff : ∀ c ∈ s.made,
    (c.check? s.moment = some .deadlineExceeded ↔
      c.isCancelled s.moment = false ∧ ∃ d, c.deadline = some d ∧ d ≤ s.moment.now)
  check?_eq_none_iff : ∀ c ∈ s.made, (c.check? s.moment = none ↔
    c.isCancelled s.moment = false ∧ ∀ d, c.deadline = some d → s.moment.now < d)
  /-- Once its check fails, that of a context fails after whatever else is done. -/
  fails : ∀ (i : Nat) (c : Context), s.made[i]? = some c → c.check? s.moment ≠ none →
    ∀ (more : List ContextStep) (s' : Contexts), s.run? more = some s' →
      s'.made[i]? = some c ∧ c.check? s'.moment ≠ none

theorem Sound.isCancelled_iff (hs : Sound steps s) {i : Nat} {c : Context}
    (hc : s.made[i]? = some c) : c.isCancelled s.moment = true ↔
      ∃ k, ContextStep.cancel k ∈ steps ∧ Below (ContextStep.origins steps) i k := by
  unfold Context.isCancelled
  rw [Tokens.isCancelled_iff]
  constructor
  · rintro ⟨serial, hmem, hlists⟩
    obtain ⟨k, d, hk, hd, rfl⟩ := (hs.cancelled serial).mp hmem
    exact ⟨k, hk, (hs.lists i k c d hc hd).mp hlists⟩
  · rintro ⟨k, hk, hbelow⟩
    obtain ⟨d, hd⟩ : ∃ d, s.made[k]? = some d := ⟨_, List.getElem?_eq_getElem (hs.made k hk)⟩
    exact ⟨d.token.serial, (hs.cancelled _).mpr ⟨k, d, hk, hd, rfl⟩,
      (hs.lists i k c d hc hd).mpr hbelow⟩

theorem Sound.notLater (hs : Sound steps s) {i k : Nat} {c d : Context}
    (h : Narrows (ContextStep.origins steps) i k) (hc : s.made[i]? = some c)
    (hd : s.made[k]? = some d) : NotLater c.deadline d.deadline := by
  induction h generalizing c with
  | refl i =>
    obtain rfl := Option.some.inj (hc.symm.trans hd)
    exact NotLater.refl _
  | @step i j k o ho hj h ih =>
    have hlt : j < s.made.length :=
      Nat.lt_trans (hs.ordered.narrowed?_lt ho hj) (List.getElem?_eq_some_iff.mp hc).1
    obtain ⟨e, he⟩ : ∃ e, s.made[j]? = some e := ⟨_, List.getElem?_eq_getElem hlt⟩
    exact (hs.narrowed i j o c e ho hj hc he).trans (ih he hd)

/-- Contexts are lawful after any steps. -/
theorem lawful_of_run? (h : run? {} steps = some s) : Lawful steps s :=
  have hs := sound_of_run? h
  { length_eq := hs.length_eq
    isCancelled_iff := fun _ _ hc => hs.isCancelled_iff hc
    notBelow := fun _ _ hp => not_below_of_hasParentToken hs.ordered hp
    clone := hs.clone
    notLater := fun _ _ _ _ h hc hd => hs.notLater h hc hd
    check?_eq_cancelled_iff := fun _ _ => Context.check?_eq_cancelled_iff
    check?_eq_deadlineExceeded_iff := fun _ _ => Context.check?_eq_deadlineExceeded_iff
    check?_eq_none_iff := fun _ _ => Context.check?_eq_none_iff
    fails := fun i c hc hfails more s' hmore => by
      have hcont := continues_of_run? hmore
      have hlt := (List.getElem?_eq_some_iff.mp hc).1
      exact ⟨(List.prefix_iff_getElem?.mp hcont.made i hlt).trans
        ((List.getElem?_eq_getElem hlt).symm.trans hc), hcont.check?_ne_none hfails⟩ }

/-- A tightened clone is cancelled: so are its original and a child that is made of that afterwards,
but neither the context from which the original was derived nor its other child, of which a clone
has its deadline behind it. -/
theorem lawful_of_run?_tightened_clone : ∃ s,
    run? {} [.withTimeout 500, .child 0, .child 0, .timeout 2 100, .cancel 3, .child 2,
      .timeout 1 200, .pass 300] = some s ∧
    Lawful [.withTimeout 500, .child 0, .child 0, .timeout 2 100, .cancel 3, .child 2,
      .timeout 1 200, .pass 300] s ∧
    s.made.map (·.check? s.moment) =
      [none, none, some .cancelled, some .cancelled, some .cancelled, some .deadlineExceeded] :=
  ⟨⟨[⟨some 500, ⟨0, []⟩⟩, ⟨some 500, ⟨1, [0]⟩⟩, ⟨some 500, ⟨2, [0]⟩⟩, ⟨some 100, ⟨2, [0]⟩⟩,
      ⟨some 500, ⟨3, [2, 0]⟩⟩, ⟨some 200, ⟨1, [0]⟩⟩], ⟨300, ⟨4, [2]⟩⟩⟩,
    by decide, lawful_of_run? (by decide), by decide⟩

end Contexts
end QueryGateway
