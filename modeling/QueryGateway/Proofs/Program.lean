import QueryGateway.Program

/-!
# Finished runs of programs

A finished run of a program is the list of its calls with the answers that they got, and the result.
What holds of every run, whatever the answers, holds wherever the program runs.

## Main definitions

* `Program.Trace` — the finished runs of a program.
* `Program.Served` — calls answered in turn by something that they change.

## Main results

* `Program.trace_bind` — a run of two programs in turn is a run of each.
* `Program.served_append` — serving some calls and then others.
-/

namespace QueryGateway
namespace Program

variable {C : Type} {A : C → Type} {α β : Type}

/-- The program makes these calls in turn, gets these answers and has this result. -/
inductive Trace : Program C A α → List ((c : C) × A c) → α → Prop
  | done (result : α) : Trace (done result) [] result
  | call {c : C} {next : A c → Program C A α} {answer : A c} {events : List ((c : C) × A c)}
      {result : α} (h : Trace (next answer) events result) :
      Trace (call c next) (⟨c, answer⟩ :: events) result

@[simp] theorem trace_done {result result' : α} {events : List ((c : C) × A c)} :
    Trace (done result) events result' ↔ events = [] ∧ result = result' := by
  constructor
  · intro h
    cases h
    exact ⟨rfl, rfl⟩
  · rintro ⟨rfl, rfl⟩
    exact .done result

@[simp] theorem trace_call {c : C} {next : A c → Program C A α} {events : List ((c : C) × A c)}
    {result : α} : Trace (call c next) events result ↔
      ∃ answer rest, events = ⟨c, answer⟩ :: rest ∧ Trace (next answer) rest result := by
  constructor
  · intro h
    cases h with
    | call h => exact ⟨_, _, rfl, h⟩
  · rintro ⟨answer, rest, rfl, h⟩
    exact .call h

/-- A run that begins with a call goes on with its answer. -/
theorem trace_perform_bind {c : C} {f : A c → Program C A α} {events : List ((c : C) × A c)}
    {result : α} : Trace (perform c >>= f) events result ↔
      ∃ answer rest, events = ⟨c, answer⟩ :: rest ∧ Trace (f answer) rest result := by
  rw [perform_bind, trace_call]

/-- A run of two programs in turn is a run of the first and then one of the second. -/
theorem trace_bind {p : Program C A α} {f : α → Program C A β} {events : List ((c : C) × A c)}
    {result : β} : Trace (p >>= f) events result ↔
      ∃ first second middle, events = first ++ second ∧ Trace p first middle ∧
        Trace (f middle) second result := by
  induction p generalizing events with
  | done middle =>
    rw [done_bind]
    simp only [trace_done]
    constructor
    · intro h
      exact ⟨[], events, middle, rfl, ⟨rfl, rfl⟩, h⟩
    · rintro ⟨_, second, _, rfl, ⟨rfl, rfl⟩, h⟩
      exact h
  | call c next ih =>
    rw [call_bind]
    simp only [trace_call]
    constructor
    · rintro ⟨answer, rest, rfl, h⟩
      obtain ⟨first, second, middle, rfl, hfirst, hsecond⟩ := (ih answer).mp h
      exact ⟨_, second, middle, rfl, ⟨answer, first, rfl, hfirst⟩, hsecond⟩
    · rintro ⟨_, second, middle, rfl, ⟨answer, first, rfl, hfirst⟩, hsecond⟩
      exact ⟨answer, first ++ second, rfl, (ih answer).mpr ⟨first, second, middle, rfl, hfirst,
        hsecond⟩⟩

/-- Three programs in turn. -/
theorem bind_assoc {γ : Type} (p : Program C A α) (f : α → Program C A β)
    (g : β → Program C A γ) : p >>= f >>= g = p >>= fun middle => f middle >>= g := by
  induction p with
  | done result => simp only [done_bind]
  | call c next ih => simp only [call_bind, ih]

/-! ### Calls and what they change -/

/-- The calls of a run get these answers in turn from something that they change: `serves` tells
which answers a call may get, and what is changed. -/
inductive Served {W : Type} (serves : W → (c : C) → A c → W → Prop) :
    W → List ((c : C) × A c) → W → Prop
  | nil (w : W) : Served serves w [] w
  | cons {w w' w'' : W} {c : C} {answer : A c} {events : List ((c : C) × A c)}
      (h : serves w c answer w') (rest : Served serves w' events w'') :
      Served serves w (⟨c, answer⟩ :: events) w''

section Served

variable {W : Type} {serves : W → (c : C) → A c → W → Prop} {w w' : W}

@[simp] theorem served_nil : Served serves w [] w' ↔ w' = w := by
  constructor
  · intro h
    cases h
    rfl
  · rintro rfl
    exact .nil _

theorem served_cons {c : C} {answer : A c} {events : List ((c : C) × A c)} :
    Served serves w (⟨c, answer⟩ :: events) w' ↔
      ∃ middle, serves w c answer middle ∧ Served serves middle events w' := by
  constructor
  · intro h
    cases h with
    | cons h rest => exact ⟨_, h, rest⟩
  · rintro ⟨middle, h, rest⟩
    exact .cons h rest

theorem served_singleton {c : C} {answer : A c} :
    Served serves w [⟨c, answer⟩] w' ↔ serves w c answer w' := by
  rw [served_cons]
  constructor
  · rintro ⟨middle, h, hend⟩
    exact served_nil.mp hend ▸ h
  · intro h
    exact ⟨w', h, .nil w'⟩

/-- Serving some calls and then others. -/
theorem served_append {first second : List ((c : C) × A c)} :
    Served serves w (first ++ second) w' ↔
      ∃ middle, Served serves w first middle ∧ Served serves middle second w' := by
  induction first generalizing w with
  | nil => simp
  | cons event first ih =>
    obtain ⟨c, answer⟩ := event
    rw [List.cons_append]
    simp only [served_cons, ih]
    constructor
    · rintro ⟨next, h, middle, hfirst, hsecond⟩
      exact ⟨middle, ⟨next, h, hfirst⟩, hsecond⟩
    · rintro ⟨middle, ⟨next, h, hfirst⟩, hsecond⟩
      exact ⟨next, h, middle, hfirst, hsecond⟩

end Served

end Program
end QueryGateway
