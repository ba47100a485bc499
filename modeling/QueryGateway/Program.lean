/-!
# Programs that call out

A program either has a result or makes a call and goes on with the answer.  Calls are the points at
which it touches something shared, so a program with everything that runs beside it is studied by
choosing, call by call, which program goes next; a program that is cut off is one whose next call is
never answered.

## Main definitions

* `Program` — programs over a type of calls with typed answers.
* `Program.perform` — a single call.
* `Program.run` — a program whose calls are answered in a monad.
* `Program.embed` — a program over fewer calls as one over more.
-/

namespace QueryGateway

/-- A program over calls `C`, the answer to `c` being of type `A c`. -/
inductive Program (C : Type) (A : C → Type) (α : Type) : Type
  /-- The program is over. -/
  | done (result : α)
  /-- The program waits for the answer to a call. -/
  | call (c : C) (next : A c → Program C A α)

namespace Program

variable {C : Type} {A : C → Type} {α β : Type}

/-- Goes on with a second program when the first is over. -/
def bind (p : Program C A α) (f : α → Program C A β) : Program C A β :=
  match p with
  | done result => f result
  | call c next => call c fun answer => (next answer).bind f

instance : Monad (Program C A) where
  pure := done
  bind := bind

/-- A single call. -/
def perform (c : C) : Program C A (A c) := call c done

/-- Answers the calls of a program in a monad. -/
def run {m : Type → Type} [Monad m] (handler : (c : C) → m (A c)) : Program C A α → m α
  | done result => pure result
  | call c next => do run handler (next (← handler c))

/-- The same program over other calls: `f` names a call of the new kind for each, and `g` reads its
answer. -/
def embed {D : Type} {B : D → Type} (f : C → D) (g : (c : C) → B (f c) → A c) :
    Program C A α → Program D B α
  | done result => done result
  | call c next => call (f c) fun answer => (next (g c answer)).embed f g

@[simp] theorem pure_eq_done (result : α) : (pure result : Program C A α) = done result := rfl

@[simp] theorem done_bind (result : α) (f : α → Program C A β) : done result >>= f = f result := rfl

@[simp] theorem call_bind (c : C) (next : A c → Program C A α) (f : α → Program C A β) :
    call c next >>= f = call c fun answer => next answer >>= f := rfl

@[simp] theorem perform_bind (c : C) (f : A c → Program C A β) : perform c >>= f = call c f := rfl

@[simp] theorem run_done {m : Type → Type} [Monad m] (handler : (c : C) → m (A c)) (result : α) :
    run handler (done result : Program C A α) = pure result := rfl

@[simp] theorem run_call {m : Type → Type} [Monad m] (handler : (c : C) → m (A c)) (c : C)
    (next : A c → Program C A α) :
    run handler (call c next) = handler c >>= fun answer => run handler (next answer) := rfl

/-- Running two programs in turn is running the first and then the second. -/
theorem run_bind {m : Type → Type} [Monad m] [LawfulMonad m] (handler : (c : C) → m (A c))
    (p : Program C A α) (f : α → Program C A β) :
    run handler (p >>= f) = run handler p >>= fun result => run handler (f result) := by
  induction p with
  | done result => simp
  | call c next ih => simp [ih]

end Program

end QueryGateway
