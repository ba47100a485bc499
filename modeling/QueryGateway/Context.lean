import QueryGateway.QueryError

/-!
# Deadlines and cancellation

Work is done under a context: a deadline, if there is one, and a token by which it can be cancelled.
Tokens form a tree, and cancelling a token cancels what descends from it.  Every wait that may be
long is cut short when the deadline passes or the token is cancelled.

Times are in milliseconds from the start of the process.

## Main definitions

* `Token`, `Tokens` — tokens, and which of them were cancelled.
* `Moment` — the time and the tokens: all that a context is judged by.
* `Context` — a deadline and a token; `Context.timeout` and `Context.child` derive others.
* `Context.check?`, `Context.wait` — whether work may go on.
-/

namespace QueryGateway

/-- A token, with the tokens that it descends from. -/
structure Token where
  serial : Nat
  ancestors : List Nat := []
  deriving DecidableEq, Repr

/-- The tokens of the process. -/
structure Tokens where
  /-- How many tokens were made. -/
  issued : Nat := 0
  /-- The tokens that `cancel` was called on. -/
  cancelled : List Nat := []
  deriving DecidableEq, Repr

namespace Tokens

/-- A new token without ancestors. -/
def fresh (ts : Tokens) : Token × Tokens :=
  ({ serial := ts.issued }, { ts with issued := ts.issued + 1 })

/-- A new token that descends from another. -/
def child (ts : Tokens) (parent : Token) : Token × Tokens :=
  ({ serial := ts.issued, ancestors := parent.serial :: parent.ancestors },
    { ts with issued := ts.issued + 1 })

/-- Cancels a token. -/
def cancel (ts : Tokens) (t : Token) : Tokens :=
  { ts with cancelled := t.serial :: ts.cancelled }

/-- Whether a token or one that it descends from was cancelled. -/
def isCancelled (ts : Tokens) (t : Token) : Bool :=
  (t.serial :: t.ancestors).any ts.cancelled.contains

end Tokens

/-- A moment of the process. -/
structure Moment where
  now : Nat := 0
  tokens : Tokens := {}
  deriving DecidableEq, Repr

/-- The moment so many milliseconds later. -/
def Moment.later (m : Moment) (ms : Nat) : Moment := { m with now := m.now + ms }

/-- What work is done under. -/
structure Context where
  deadline : Option Nat := none
  token : Token
  deriving DecidableEq, Repr

namespace Context

/-- A context without deadline and with a token of its own. -/
def fresh (m : Moment) : Context × Moment :=
  let (token, tokens) := m.tokens.fresh
  ({ token }, { m with tokens })

/-- The context with a deadline so many milliseconds from now, unless it has an earlier one. -/
def timeout (c : Context) (m : Moment) (ms : Nat) : Context :=
  let candidate := m.now + ms
  { c with deadline := some (match c.deadline with
    | some existing => if existing < candidate then existing else candidate
    | none => candidate) }

/-- A context with the same deadline whose token descends from this one's. -/
def child (c : Context) (m : Moment) : Context × Moment :=
  let (token, tokens) := m.tokens.child c.token
  ({ c with token }, { m with tokens })

/-- A context without deadline whose token descends from this one's. -/
def follower (c : Context) (m : Moment) : Context × Moment :=
  let (token, tokens) := m.tokens.child c.token
  ({ token }, { m with tokens })

/-- Cancels the token of a context. -/
def cancel (c : Context) (m : Moment) : Moment := { m with tokens := m.tokens.cancel c.token }

/-- The time until the deadline. -/
def remaining? (c : Context) (m : Moment) : Option Nat := c.deadline.map (· - m.now)

/-- Whether the context is cancelled. -/
def isCancelled (c : Context) (m : Moment) : Bool := m.tokens.isCancelled c.token

/-- Why work under the context may not go on.  That it is cancelled counts more than that its
deadline is over. -/
def check? (c : Context) (m : Moment) : Option Interruption :=
  if c.isCancelled m then some .cancelled
  else if c.remaining? m = some 0 then some .deadlineExceeded
  else none

/-- Waits for so many milliseconds: why the wait was cut short, if it was, and when it was over. -/
def wait (c : Context) (m : Moment) (ms : Nat) : Option Interruption × Moment :=
  match c.check? m with
  | some reason => (some reason, m)
  | none =>
    match c.remaining? m with
    | some left => if left < ms then (some .deadlineExceeded, m.later left) else (none, m.later ms)
    | none => (none, m.later ms)

end Context

end QueryGateway
