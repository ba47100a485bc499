import QueryGateway.Bytes

/-!
# Deliveries

A queue hands out a message with the number of the attempt, which starts at one, and expects to be
told what became of it.

## Main definitions

* `Disposition` — what becomes of a delivery.
* `QueueError` — why a queue failed; `QueueError.message` is the wording.
* `Delivery` — a message with its attempt.
-/

namespace QueryGateway

/-- What becomes of a delivery. -/
inductive Disposition
  /-- It is done. -/
  | ack
  /-- It is delivered again. -/
  | requeue
  /-- It is put aside as a dead letter. -/
  | reject
  deriving DecidableEq, Repr

namespace Disposition

/-- The name of a disposition. -/
def text : Disposition → String
  | .ack => "ack"
  | .requeue => "requeue"
  | .reject => "reject"

/-- The disposition with a name. -/
def ofText? : String → Option Disposition
  | "ack" => some .ack
  | "requeue" => some .requeue
  | "reject" => some .reject
  | _ => none

/-- The disposition of a delivery that is refused, to be tried again or not. -/
def refused (again : Bool) : Disposition := if again then .requeue else .reject

@[simp] theorem ofText?_text (d : Disposition) : ofText? d.text = some d := by cases d <;> rfl

end Disposition

/-- Why a queue failed. -/
inductive QueueError
  | publish (reason : String)
  | receive (reason : String)
  | settle (reason : String)
  | closed
  | invalidData (reason : String)
  deriving DecidableEq, Repr

/-- The wording of an error. -/
def QueueError.message : QueueError → String
  | .publish reason => "Failed to publish message: " ++ reason
  | .receive reason => "Failed to receive message: " ++ reason
  | .settle reason => "Failed to settle message: " ++ reason
  | .closed => "Queue channel closed"
  | .invalidData reason => "Invalid message data: " ++ reason

/-- A message with its attempt. -/
structure Delivery where
  body : Bytes
  attempt : UInt32
  deriving DecidableEq, Repr

namespace Delivery

/-- A delivery; the first attempt is number one, whatever the transport says. -/
def make (body : Bytes) (attempt : UInt32) : Delivery :=
  ⟨body, if attempt = 0 then 1 else attempt⟩

/-- A delivery shown for diagnosis, without its body. -/
def debug (d : Delivery) : String :=
  "Delivery \x7b bytes: " ++ toString d.body.length ++ ", attempt: " ++ toString d.attempt ++ " \x7d"

end Delivery

end QueryGateway
