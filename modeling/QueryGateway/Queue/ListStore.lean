import QueryGateway.Bytes
import QueryGateway.Keyed

/-!
# A store of lists

A server keeps lists by key.  Its commands add to a list, take from one, and move an element from one
list to another; a pair of commands can be run as one.  A key without list stands for an empty one.

## Main definitions

* `ListStore` — lists by key; `ListStore.get`.
* `ListCommand`, `ListStore.run` — the commands and what they do.
-/

namespace QueryGateway

/-- Lists by key, the head first. -/
abbrev ListStore := Keyed (List Bytes)

/-- An end of a list. -/
inductive Side
  | left
  | right
  deriving DecidableEq, Repr

/-- The commands of the server. -/
inductive ListCommand
  /-- Adds an element at the head. -/
  | push (key : String) (element : Bytes)
  /-- Removes the first element that equals the given one. -/
  | remove (key : String) (element : Bytes)
  /-- Moves an element from an end of a list to an end of another; `waits` for one to come. -/
  | move (waits : Bool) (source target : String) (takeAt putAt : Side)
  /-- Removes an element from one list and adds one to another in a single step. -/
  | replace (source : String) (old : Bytes) (target : String) (new : Bytes)
  deriving DecidableEq, Repr

/-- The name of a command on the wire. -/
def ListCommand.name : ListCommand → String
  | .push .. => "LPUSH"
  | .remove .. => "LREM"
  | .move waits .. => if waits then "BLMOVE" else "LMOVE"
  | .replace .. => "EXEC"

/-- An element and the list without it. -/
def Side.take? : Side → List Bytes → Option (Bytes × List Bytes)
  | .left, [] => none
  | .left, x :: rest => some (x, rest)
  | .right, list => list.getLast?.map fun x => (x, list.dropLast)

/-- The list with an element added. -/
def Side.put (x : Bytes) : Side → List Bytes → List Bytes
  | .left, list => x :: list
  | .right, list => list ++ [x]

namespace ListStore

/-- The list of a key. -/
def get (store : ListStore) (key : String) : List Bytes := (Keyed.find? key store).getD []

/-- The store with another list for a key. -/
def set (store : ListStore) (key : String) (list : List Bytes) : ListStore :=
  Keyed.insert key list store

/-- Adds an element at the head of a list. -/
def push (store : ListStore) (key : String) (x : Bytes) : ListStore :=
  store.set key (x :: store.get key)

/-- Removes the first element of a list that equals the given one. -/
def remove (store : ListStore) (key : String) (x : Bytes) : ListStore :=
  store.set key ((store.get key).erase x)

/-- Runs a command: the element that was moved, and the store. -/
def run (store : ListStore) : ListCommand → Option Bytes × ListStore
  | .push key x => (none, store.push key x)
  | .remove key x => (none, store.remove key x)
  | .move _ source target takeAt putAt =>
    match takeAt.take? (store.get source) with
    | none => (none, store)
    | some (x, rest) =>
      let store := store.set source rest
      (some x, store.set target (putAt.put x (store.get target)))
  | .replace source old target new => (none, (store.remove source old).push target new)

end ListStore

end QueryGateway
