import QueryGateway.Keyed

/-!
# Connectors

A connector is an open line to the database of one data source.  The gateway keeps one in use for
each source and opens another when that one has closed.

## Main definitions

* `Connector`, `Connectors` — the connectors that were ever opened, and those in use.
* `Connectors.inUse?`, `Connectors.adopt`, `Connectors.evict` — the connectors in use.
-/

namespace QueryGateway

/-- The number of a connector, counted from one. -/
abbrev ConnectorId := Nat

/-- A connector. -/
structure Connector where
  /-- The name of its data source. -/
  source : String
  isClosed : Bool := false
  deriving DecidableEq, Repr

/-- The connectors of the gateway. -/
structure Connectors where
  /-- The connectors in the order in which they were opened. -/
  opened : List Connector := []
  /-- The connectors in use, by the name of their data source. -/
  cache : Keyed ConnectorId := []
  deriving DecidableEq, Repr

namespace Connectors

/-- The connector with a number. -/
def get? (cs : Connectors) (c : ConnectorId) : Option Connector :=
  if c = 0 then none else cs.opened[c - 1]?

/-- Whether a connector is there and not closed. -/
def isOpen (cs : Connectors) (c : ConnectorId) : Bool :=
  match cs.get? c with
  | some connector => !connector.isClosed
  | none => false

/-- The open connector in use for a data source. -/
def inUse? (cs : Connectors) (name : String) : Option ConnectorId :=
  (Keyed.find? name cs.cache).filter cs.isOpen

/-- Adds an open connector for a data source. -/
def add (cs : Connectors) (name : String) : ConnectorId × Connectors :=
  (cs.opened.length + 1, { cs with opened := cs.opened ++ [{ source := name }] })

/-- Marks a connector as closed. -/
def close (cs : Connectors) (c : ConnectorId) : Connectors :=
  if c = 0 then cs
  else { cs with opened := cs.opened.modify (c - 1) fun x => { x with isClosed := true } }

/-- Puts a connector in use, unless an open one is, which is the answer. -/
def adopt (cs : Connectors) (name : String) (c : ConnectorId) : Option ConnectorId × Connectors :=
  match cs.inUse? name with
  | some existing => (some existing, cs)
  | none => (none, { cs with cache := Keyed.insert name c cs.cache })

/-- Takes the connector of a data source out of use. -/
def evict (cs : Connectors) (name : String) : Option ConnectorId × Connectors :=
  (Keyed.find? name cs.cache, { cs with cache := Keyed.erase name cs.cache })

/-- Takes every connector out of use; they are given in the order of their numbers. -/
def evictAll (cs : Connectors) : List ConnectorId × Connectors :=
  ((cs.cache.map Prod.snd).mergeSort (· ≤ ·), { cs with cache := [] })

end Connectors

end QueryGateway
