import QueryGateway.Program
import QueryGateway.QueryError
import QueryGateway.Service.Connectors
import QueryGateway.Source

/-!
# Finding a connector

A query uses the connector that is in use for its data source.  If there is none, it opens one; when
another query was faster in the meantime, it closes its own and shares the other.

## Main definitions

* `RegistryCall` — the steps at which other work may come between.
* `Registry.connectorFor`, `Registry.remove`, `Registry.closeAll` — the programs.
-/

namespace QueryGateway

/-- The steps of working with connectors. -/
inductive RegistryCall
  /-- The open connector in use for a data source. -/
  | inUse (name : String)
  /-- Whether data sources of a kind can be connected. -/
  | supports (kind : String)
  /-- Opens a connector. -/
  | connect (source : Source)
  /-- Puts a connector in use, unless an open one is, which is the answer. -/
  | adopt (name : String) (c : ConnectorId)
  | close (c : ConnectorId)
  /-- Takes the connector of a data source out of use. -/
  | evict (name : String)
  /-- Takes every connector out of use. -/
  | evictAll
  deriving DecidableEq

/-- The answers to the steps. -/
abbrev RegistryCall.Answer : RegistryCall → Type
  | .inUse _ => Option ConnectorId
  | .supports _ => Bool
  | .connect _ => Except QueryError ConnectorId
  | .adopt _ _ => Option ConnectorId
  | .close _ => Except QueryError Unit
  | .evict _ => Option ConnectorId
  | .evictAll => List ConnectorId

/-- Programs that work with connectors. -/
abbrev RegistryProgram := Program RegistryCall RegistryCall.Answer

/-- A single step. -/
abbrev RegistryCall.perform (c : RegistryCall) : RegistryProgram c.Answer := Program.perform c

namespace Registry

open RegistryCall (perform)

/-- The connector for a data source, opened if none is in use. -/
def connectorFor (source : Source) : RegistryProgram (Except QueryError ConnectorId) := do
  match ← perform (.inUse source.name) with
  | some c => return .ok c
  | none =>
    if ← perform (.supports source.kind) then
      match ← perform (.connect source) with
      | .error e => return .error e
      | .ok c =>
        match ← perform (.adopt source.name c) with
        | none => return .ok c
        | some existing =>
          -- Another query was faster; whether closing succeeds does not matter here.
          let _ ← perform (.close c)
          return .ok existing
    else return .error (.unsupportedType source.kind)

/-- Takes the connector of a data source out of use and closes it. -/
def remove (name : String) : RegistryProgram (Except QueryError Unit) := do
  match ← perform (.evict name) with
  | some c => perform (.close c)
  | none => return .ok ()

/-- Closes connectors in turn, whatever each reports. -/
def closeEach : List ConnectorId → RegistryProgram Unit
  | [] => return ()
  | c :: rest => do
    let _ ← perform (.close c)
    closeEach rest

/-- Takes every connector out of use and closes it. -/
def closeAll : RegistryProgram Unit := do closeEach (← perform .evictAll)

end Registry

end QueryGateway
