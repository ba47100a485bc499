import QueryGateway.Gateway.Command

/-!
# The command line

`serve` and `worker` read the configuration and set the gateway up.  Without a network nothing can be
reached or bound, so a command ends with the first thing that it needs from outside.
-/

namespace QueryGateway

/-- What is asked for on the command line. -/
structure Invocation where
  command : Command
  /-- The path of the configuration. -/
  config : Option String := none
  deriving DecidableEq, Repr

namespace Invocation

/-- Reads the options after a command. -/
def options (i : Invocation) : List String → Option Invocation
  | [] => some i
  | "--config" :: path :: rest => options { i with config := some path } rest
  | "--address" :: address :: rest =>
    match i.command with
    | .serve _ => options { i with command := .serve address } rest
    | .worker => none
  | "--no-worker" :: rest =>
    match i.command with
    | .serve _ => options i rest
    | .worker => none
  | _ => none

/-- Reads a command line. -/
def ofArguments? : List String → Option Invocation
  | "serve" :: rest => options { command := .serve defaultAddress } rest
  | "worker" :: rest => options { command := .worker } rest
  | _ => none

end Invocation

end QueryGateway

open QueryGateway in
/-- Carries the command line out. -/
def main (arguments : List String) : IO UInt32 := do
  match Invocation.ofArguments? arguments with
  | none =>
    IO.eprintln "usage: serve [--address ADDRESS] [--config FILE] [--no-worker] | worker [--config FILE]"
    return 2
  | some i =>
    let file ← i.config.mapM fun (path : String) => do
      let text ← try some <$> IO.FS.readFile path catch _ => pure none
      return { path, text : ConfigFile }
    match i.command.start file .unreachable fun _ => false with
    | .error e =>
      IO.eprintln ("Error: " ++ e.message)
      return 1
    | .ok _ => return 0
