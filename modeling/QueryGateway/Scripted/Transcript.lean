import QueryGateway.Scripted.Gateway
import QueryGateway.Scripted.Script
import QueryGateway.Text.Split

/-!
# Transcripts

What a gateway on trial answers is written down so that two trials can be compared: ids of jobs
become numbers in the order in which they were first seen, and readings of the clock and durations
become a mark.

## Main definitions

* `Transcript` — the ids that were seen.
* `Transcript.write` — an answer as it is written down.
* `Transcript.read`, `Transcript.readTarget` — an id, or a path with ids, as it was given.
-/

namespace QueryGateway

open Json

/-- The ids that were seen, the first one first. -/
abbrev Transcript := List String

namespace Transcript

/-- The first reading of the clock of a gateway on trial. -/
def start : Instant := ⟨1782864000, 987650000⟩

/-- Whether a text is a reading of the clock. -/
def isReading (text : String) : Bool := "2026-07-01T00:00:00.98765".isPrefixOf text

/-- The number of an id that was seen, as it is written down. -/
def write? (t : Transcript) (id : String) : Option String :=
  (List.idxOf? id t).map fun i => "job-" ++ toString (i + 1)

/-- A text as it is written down: the first `issued` ids of jobs are replaced. -/
def writeText (issued : Nat) (t : Transcript) (text : String) : String × Transcript :=
  if isReading text then ("<now>", t)
  else if (List.range issued).any fun k => ScriptedGateway.jobId k = text then
    let t := if t.contains text then t else t ++ [text]
    ((t.write? text).getD text, t)
  else (text, t)

mutual

/-- An answer as it is written down. -/
def write (issued : Nat) (t : Transcript) : Value → Value × Transcript
  | .string text =>
    let (text, t) := writeText issued t text
    (.string text, t)
  | .array items =>
    let (items, t) := writeItems issued t items
    (.array items, t)
  | .object members =>
    let (members, t) := writeMembers issued t members
    (.object members, t)
  | v => (v, t)

/-- The items of an array as they are written down. -/
def writeItems (issued : Nat) (t : Transcript) : List Value → List Value × Transcript
  | [] => ([], t)
  | item :: rest =>
    let (item, t) := write issued t item
    let (rest, t) := writeItems issued t rest
    (item :: rest, t)

/-- The members of an object as they are written down. -/
def writeMembers (issued : Nat) (t : Transcript) :
    List (String × Value) → List (String × Value) × Transcript
  | [] => ([], t)
  | (key, v) :: rest =>
    let (v, t) := write issued t v
    let (rest, t) := writeMembers issued t rest
    ((key, v) :: rest, t)

end

/-- The members that hold a measured duration. -/
def durations : List String := ["tookMs", "latencyMs", "avgLatencyMs", "p95LatencyMs"]

mutual

/-- An answer with its durations replaced; rows are left alone. -/
def untimed : Value → Value
  | .array items => .array (untimedItems items)
  | .object members => .object (untimedMembers members)
  | v => v

/-- Items with their durations replaced. -/
def untimedItems : List Value → List Value
  | [] => []
  | item :: rest => untimed item :: untimedItems rest

/-- Members with their durations replaced. -/
def untimedMembers : List (String × Value) → List (String × Value)
  | [] => []
  | (key, v) :: rest =>
    let v' := match durations.contains key, v with
      | true, .number _ => .string "<ms>"
      | _, v => if key = "data" then v else untimed v
    (key, v') :: untimedMembers rest

end

/-- The id that a number stands for; any other text stands for itself. -/
def read (t : Transcript) (text : String) : String :=
  if "job-".isPrefixOf text then
    match (String.ofList (text.toList.drop 4)).toNat? with
    | some (k + 1) => t[k]?.getD text
    | _ => text
  else text

/-- The target of a request with the ids that its path names by number. -/
def readTarget (t : Transcript) (target : String) : String :=
  match Text.split '?' target with
  | [] => target
  | path :: query => "?".intercalate ("/".intercalate ((Text.split '/' path).map t.read) :: query)

end Transcript

end QueryGateway
