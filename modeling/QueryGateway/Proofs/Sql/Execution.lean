import Mathlib.Data.List.Perm.Basic
import QueryGateway.Proofs.Sql.Command
import QueryGateway.Text.Utf8

/-!
# What commands do

A command is performed on the rows of a table as SQL defines it.  A new row has null in the columns
that the command does not name, a changed row keeps what it had there, and nothing equals null.  A
row without a value where one is required is refused, and so is one whose key is there already.
The rows of a table have no order.

What is known of a server is only this: it accepts a text that is a command whose parameters are
numbered from one without gap, tells their types, and performs the command on values of these types.

## Main definitions

* `Sql.Command.types?` — the types of the parameters of a command.
* `Sql.Command.perform` — what a command gives back, and the rows after it.
* `Sql.Server`, `Sql.Server.Executes` — a server with a table.
* `Sql.Server.plain` — a server that keeps the rows in order.

## Main results

* `Sql.Server.executes_plain` — such a server executes commands.
-/

namespace QueryGateway
namespace Sql

open Postgres JobTable

/-! ### Tables -/

/-- A row of a table: what its columns hold, in their order and in binary form. -/
abbrev Tuple := List (Option Bytes)

/-- The bytes are the binary form of a value of a type.  Texts have no zero bytes; timestamps are of
given numbers of microseconds. -/
def Admits (times : Int → Prop) (bytes : Bytes) : ColumnType → Prop
  | .text => (Utf8.decode? bytes).isSome ∧ 0 ∉ bytes
  | .bigint => bytes.length = 8
  | .timestamptz => ∃ n, Column.int? 8 bytes = some n ∧ times n

namespace TableDefinition

variable (t : TableDefinition)

/-- The names of the columns. -/
def names : List String := t.columns.map ColumnDefinition.name

/-- The type of a column. -/
def type? (column : String) : Option ColumnType :=
  (t.columns.map fun d => (d.name, d.type)).lookup column

/-- The heads of columns in an answer. -/
def heads (columns : List String) : List (String × SqlType) :=
  columns.filterMap fun column => (t.type? column).map fun type => (column, type.sqlType)

/-- What a row has in a column. -/
def cell (column : String) (row : Tuple) : Option Bytes :=
  ((t.names.zip row).lookup column).join

/-- What a row has in some columns. -/
def project (columns : List String) (row : Tuple) : Tuple := columns.map (t.cell · row)

/-- A new row with what is given for its columns. -/
def fill (given : String → Option (Option Bytes)) : Tuple := t.names.map fun c => (given c).join

/-- A row with what is given for its columns in place of what it had. -/
def change (given : String → Option (Option Bytes)) (row : Tuple) : Tuple :=
  (t.names.zip row).map fun (c, old) => (given c).getD old

/-- Whether a row has a value wherever one is required. -/
def isComplete (row : Tuple) : Bool :=
  (t.columns.zip row).all fun (d, cell) => d.isNullable || cell.isSome

/-- Whether two rows have the same key. -/
def sameKey (row other : Tuple) : Bool :=
  t.columns.any fun d => d.isKey && t.cell d.name row == t.cell d.name other

end TableDefinition

/-! ### Commands -/

/-- The value of an operand, given those of the parameters. -/
def Operand.value (values : List (Option Bytes)) : Operand → Option Bytes
  | .parameter n => values[n - 1]?.join
  | .null => none

/-- The number of the parameter that a column is given, with the column. -/
def slot? : String × Operand → Option (Nat × String)
  | (column, .parameter n) => some (n, column)
  | (_, .null) => none

/-- Whether a row has the key; a null is none. -/
def Key.isOf (key : Key) (t : TableDefinition) (values : List (Option Bytes)) (row : Tuple) :
    Bool :=
  match (Operand.parameter key.parameter).value values with
  | some bytes => t.cell key.column row == some bytes
  | none => false

namespace Command

/-- The command fits a table: what it names is there and is named once, and the key of a row is not
changed. -/
def Fits (t : TableDefinition) : Command → Prop
  | .insert table columns operands =>
    table = t.name ∧ columns.Nodup ∧ (∀ c ∈ columns, c ∈ t.names) ∧ operands.length = columns.length
  | .update table changes key returning =>
    table = t.name ∧ (changes.map Prod.fst).Nodup ∧
      (∀ c ∈ changes.map Prod.fst, ∃ d ∈ t.columns, d.name = c ∧ d.isKey = false) ∧
      key.column ∈ t.names ∧ ∀ c ∈ returning, c ∈ t.names
  | .select columns table key =>
    table = t.name ∧ (∀ c ∈ columns, c ∈ t.names) ∧ key.column ∈ t.names

/-- The numbers of the parameters with the columns that they are for. -/
def slots : Command → List (Nat × String)
  | .insert _ columns operands => (columns.zip operands).filterMap slot?
  | .update _ changes key _ =>
    changes.filterMap slot? ++ [(key.parameter, key.column)]
  | .select _ _ key => [(key.parameter, key.column)]

/-- The types of the parameters in the order of their numbers, if these are the numbers from one. -/
def types? (t : TableDefinition) (c : Command) : Option (List ColumnType) :=
  (List.range' 1 c.slots.length).mapM fun n => (c.slots.lookup n).bind t.type?

/-- The heads of the columns that are given back. -/
def heads (t : TableDefinition) : Command → List (String × SqlType)
  | .insert .. => []
  | .update _ _ _ returning => t.heads returning
  | .select columns _ _ => t.heads columns

/-- The code for a row without a value where one is required. -/
def notNullViolation : String := "23502"

/-- The code for a row whose key is there already. -/
def uniqueViolation : String := "23505"

/-- What a command gives back and the rows of the table after it, or why it fails. -/
def perform (t : TableDefinition) (values : List (Option Bytes)) (rows : List Tuple) :
    Command → Except String (List Tuple × List Tuple)
  | .insert _ columns operands =>
    let row := t.fill fun c => ((columns.zip operands).lookup c).map (Operand.value values)
    if !t.isComplete row then .error notNullViolation
    else if rows.any (t.sameKey row) then .error uniqueViolation
    else .ok ([], rows ++ [row])
  | .update _ changes key returning =>
    let changed := t.change fun c => (changes.lookup c).map (Operand.value values)
    let hits := (rows.filter (key.isOf t values)).map changed
    if hits.all t.isComplete then
      .ok (hits.map (t.project returning),
        rows.map fun row => if key.isOf t values row then changed row else row)
    else .error notNullViolation
  | .select columns _ key => .ok ((rows.filter (key.isOf t values)).map (t.project columns), rows)

end Command

theorem lookup_of_nodup {α β : Type} [DecidableEq α] {l : List (α × β)}
    (hl : (l.map Prod.fst).Nodup) {entry : α × β} (h : entry ∈ l) :
    l.lookup entry.1 = some entry.2 := by
  induction l with
  | nil => cases h
  | cons first l ih =>
    obtain ⟨hfirst, hl⟩ := List.nodup_cons.mp hl
    rw [List.lookup_cons]
    rcases List.mem_cons.mp h with rfl | h
    · rw [beq_self_eq_true]
    · have hne : (entry.1 == first.1) = false := by
        refine beq_eq_false_iff_ne.mpr fun he => hfirst (he ▸ List.mem_map_of_mem h)
      rw [hne]
      exact ih hl h

/-- Parameters that are numbered in their order have the types of the columns that they are for. -/
theorem Command.types?_of_numbered {t : TableDefinition} {c : Command}
    (h : c.slots.map Prod.fst = List.range' 1 c.slots.length) :
    c.types? t = (c.slots.map Prod.snd).mapM t.type? := by
  -- the numbers differ, so each is looked up in its own slot
  have hnodup : (c.slots.map Prod.fst).Nodup := h ▸ List.nodup_range'
  have hmapM : ∀ slots ⊆ c.slots,
      (slots.map Prod.fst).mapM (fun n => (c.slots.lookup n).bind t.type?) =
        (slots.map Prod.snd).mapM t.type? := by
    intro slots
    induction slots with
    | nil => intro _; rfl
    | cons slot slots ih =>
      intro hslots
      rw [List.map_cons, List.map_cons, List.mapM_cons, List.mapM_cons,
        lookup_of_nodup hnodup (hslots List.mem_cons_self), Option.bind_some,
        ih fun _ hslot => hslots (List.mem_cons_of_mem _ hslot)]
  unfold types?
  rw [← h]
  exact hmapM c.slots (List.Subset.refl _)

/-! ### Servers -/

/-- A server with a table, in states of some kind. -/
structure Server (σ : Type) where
  /-- The numbers of microseconds from the start of 2000 that its timestamps can have. -/
  times : Int → Prop
  /-- The rows of the table. -/
  rows : σ → List Tuple
  /-- The types of the parameters of a text, or why it is not accepted. -/
  prepare : σ → String → Except ServerError (List SqlType)
  /-- What becomes of a text with the binary forms of its parameters. -/
  execute : σ → String → List (Option Bytes) → Execution × σ

namespace Server

variable {σ : Type}

/-- What a command gives is an answer with its rows in any order, or an error with its code. -/
def Gives (t : TableDefinition) (c : Command) (values : List (Option Bytes)) (rows : List Tuple)
    (execution : Execution) (rows' : List Tuple) : Prop :=
  match c.perform t values rows with
  | .ok (result, after) =>
    (∃ result', execution = .answered ⟨c.heads t, result'⟩ ∧ result'.Perm result) ∧ rows'.Perm after
  | .error code => (∃ e, execution = .failed e ∧ e.code = code) ∧ rows'.Perm rows

/-- The server executes commands on a table as SQL defines them. -/
structure Executes (server : Server σ) (t : TableDefinition) : Prop where
  /-- It accepts a text that is a command. -/
  prepare : ∀ (s : σ) (sql : String) (c : Command) (types : List ColumnType),
    Command.ofText? sql = some c → c.Fits t → c.types? t = some types →
    server.prepare s sql = .ok (types.map ColumnType.sqlType)
  /-- It performs the command on values of the types of its parameters. -/
  execute : ∀ (s : σ) (sql : String) (c : Command) (types : List ColumnType)
    (values : List (Option Bytes)),
    Command.ofText? sql = some c → c.Fits t → c.types? t = some types →
    List.Forall₂ (fun type value => ∀ bytes ∈ value, Admits server.times bytes type) types values →
    Gives t c values (server.rows s) (server.execute s sql values).1
      (server.rows (server.execute s sql values).2)

/-- The error for a text that is not a command. -/
def syntaxError : ServerError := ⟨"42601", "syntax error", none⟩

/-- A server that keeps the rows in order. -/
def plain (t : TableDefinition) : Server (List Tuple) where
  -- from 4714 BC to 294276 AD
  times n := -211813488000000000 ≤ n ∧ n < 9223371331200000000
  rows := id
  prepare _ sql :=
    match (Command.ofText? sql).bind (Command.types? t) with
    | some types => .ok (types.map ColumnType.sqlType)
    | none => .error syntaxError
  execute rows sql values :=
    match Command.ofText? sql with
    | none => (.failed syntaxError, rows)
    | some c =>
      match c.perform t values rows with
      | .ok (result, after) => (.answered ⟨c.heads t, result⟩, after)
      | .error code => (.failed ⟨code, "constraint violated", none⟩, rows)

theorem rows_plain (t : TableDefinition) (rows : List Tuple) : (plain t).rows rows = rows := rfl

/-- A server that keeps the rows in order executes commands. -/
theorem executes_plain (t : TableDefinition) : (plain t).Executes t where
  prepare s sql c types hc _ htypes := by
    simp only [plain, hc, Option.bind_some, htypes]
  execute s sql c types values hc _ _ _ := by
    simp only [Gives, plain, hc, id]
    cases c.perform t values s with
    | ok outcome => exact ⟨⟨outcome.1, rfl, List.Perm.refl _⟩, List.Perm.refl _⟩
    | error code => exact ⟨⟨_, rfl, rfl⟩, List.Perm.refl _⟩

end Server
end Sql
end QueryGateway
