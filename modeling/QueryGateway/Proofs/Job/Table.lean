import QueryGateway.Proofs.Job.History
import QueryGateway.Proofs.Postgres.Binary
import QueryGateway.Proofs.Sql.Execution

/-!
# The statements on the table of jobs

Each statement is read as a command on the table that is created, whichever job it adds or change it
makes.  Its parameters are numbered from one in order, and each is sent as a value of the type of
the column that it is for.  The row of a job has its twelve fields in the columns of their names:
adding it stores the row, a change turns it into the row of the changed job, and from it the job is
read back.

A text can be sent that has no zero character, a whole number always, and an instant whose number of
microseconds is one that timestamps can have.  It is only for reading back that instants must be
whole.

## Main definitions

* `Job.Storable`, `JobUpdate.Storable` — jobs and changes whose texts and times can be kept.
* `JobTable.definition` — the table.
* `JobTable.insertCommand`, `JobTable.selectCommand`, `JobTable.updateCommand` — the commands.
* `JobTable.changeOf` — what a change gives to a column, if anything.
* `JobTable.Stands` — an operand stands for what a column is given.
* `JobTable.tuple` — the row of a job.

## Main results

* `JobTable.ofText?_createTable` — the table is the one that is created.
* `JobTable.ofText?_insert`, `JobTable.ofText?_select`, `JobTable.ofText?_update` — the statements
  are the commands.
* `JobTable.stands_operands` — the assignments of a change stand for what it gives its columns.
* `JobTable.readJob_tuple` — a job is read back from its row.
* `JobTable.perform_insert`, `JobTable.perform_select`, `JobTable.perform_update` — what the
  commands do to rows of jobs.
-/

namespace QueryGateway

/-- The texts of the job have no zero character, and its times can be held. -/
structure Job.Storable (held : Instant → Prop) (job : Job) : Prop where
  id : '\x00' ∉ job.id.toList
  payloadHash : '\x00' ∉ job.payloadHash.toList
  apiKey : ∀ s ∈ job.apiKey, '\x00' ∉ s.toList
  dataSource : '\x00' ∉ job.dataSource.toList
  table : '\x00' ∉ job.table.toList
  error : ∀ s ∈ job.error, '\x00' ∉ s.toList
  createdAt : held job.createdAt
  startedAt : ∀ t ∈ job.startedAt, held t
  finishedAt : ∀ t ∈ job.finishedAt, held t

/-- The texts that the change sets have no zero character, and the times can be held. -/
structure JobUpdate.Storable (held : Instant → Prop) (u : JobUpdate) : Prop where
  error : ∀ s, u.error = .set s → '\x00' ∉ s.toList
  startedAt : ∀ t, u.startedAt = .set t → held t
  finishedAt : ∀ t, u.finishedAt = .set t → held t

theorem Job.Storable.imp {held held' : Instant → Prop} {job : Job} (h : job.Storable held)
    (himp : ∀ t, held t → held' t) : job.Storable held' where
  id := h.id
  payloadHash := h.payloadHash
  apiKey := h.apiKey
  dataSource := h.dataSource
  table := h.table
  error := h.error
  createdAt := himp _ h.createdAt
  startedAt := fun t ht => himp t (h.startedAt t ht)
  finishedAt := fun t ht => himp t (h.finishedAt t ht)

theorem JobStatus.zero_not_mem_text (status : JobStatus) : '\x00' ∉ status.text.toList := by
  cases status <;> decide

/-- What holds of a field and of what it is set to holds after the change. -/
theorem Patch.forall_mem_apply {α : Type} {p : α → Prop} {patch : Patch α} {field : Option α}
    (hfield : ∀ a ∈ field, p a) (hset : ∀ a, patch = .set a → p a) :
    ∀ a ∈ patch.apply field, p a := by
  cases patch with
  | keep => exact hfield
  | clear => exact nofun
  | set value =>
    rintro a ⟨⟩
    exact hset value rfl

theorem JobUpdate.Storable.apply {held : Instant → Prop} {u : JobUpdate} (hu : u.Storable held)
    {job : Job} (h : job.Storable held) : (u.apply job).Storable held where
  id := h.id
  payloadHash := h.payloadHash
  apiKey := h.apiKey
  dataSource := h.dataSource
  table := h.table
  error := Patch.forall_mem_apply h.error hu.error
  createdAt := h.createdAt
  startedAt := Patch.forall_mem_apply h.startedAt hu.startedAt
  finishedAt := Patch.forall_mem_apply h.finishedAt hu.finishedAt

namespace JobTable

open Postgres Sql

variable {times : Int → Prop}

/-! ### The table -/

/-- The table of jobs. -/
def definition : TableDefinition :=
  ⟨"query_jobs",
    [⟨"id", .text, true, false⟩, ⟨"payload_hash", .text, false, false⟩,
      ⟨"api_key", .text, false, true⟩, ⟨"data_source", .text, false, false⟩,
      ⟨"table_name", .text, false, false⟩, ⟨"status", .text, false, false⟩,
      ⟨"row_count", .bigint, false, true⟩, ⟨"took_ms", .bigint, false, true⟩,
      ⟨"error", .text, false, true⟩, ⟨"created_at", .timestamptz, false, false⟩,
      ⟨"started_at", .timestamptz, false, true⟩, ⟨"finished_at", .timestamptz, false, true⟩]⟩

set_option maxRecDepth 10000 in
theorem lexes_createTable : Lexes createTable.toList
    [.word "create", .word "table", .word "if", .word "not", .word "exists", .word "query_jobs",
      .mark '(', .word "id", .word "text", .word "primary", .word "key", .mark ',',
      .word "payload_hash", .word "text", .word "not", .word "null", .mark ',',
      .word "api_key", .word "text", .mark ',',
      .word "data_source", .word "text", .word "not", .word "null", .mark ',',
      .word "table_name", .word "text", .word "not", .word "null", .mark ',',
      .word "status", .word "text", .word "not", .word "null", .mark ',',
      .word "row_count", .word "bigint", .mark ',', .word "took_ms", .word "bigint", .mark ',',
      .word "error", .word "text", .mark ',',
      .word "created_at", .word "timestamptz", .word "not", .word "null", .mark ',',
      .word "started_at", .word "timestamptz", .mark ',', .word "finished_at", .word "timestamptz",
      .mark ')'] := by
  unfold createTable
  simp only [String.toList_append, String.reduceToList]
  rfl

theorem ofText?_createTable : TableDefinition.ofText? createTable = some definition := by
  rw [TableDefinition.ofText?, lexes_createTable]
  rfl

/-! ### The statements as commands -/

/-- The text is a name outside quotes. -/
def IsName (s : String) : Prop := Lexes s.toList [.word s] ∧ s ∉ reserved

theorem IsName.name?_eq {s : String} (h : IsName s) : name? [.word s] = some s := if_neg h.2

theorem isName_of_mem_names {s : String} (h : s ∈ definition.names) : IsName s := by
  have hnames : definition.names = ["id", "payload_hash", "api_key", "data_source", "table_name",
    "status", "row_count", "took_ms", "error", "created_at", "started_at", "finished_at"] := rfl
  rw [hnames] at h
  simp only [List.mem_cons, List.not_mem_nil, or_false] at h
  rcases h with rfl | rfl | rfl | rfl | rfl | rfl | rfl | rfl | rfl | rfl | rfl | rfl <;>
    exact ⟨by simp only [String.reduceToList]; rfl, by decide⟩

theorem lexes_mark (k : Nat) : Lexes (mark k).toList [.placeholder k] := by
  have htext : (mark k).toList = '$' :: Nat.toDigits 10 k := by
    unfold mark
    rw [String.toList_append, Nat.toString_eq_repr, Nat.toList_repr]
    rfl
  rw [htext]
  exact lexes_placeholder k

theorem lexes_intercalate_strings {α : Type} (text : α → String) (ts : α → List Sql.Token)
    (xs : List α) (h : ∀ x ∈ xs, Lexes (text x).toList (ts x)) :
    Lexes (", ".intercalate (xs.map text)).toList ([.mark ','].intercalate (xs.map ts)) := by
  rw [String.toList_intercalate, List.map_map]
  exact lexes_intercalate (fun x => (text x).toList) ts xs h

/-- The tokens of names with commas between them. -/
def nameTokens (names : List String) : List Sql.Token :=
  [.mark ','].intercalate (names.map fun n => [.word n])

theorem lexes_columnList : Lexes columnList.toList (nameTokens definition.names) := by
  have h := lexes_intercalate_strings id (fun n => [.word n]) definition.names fun n hn =>
    (isName_of_mem_names hn).1
  rwa [List.map_id] at h

theorem listOf?_nameTokens : listOf? name? (nameTokens definition.names) = some definition.names :=
  listOf?_intercalate (by decide) (by simp) fun _ hn => (isName_of_mem_names hn).name?_eq

/-- Adding a record as a command. -/
def insertCommand : Command :=
  .insert definition.name definition.names
    ((List.range columns.length).map fun k => .parameter (k + 1))

set_option maxRecDepth 10000 in
theorem ofText?_insert (job : Job) : Command.ofText? (insert job).sql = some insertCommand := by
  have hopen : Lexes "INSERT INTO query_jobs (".toList
      [.word "insert", .word "into", .word "query_jobs", .mark '('] := by
    simp only [String.reduceToList]
    rfl
  have hvalues : Lexes ") VALUES (".toList [.mark ')', .word "values", .mark '('] := by
    simp only [String.reduceToList]
    rfl
  have hclose : Lexes ")".toList [.mark ')'] := by
    simp only [String.reduceToList]
    rfl
  have hmarks := lexes_intercalate_strings (fun k => mark (k + 1)) (fun k => [.placeholder (k + 1)])
    (List.range columns.length) fun k _ => lexes_mark (k + 1)
  have hlexes := hopen.append (lexes_columnList.append (hvalues.append (hmarks.append hclose
    (apart_of_head? (by decide) _)) (apart_of_getLast? (by decide) _))
    (apart_of_head? (by simp; decide) _)) (apart_of_getLast? (by decide) _)
  unfold Command.ofText? insert
  simp only [String.toList_append, List.append_assoc]
  rw [hlexes]
  rfl

/-- Reading a record as a command. -/
def selectCommand : Command := .select definition.names definition.name ⟨"id", 1⟩

theorem ofText?_select (id : String) : Command.ofText? (select id).sql = some selectCommand := by
  have hopen : Lexes "SELECT ".toList [.word "select"] := by
    simp only [String.reduceToList]
    rfl
  have hrest : Lexes " FROM query_jobs WHERE id = $1".toList
      [.word "from", .word "query_jobs", .word "where", .word "id", .mark '=', .placeholder 1] := by
    simp only [String.reduceToList]
    rfl
  have hlexes := hopen.append (lexes_columnList.append hrest (apart_of_head? (by decide) _))
    (apart_of_getLast? (by decide) _)
  unfold Command.ofText? select
  simp only [String.toList_append, List.append_assoc]
  rw [hlexes]
  rfl

/-- The assignments as a command has them, with the parameters numbered after `k` others. -/
def operands : Nat → List Assignment → List (String × Operand)
  | _, [] => []
  | k, ⟨column, none⟩ :: rest => (column, .null) :: operands k rest
  | k, ⟨column, some _⟩ :: rest => (column, .parameter (k + 1)) :: operands (k + 1) rest

/-- The text of an assignment. -/
def changeText : String × Operand → String
  | (column, .null) => column ++ " = NULL"
  | (column, .parameter n) => column ++ " = " ++ mark n

/-- The tokens of an assignment. -/
def changeTokens : String × Operand → List Sql.Token
  | (column, .null) => [.word column, .mark '=', .word "null"]
  | (column, .parameter n) => [.word column, .mark '=', .placeholder n]

theorem assignmentTexts_eq (k : Nat) (changes : List Assignment) :
    assignmentTexts k changes = (operands k changes).map changeText := by
  fun_induction operands k changes with
  | case1 => rfl
  | case2 k column rest ih => rw [assignmentTexts, ih]; rfl
  | case3 k column value rest ih => rw [assignmentTexts, ih]; rfl

theorem map_fst_operands (k : Nat) (changes : List Assignment) :
    (operands k changes).map Prod.fst = changes.map Assignment.column := by
  fun_induction operands k changes with
  | case1 => rfl
  | case2 k column rest ih => rw [List.map_cons, ih]; rfl
  | case3 k column value rest ih => rw [List.map_cons, ih]; rfl

theorem lexes_changeText {change : String × Operand} (h : IsName change.1) :
    Lexes (changeText change).toList (changeTokens change) := by
  obtain ⟨column, operand⟩ := change
  cases operand with
  | null =>
    have hnull : Lexes " = NULL".toList [.mark '=', .word "null"] := by
      simp only [String.reduceToList]
      rfl
    unfold changeText
    rw [String.toList_append]
    exact h.1.append hnull (apart_of_head? (by decide) _)
  | parameter n =>
    have hequals : Lexes " = ".toList [.mark '='] := by
      simp only [String.reduceToList]
      rfl
    unfold changeText
    simp only [String.toList_append, List.append_assoc]
    exact h.1.append (hequals.append (lexes_mark n) (apart_of_getLast? (by decide) _))
      (apart_of_head? (by simp; decide) _)

theorem assignment?_changeTokens {change : String × Operand} (h : IsName change.1) :
    assignment? (changeTokens change) = some change := by
  obtain ⟨column, operand⟩ := change
  cases operand <;> simp [changeTokens, assignment?, h.name?_eq, operand?]

/-- The columns that a change touches, in order. -/
theorem map_column_sublist (u : JobUpdate) :
    ((assignments u).map Assignment.column).Sublist
      ["status", "row_count", "took_ms", "error", "started_at", "finished_at"] := by
  -- a patch touches its own column, or none
  have hpatch : ∀ {α : Type} (column : String) (field : α → Field) (patch : Patch α),
      ((assignment column field patch).map Assignment.column).Sublist [column] := by
    intro α column field patch
    cases patch <;> simp [assignment]
  unfold assignments
  simp only [List.map_cons, List.map_append, List.append_assoc]
  exact .cons_cons _ ((hpatch ..).append ((hpatch ..).append ((hpatch ..).append
    ((hpatch ..).append (hpatch ..)))))

/-- Changing a record as a command: the id is the last parameter. -/
def updateCommand (id : String) (u : JobUpdate) : Command :=
  .update definition.name (operands 0 (assignments u)) ⟨"id", (update id u).params.length⟩
    definition.names

theorem length_params_update (id : String) (u : JobUpdate) :
    (update id u).params.length = ((assignments u).filterMap Assignment.value).length + 1 :=
  List.length_append

theorem isName_of_mem_operands {u : JobUpdate} {k : Nat} {change : String × Operand}
    (h : change ∈ operands k (assignments u)) : IsName change.1 := by
  have hcolumn : change.1 ∈ (assignments u).map Assignment.column := by
    rw [← map_fst_operands k]
    exact List.mem_map_of_mem h
  refine isName_of_mem_names ((List.Sublist.subset ?_) hcolumn)
  exact (map_column_sublist u).trans (by decide)

/-- What stands in a list with commas stands in one of its parts. -/
theorem word_mem_intercalate {w : String} {parts : List (List Sql.Token)}
    (h : .word w ∈ [Sql.Token.mark ','].intercalate parts) : ∃ part ∈ parts, .word w ∈ part := by
  induction parts with
  | nil => simp at h
  | cons part parts ih =>
    cases parts with
    | nil => exact ⟨part, List.mem_cons_self, by simpa using h⟩
    | cons next parts =>
      rw [List.intercalate_cons_cons, List.append_assoc, List.mem_append, List.mem_append] at h
      rcases h with h | h | h
      · exact ⟨part, List.mem_cons_self, h⟩
      · simp at h
      · obtain ⟨found, hfound, hw⟩ := ih h
        exact ⟨found, List.mem_cons_of_mem _ hfound, hw⟩

/-- No clause opens within the assignments. -/
theorem word_not_mem_changes {w : String} (hw : w ∈ reserved) (hnull : w ≠ "null")
    {changes : List (String × Operand)} (hchanges : ∀ change ∈ changes, IsName change.1) :
    .word w ∉ [Sql.Token.mark ','].intercalate (changes.map changeTokens) := by
  intro h
  obtain ⟨part, hpart, hword⟩ := word_mem_intercalate h
  obtain ⟨⟨column, operand⟩, hchange, rfl⟩ := List.mem_map.mp hpart
  have hcolumn : w ≠ column := by
    rintro rfl
    exact (hchanges _ hchange).2 hw
  cases operand <;> simp [changeTokens, hcolumn, hnull] at hword

/-- The tokens of the assignments of a change. -/
def changesTokens (u : JobUpdate) : List Sql.Token :=
  [.mark ','].intercalate ((operands 0 (assignments u)).map changeTokens)

theorem lexes_update (id : String) (u : JobUpdate) : Lexes (update id u).sql.toList
    ([.word "update", .word "query_jobs", .word "set"] ++ (changesTokens u ++
      ([.word "where", .word "id", .mark '='] ++ ([.placeholder (update id u).params.length] ++
        ([.word "returning"] ++ nameTokens definition.names))))) := by
  have hopen : Lexes "UPDATE query_jobs SET ".toList
      [.word "update", .word "query_jobs", .word "set"] := by
    simp only [String.reduceToList]
    rfl
  have hwhere : Lexes " WHERE id = ".toList [.word "where", .word "id", .mark '='] := by
    simp only [String.reduceToList]
    rfl
  have hreturning : Lexes " RETURNING ".toList [.word "returning"] := by
    simp only [String.reduceToList]
    rfl
  have hchanges := lexes_intercalate_strings changeText changeTokens (operands 0 (assignments u))
    fun change h => lexes_changeText (isName_of_mem_operands h)
  rw [length_params_update]
  unfold update
  simp only [String.toList_append, List.append_assoc, assignmentTexts_eq]
  exact hopen.append (hchanges.append (hwhere.append ((lexes_mark _).append
      (hreturning.append lexes_columnList (apart_of_getLast? (by decide) _))
      (apart_of_head? (by simp; decide) _)) (apart_of_getLast? (by decide) _))
    (apart_of_head? (by simp; decide) _)) (apart_of_getLast? (by decide) _)

theorem listOf?_changesTokens (u : JobUpdate) :
    listOf? assignment? (changesTokens u) = some (operands 0 (assignments u)) := by
  refine listOf?_intercalate (List.cons_ne_nil _ _) ?_ fun change h =>
    assignment?_changeTokens (isName_of_mem_operands h)
  rintro ⟨column, operand⟩ -
  cases operand <;> simp [changeTokens]

theorem ofText?_update (id : String) (u : JobUpdate) :
    Command.ofText? (update id u).sql = some (updateCommand id u) := by
  -- the words that open the clauses stand in none of them
  have hkey : ∀ w ∈ ["where", "returning"],
      .word w ∉ [.word "id", .mark '=', Sql.Token.placeholder (update id u).params.length] ∧
        .word w ∉ nameTokens definition.names := by
    simp only [List.forall_mem_cons]
    exact ⟨⟨by simp, by decide⟩, ⟨by simp, by decide⟩, List.forall_mem_nil _⟩
  have hchanges : .word "where" ∉ changesTokens u :=
    word_not_mem_changes (by decide) (by decide) fun _ h => isName_of_mem_operands h
  have htokens := ofTokens?_update (.word "query_jobs") (changesTokens u)
    [.word "id", .mark '=', .placeholder (update id u).params.length] (nameTokens definition.names)
    (by
      obtain ⟨hid, hnames⟩ := hkey "where" (by simp)
      simp only [List.forall_mem_cons]
      exact ⟨hchanges, hid, hnames, List.forall_mem_nil _⟩)
    (by
      obtain ⟨hid, hnames⟩ := hkey "returning" (by simp)
      simp only [List.forall_mem_cons]
      exact ⟨hid, hnames, List.forall_mem_nil _⟩)
  rw [listOf?_changesTokens, listOf?_nameTokens] at htokens
  unfold Command.ofText?
  rw [lexes_update id u]
  exact htokens

/-! ### Parameters -/

namespace Field

/-- The binary form in which a value is sent. -/
def bytes : Field → Option Bytes
  | text s => s.map Utf8.encode
  | bigint n => n.map fun n => .ofInt 8 n.toInt
  | timestamptz t => t.map fun t => .ofInt 8 t.microseconds

/-- The server accepts the value: a text without zero character, any whole number, an instant of
which timestamps can have the microseconds. -/
def Storable (times : Int → Prop) : Field → Prop
  | text s => ∀ x ∈ s, '\x00' ∉ x.toList
  | bigint _ => True
  | timestamptz t => ∀ x ∈ t, x.Accepted times

variable {f : Field}

theorem fits_columnType (f : Field) : f.fits f.columnType.sqlType = true := by
  cases f <;> rfl

/-- What can be held is sent. -/
theorem encode?_parameter (h : f.Storable times) :
    f.parameter.encode? f.columnType.sqlType = some f.bytes := by
  cases f with
  | text s => cases s <;> rfl
  | bigint n => cases n <;> rfl
  | timestamptz t =>
    cases t with
    | none => rfl
    | some x =>
      show (Parameter.fitted? 8 x.microseconds).map some = _
      rw [Instant.fitted?_microseconds (h x rfl).1]
      rfl

/-- What can be held is accepted in a column of its type. -/
theorem admits_bytes (h : f.Storable times) : ∀ b ∈ f.bytes, Admits times b f.columnType := by
  intro b hb
  cases f with
  | text s =>
    obtain ⟨x, hx, rfl⟩ := Option.map_eq_some_iff.mp hb
    have hzero : (0 : UInt8) ∉ Utf8.encode x := fun hzero => h x hx (Utf8.zero_mem_encode hzero)
    exact ⟨by rw [Utf8.decode?_encode]; rfl, hzero⟩
  | bigint n =>
    obtain ⟨x, -, rfl⟩ := Option.map_eq_some_iff.mp hb
    exact Bytes.length_ofInt 8 x.toInt
  | timestamptz t =>
    obtain ⟨x, hx, rfl⟩ := Option.map_eq_some_iff.mp hb
    obtain ⟨hformed, htimes⟩ := h x hx
    exact ⟨_, Column.int?_ofInt (Instant.microseconds_bounds hformed), htimes⟩

end Field

/-- What a patch gives its column is what it sets. -/
theorem forall_mem_assignment {α : Type} {column : String} {field : α → Field} {patch : Patch α}
    {p : String → Field → Prop} (h : ∀ x, patch = .set x → p column (field x)) :
    ∀ a ∈ assignment column field patch, ∀ f ∈ a.value, p a.column f := by
  intro a ha f hf
  cases patch with
  | keep => cases ha
  | clear =>
    obtain rfl := List.mem_singleton.mp ha
    cases hf
  | set value =>
    obtain rfl := List.mem_singleton.mp ha
    obtain rfl := Option.some.inj hf
    exact h value rfl

/-- A change gives its columns the status and what its patches set. -/
theorem forall_mem_assignments (u : JobUpdate) {p : String → Field → Prop}
    (hstatus : p "status" (.text (some u.status.text)))
    (hrows : ∀ n, u.rows = .set n → p "row_count" (.bigint (some n)))
    (htook : ∀ n, u.tookMs = .set n → p "took_ms" (.bigint (some n)))
    (herror : ∀ s, u.error = .set s → p "error" (.text (some s)))
    (hstarted : ∀ t, u.startedAt = .set t → p "started_at" (.timestamptz (some t)))
    (hfinished : ∀ t, u.finishedAt = .set t → p "finished_at" (.timestamptz (some t))) :
    ∀ a ∈ assignments u, ∀ f ∈ a.value, p a.column f := by
  intro a ha
  unfold assignments at ha
  simp only [List.mem_cons, List.mem_append] at ha
  rcases ha with rfl | (((ha | ha) | ha) | ha) | ha
  · rintro f ⟨⟩
    exact hstatus
  · exact forall_mem_assignment hrows a ha
  · exact forall_mem_assignment htook a ha
  · exact forall_mem_assignment herror a ha
  · exact forall_mem_assignment hstarted a ha
  · exact forall_mem_assignment hfinished a ha

/-- The values that a job sends can be held. -/
theorem storable_of_mem_fields {held : Instant → Prop} (hheld : ∀ t, held t → t.Accepted times)
    {job : Job} (h : job.Storable held) : ∀ f ∈ fields job, f.Storable times := by
  unfold fields
  simp only [List.forall_mem_cons, Field.Storable, Option.mem_some_iff, forall_eq']
  exact ⟨h.id, h.payloadHash, h.apiKey, h.dataSource, h.table, job.status.zero_not_mem_text,
    trivial, trivial, h.error, hheld _ h.createdAt, fun t ht => hheld t (h.startedAt t ht),
    fun t ht => hheld t (h.finishedAt t ht), nofun⟩

/-- So can those that a change sends. -/
theorem storable_of_mem_params {held : Instant → Prop} (hheld : ∀ t, held t → t.Accepted times)
    {id : String} {u : JobUpdate} (hid : '\x00' ∉ id.toList) (h : u.Storable held) :
    ∀ f ∈ (update id u).params, f.Storable times := by
  have hvalues := forall_mem_assignments u (p := fun _ f => f.Storable times)
    (by rintro _ ⟨⟩; exact u.status.zero_not_mem_text) (fun _ _ => trivial) (fun _ _ => trivial)
    (by rintro s hs _ ⟨⟩; exact h.error s hs)
    (by rintro t ht _ ⟨⟩; exact hheld t (h.startedAt t ht))
    (by rintro t ht _ ⟨⟩; exact hheld t (h.finishedAt t ht))
  intro f hf
  rcases List.mem_append.mp hf with hf | hf
  · obtain ⟨a, ha, hfa⟩ := List.mem_filterMap.mp hf
    exact hvalues a ha f hfa
  · obtain rfl := List.mem_singleton.mp hf
    rintro _ ⟨⟩
    exact hid

/-- A statement is sent whose values are for columns of the types of its slots. -/
theorem Statement.bound_eq (s : Statement) :
    s.bound (s.params.map fun f => f.columnType.sqlType) =
      .ok (s.params.map fun f => (f.columnType.sqlType, f.parameter)) := by
  have hzip : (s.params.map fun f => f.columnType.sqlType).zip s.params =
      s.params.map fun f => (f.columnType.sqlType, f) := by
    have := List.zip_map' (f := fun f : Field => f.columnType.sqlType) (g := id) (l := s.params)
    rwa [List.map_id] at this
  unfold Statement.bound
  rw [if_neg (by simp), hzip, List.findIdx?_eq_none_iff.mpr]
  · exact congrArg Except.ok List.zip_map'
  · intro entry hentry
    obtain ⟨f, -, rfl⟩ := List.mem_map.mp hentry
    simp [Field.fits_columnType]

/-- The binary forms in which the values of a statement are sent, if they fit its slots. -/
def Statement.sent? (s : Statement) (types : List SqlType) : Option (List (Option Bytes)) :=
  match s.bound types with
  | .ok params => params.mapM fun slot => slot.2.encode? slot.1
  | .error _ => none

/-- Values that can be held are sent. -/
theorem Statement.sent?_eq {s : Statement} (h : ∀ f ∈ s.params, f.Storable times) :
    s.sent? (s.params.map fun f => f.columnType.sqlType) = some (s.params.map Field.bytes) := by
  unfold sent?
  rw [s.bound_eq]
  dsimp only
  generalize s.params = params at h
  induction params with
  | nil => rfl
  | cons f params ih =>
    rw [List.map_cons, List.mapM_cons, Field.encode?_parameter (h f List.mem_cons_self),
      ih fun g hg => h g (List.mem_cons_of_mem f hg)]
    rfl

theorem forall₂_admits {params : List Field} (h : ∀ f ∈ params, f.Storable times) :
    List.Forall₂ (fun type value => ∀ b ∈ value, Admits times b type)
      (params.map Field.columnType) (params.map Field.bytes) := by
  rw [List.forall₂_map_left_iff, List.forall₂_map_right_iff, List.forall₂_same]
  exact fun f hf => Field.admits_bytes (h f hf)

/-! ### The parameters of a change -/

section Numbering

variable {changes : List Assignment}

/-- The parameters of the assignments are numbered in order. -/
theorem map_fst_slots_operands (k : Nat) (changes : List Assignment) :
    ((operands k changes).filterMap slot?).map Prod.fst =
      List.range' (k + 1) (changes.filterMap Assignment.value).length := by
  fun_induction operands k changes with
  | case1 => rfl
  | case2 k column rest ih => exact ih
  | case3 k column value rest ih =>
    simp only [List.filterMap_cons, slot?, List.map_cons, List.length_cons, List.range'_succ]
    rw [ih]

/-- Each has the type of the column that it is for. -/
theorem mapM_type?_slots_operands (k : Nat) {t : TableDefinition}
    (h : ∀ a ∈ changes, ∀ f ∈ a.value, t.type? a.column = some f.columnType) :
    (((operands k changes).filterMap slot?).map Prod.snd).mapM t.type? =
      some ((changes.filterMap Assignment.value).map Field.columnType) := by
  fun_induction operands k changes with
  | case1 => rfl
  | case2 k column rest ih => exact ih fun a ha => h a (List.mem_cons_of_mem _ ha)
  | case3 k column value rest ih =>
    simp only [List.filterMap_cons, slot?, List.map_cons]
    rw [List.mapM_cons, h _ List.mem_cons_self value rfl,
      ih fun a ha => h a (List.mem_cons_of_mem _ ha)]
    rfl

/-- A column and what an assignment gives it. -/
def Assignment.entry (a : Assignment) : String × Option Field := (a.column, a.value)

/-- An operand stands for what a column is given: null, or a parameter that is the value; without
one the column is left out. -/
def Stands (params : List Field) : Option (Option Field) → Option Operand → Prop
  | none, none => True
  | some none, some .null => True
  | some (some f), some (.parameter n) => params[n - 1]? = some f
  | _, _ => False

/-- The assignments stand for what they give a column.  The values before theirs are `b`, of which
there are `k`. -/
theorem stands_operands (k : Nat) {params : List Field} (column : String) (b after : List Field)
    (hk : b.length = k) (hparams : params = b ++ changes.filterMap Assignment.value ++ after) :
    Stands params ((changes.map Assignment.entry).lookup column)
      ((operands k changes).lookup column) := by
  fun_induction operands k changes generalizing b with
  | case1 => trivial
  | case2 k c rest ih =>
    simp only [List.map_cons, Assignment.entry, List.lookup_cons]
    cases column == c with
    | true => trivial
    | false => exact ih b hk hparams
  | case3 k c value rest ih =>
    simp only [List.map_cons, Assignment.entry, List.lookup_cons]
    cases column == c with
    | true =>
      subst hparams
      simp [Stands, ← hk]
    | false =>
      -- this value comes before those of the assignments that follow
      refine ih (b ++ [value]) (by simp [hk]) ?_
      rw [hparams]
      simp

/-- The value of what stands for a value is its binary form. -/
theorem Stands.map_value {params : List Field} {given : Option (Option Field)}
    {operand : Option Operand} (h : Stands params given operand) :
    operand.map (Operand.value (params.map Field.bytes)) = given.map (·.bind Field.bytes) := by
  match given, operand, h with
  | none, none, _ => rfl
  | some none, some .null, _ => rfl
  | some (some f), some (.parameter n), h =>
    have h : params[n - 1]? = some f := h
    simp [Operand.value, h]

end Numbering

/-- What a patch gives its column, if anything. -/
def given {α : Type} (field : α → Field) : Patch α → Option (Option Field)
  | .keep => none
  | .clear => some none
  | .set value => some (some (field value))

theorem lookup_assignment {α : Type} (column c : String) (field : α → Field) (patch : Patch α) :
    ((assignment column field patch).map Assignment.entry).lookup c =
      if c = column then given field patch else none := by
  by_cases hc : c = column
  · subst hc
    rw [if_pos rfl]
    cases patch <;> simp [assignment, given, Assignment.entry]
  · have hne : (c == column) = false := beq_eq_false_iff_ne.mpr hc
    rw [if_neg hc]
    cases patch <;> simp [assignment, Assignment.entry, List.lookup_cons, hne]

/-- What a change gives a column, if anything. -/
def changeOf (u : JobUpdate) (column : String) : Option (Option Field) :=
  if column = "status" then some (some (.text (some u.status.text)))
  else if column = "row_count" then given (fun n => .bigint (some n)) u.rows
  else if column = "took_ms" then given (fun n => .bigint (some n)) u.tookMs
  else if column = "error" then given (fun s => .text (some s)) u.error
  else if column = "started_at" then given (fun t => .timestamptz (some t)) u.startedAt
  else if column = "finished_at" then given (fun t => .timestamptz (some t)) u.finishedAt
  else none

theorem lookup_assignments (u : JobUpdate) (column : String) :
    ((assignments u).map Assignment.entry).lookup column = changeOf u column := by
  unfold assignments changeOf
  simp only [List.map_cons, List.map_append, List.lookup_append, lookup_assignment,
    List.lookup_cons, Assignment.entry]
  by_cases hstatus : column = "status"
  · subst hstatus
    rfl
  -- of the others, each column is looked up in its own patch alone
  rw [if_neg hstatus, beq_eq_false_iff_ne.mpr hstatus]
  dsimp only
  split_ifs <;> simp_all

/-! ### Rows -/

/-- The row of a record. -/
def tuple (job : Job) : Tuple := (fields job).map Field.bytes

/-- A field after a patch. -/
theorem getD_given {α : Type} (field : Option α → Field) (hnull : (field none).bytes = none)
    (patch : Patch α) (x : Option α) :
    ((given (fun a => field (some a)) patch).map (·.bind Field.bytes)).getD (field x).bytes =
      (field (patch.apply x)).bytes := by
  cases patch with
  | keep => rfl
  | clear => exact hnull.symm
  | set value => rfl

theorem change_tuple (u : JobUpdate) (job : Job) :
    definition.change (fun c => (changeOf u c).map (·.bind Field.bytes)) (tuple job) =
      tuple (u.apply job) := by
  have hrows := getD_given .bigint rfl u.rows job.rows
  have htook := getD_given .bigint rfl u.tookMs job.tookMs
  have herror := getD_given .text rfl u.error job.error
  have hstarted := getD_given .timestamptz rfl u.startedAt job.startedAt
  have hfinished := getD_given .timestamptz rfl u.finishedAt job.finishedAt
  simp [TableDefinition.change, TableDefinition.names, definition, tuple, fields, changeOf,
    JobUpdate.apply, hrows, htook, herror, hstarted, hfinished]

set_option maxRecDepth 10000 in
/-- The new row has the fields of the record in the columns of their names. -/
theorem fill_tuple (job : Job) : definition.fill (fun c => ((definition.names.zip
    ((List.range columns.length).map fun k => Operand.parameter (k + 1))).lookup c).map
      (Operand.value (tuple job))) = tuple job := by
  rfl

theorem cell_id (job : Job) : definition.cell "id" (tuple job) = some (Utf8.encode job.id) := rfl

theorem project_tuple (job : Job) : definition.project definition.names (tuple job) = tuple job :=
  rfl

theorem isComplete_tuple (job : Job) : definition.isComplete (tuple job) = true := rfl

theorem sameKey_tuple (job other : Job) :
    definition.sameKey (tuple job) (tuple other) = decide (other.id = job.id) := by
  have hkey : definition.sameKey (tuple job) (tuple other) =
      (definition.cell "id" (tuple job) == definition.cell "id" (tuple other)) := by
    simp [TableDefinition.sameKey, definition]
  rw [hkey, cell_id, cell_id, Option.some_beq_some, Utf8.encode_beq_encode]
  exact decide_eq_decide.mpr eq_comm

theorem isOf_tuple {n : Nat} {values : List (Option Bytes)} {id : String}
    (h : (Operand.parameter n).value values = some (Utf8.encode id)) (job : Job) :
    Key.isOf ⟨"id", n⟩ definition values (tuple job) = decide (job.id = id) := by
  unfold Key.isOf
  rw [h]
  exact Utf8.encode_beq_encode job.id id

/-! ### Reading rows -/

/-- The heads of the columns in an answer. -/
def heads : List (String × SqlType) := definition.heads definition.names

section Cells

variable {α : Type} {form : Form α} {row : TableRow} {name : String} {k : Nat} {type : SqlType}
  {e : α → Bytes}

theorem optional_eq {x : Option α} (h : cellAt row name = .ok (k, type, x.map e))
    (haccepts : form.accepts type = true) (hread : ∀ a ∈ x, form.read type (e a) = some a) :
    optional form row name = .ok x := by
  unfold optional
  rw [h]
  cases x with
  | none => simp [bind, Except.bind, haccepts]
  | some a => simp [bind, Except.bind, haccepts, hread a rfl]

theorem required_eq {a : α} (h : cellAt row name = .ok (k, type, (some a).map e))
    (haccepts : form.accepts type = true) (hread : form.read type (e a) = some a) :
    required form row name = .ok a := by
  have hoptional := optional_eq h haccepts (by rintro _ ⟨⟩; exact hread)
  unfold required
  rw [h, hoptional]
  rfl

theorem optional_text {s : Option String}
    (h : cellAt row name = .ok (k, ColumnType.text.sqlType, s.map Utf8.encode)) :
    optional textForm row name = .ok s :=
  optional_eq h rfl fun x _ => Utf8.decode?_encode x

theorem required_text {s : String}
    (h : cellAt row name = .ok (k, ColumnType.text.sqlType, (some s).map Utf8.encode)) :
    required textForm row name = .ok s :=
  required_eq h rfl (Utf8.decode?_encode s)

theorem optional_bigint {n : Option Int64} (h : cellAt row name =
    .ok (k, ColumnType.bigint.sqlType, n.map fun x => .ofInt 8 x.toInt)) :
    optional bigintForm row name = .ok n := by
  refine optional_eq h rfl fun x _ => ?_
  have hfits : -9223372036854775808 ≤ x.toInt ∧ x.toInt < 9223372036854775808 :=
    ⟨x.le_toInt, x.toInt_lt⟩
  unfold bigintForm
  dsimp only
  rw [Column.int?_ofInt hfits, Option.map_some, Int64.ofInt_toInt]

theorem read_timestamptz {t : Instant} (h : t.Whole) :
    timestamptzForm.read type (.ofInt 8 t.microseconds) = some t := by
  unfold timestamptzForm
  dsimp only
  rw [Column.timestamp?_microseconds h]

theorem optional_timestamptz {t : Option Instant} (h : cellAt row name =
    .ok (k, ColumnType.timestamptz.sqlType, t.map fun x => .ofInt 8 x.microseconds))
    (hwhole : ∀ x ∈ t, x.Whole) : optional timestamptzForm row name = .ok t :=
  optional_eq h rfl fun x hx => read_timestamptz (hwhole x hx)

theorem required_timestamptz {t : Instant} (h : cellAt row name =
    .ok (k, ColumnType.timestamptz.sqlType, (some t).map fun x => .ofInt 8 x.microseconds))
    (hwhole : t.Whole) : required timestamptzForm row name = .ok t :=
  required_eq h rfl (read_timestamptz hwhole)

end Cells

set_option maxRecDepth 10000 in
/-- The record is read from its row. -/
theorem readJob_tuple {job : Job} (h : job.Storable Instant.Whole) :
    readJob (heads.zip (tuple job)) = .ok job := by
  -- each name is that of the column in the place `k`, where the row has this field
  have hid : required textForm (heads.zip (tuple job)) "id" = .ok job.id :=
    required_text (k := 0) rfl
  have hhash : required textForm (heads.zip (tuple job)) "payload_hash" = .ok job.payloadHash :=
    required_text (k := 1) rfl
  have hkey : optional textForm (heads.zip (tuple job)) "api_key" = .ok job.apiKey :=
    optional_text (k := 2) rfl
  have hsource : required textForm (heads.zip (tuple job)) "data_source" = .ok job.dataSource :=
    required_text (k := 3) rfl
  have htable : required textForm (heads.zip (tuple job)) "table_name" = .ok job.table :=
    required_text (k := 4) rfl
  have hstatus : required textForm (heads.zip (tuple job)) "status" = .ok job.status.text :=
    required_text (k := 5) rfl
  have hrows : optional bigintForm (heads.zip (tuple job)) "row_count" = .ok job.rows :=
    optional_bigint (k := 6) rfl
  have htook : optional bigintForm (heads.zip (tuple job)) "took_ms" = .ok job.tookMs :=
    optional_bigint (k := 7) rfl
  have herror : optional textForm (heads.zip (tuple job)) "error" = .ok job.error :=
    optional_text (k := 8) rfl
  have hcreated : required timestamptzForm (heads.zip (tuple job)) "created_at" =
      .ok job.createdAt :=
    required_timestamptz (k := 9) rfl h.createdAt
  have hstarted : optional timestamptzForm (heads.zip (tuple job)) "started_at" =
      .ok job.startedAt :=
    optional_timestamptz (k := 10) rfl h.startedAt
  have hfinished : optional timestamptzForm (heads.zip (tuple job)) "finished_at" =
      .ok job.finishedAt :=
    optional_timestamptz (k := 11) rfl h.finishedAt
  simp only [readJob, hid, hhash, hkey, hsource, htable, hstatus, hrows, htook, herror, hcreated,
    hstarted, hfinished, bind, Except.bind, JobStatus.ofText_text]
  rfl

theorem readJob_tuple_of_held {job : Job} (h : job.Storable (Instant.Held times)) :
    readJob (heads.zip (tuple job)) = .ok job :=
  readJob_tuple (h.imp fun _ ht => ht.1)

/-! ### The statements are performed -/

theorem fits_insertCommand : insertCommand.Fits definition :=
  ⟨rfl, by decide, fun _ h => h, rfl⟩

theorem fits_selectCommand : selectCommand.Fits definition := ⟨rfl, fun _ h => h, by decide⟩

theorem fits_updateCommand (id : String) (u : JobUpdate) :
    (updateCommand id u).Fits definition := by
  have hcolumns := map_column_sublist u
  refine ⟨rfl, ?_, ?_, (by decide : "id" ∈ definition.names), fun _ h => h⟩
  · rw [map_fst_operands]
    exact hcolumns.nodup (by decide)
  · rw [map_fst_operands]
    intro column h
    have hdefined : ∀ c ∈ ["status", "row_count", "took_ms", "error", "started_at", "finished_at"],
        ∃ d ∈ definition.columns, d.name = c ∧ d.isKey = false := by decide
    exact hdefined column (hcolumns.subset h)

theorem types?_insertCommand (job : Job) :
    insertCommand.types? definition = some ((insert job).params.map Field.columnType) := rfl

theorem types?_selectCommand (id : String) :
    selectCommand.types? definition = some ((select id).params.map Field.columnType) := rfl

/-- A change gives its columns values of their types. -/
theorem type?_of_mem_assignments (u : JobUpdate) : ∀ a ∈ assignments u, ∀ f ∈ a.value,
    definition.type? a.column = some f.columnType :=
  forall_mem_assignments u (p := fun c f => definition.type? c = some f.columnType) rfl
    (fun _ _ => rfl) (fun _ _ => rfl) (fun _ _ => rfl) (fun _ _ => rfl) fun _ _ => rfl

/-- The parameters of a change are numbered in order, the id last. -/
theorem map_fst_slots_updateCommand (id : String) (u : JobUpdate) :
    (updateCommand id u).slots.map Prod.fst = List.range' 1 (update id u).params.length := by
  unfold updateCommand Command.slots
  rw [List.map_append, map_fst_slots_operands, length_params_update, List.range'_concat]
  simp [Nat.add_comm]

theorem types?_updateCommand (id : String) (u : JobUpdate) :
    (updateCommand id u).types? definition =
      some ((update id u).params.map Field.columnType) := by
  have hnumbers := map_fst_slots_updateCommand id u
  have hlength : (updateCommand id u).slots.length = (update id u).params.length := by
    have := congrArg List.length hnumbers
    rwa [List.length_map, List.length_range'] at this
  rw [Command.types?_of_numbered (hlength ▸ hnumbers)]
  unfold updateCommand Command.slots update
  rw [List.map_append, List.mapM_append, mapM_type?_slots_operands 0 (type?_of_mem_assignments u),
    List.map_append]
  rfl

theorem perform_insert (job : Job) (jobs : List Job) :
    insertCommand.perform definition (tuple job) (jobs.map tuple) =
      if jobs.any fun other => decide (other.id = job.id) then .error Command.uniqueViolation
      else .ok ([], (jobs ++ [job]).map tuple) := by
  simp only [insertCommand, Command.perform, fill_tuple, isComplete_tuple, List.any_map,
    Function.comp_def, sameKey_tuple, Bool.not_true, Bool.false_eq_true, if_false, List.map_append,
    List.map_cons, List.map_nil]

/-- The rows with an id are those of the jobs with the id. -/
theorem filter_isOf_map_tuple {n : Nat} {values : List (Option Bytes)} {id : String}
    (h : (Operand.parameter n).value values = some (Utf8.encode id)) (jobs : List Job) :
    (jobs.map tuple).filter (Key.isOf ⟨"id", n⟩ definition values) =
      (jobs.filter fun job => decide (job.id = id)).map tuple := by
  rw [List.filter_map]
  simp only [Function.comp_def, isOf_tuple h]

theorem perform_select (id : String) (jobs : List Job) :
    selectCommand.perform definition ((select id).params.map Field.bytes) (jobs.map tuple) =
      .ok ((jobs.filter fun job => decide (job.id = id)).map tuple, jobs.map tuple) := by
  have hvalue : (Operand.parameter 1).value ((select id).params.map Field.bytes) =
      some (Utf8.encode id) := rfl
  simp only [selectCommand, Command.perform, filter_isOf_map_tuple hvalue, List.map_map,
    Function.comp_def, project_tuple]

theorem perform_update (id : String) (u : JobUpdate) (jobs : List Job) :
    (updateCommand id u).perform definition ((update id u).params.map Field.bytes)
        (jobs.map tuple) =
      .ok ((jobs.filter fun job => decide (job.id = id)).map fun job => tuple (u.apply job),
        (jobs.map fun job => if job.id = id then u.apply job else job).map tuple) := by
  have hparams : (update id u).params =
      (assignments u).filterMap Assignment.value ++ [.text (some id)] := rfl
  have hvalue : (Operand.parameter (update id u).params.length).value
      ((update id u).params.map Field.bytes) = some (Utf8.encode id) := by
    rw [hparams]
    simp [Operand.value, Field.bytes]
  have hchange : ∀ job, definition.change (fun c => ((operands 0 (assignments u)).lookup c).map
      (Operand.value ((update id u).params.map Field.bytes))) (tuple job) =
        tuple (u.apply job) := by
    intro job
    have hgiven : ∀ c, ((operands 0 (assignments u)).lookup c).map
        (Operand.value ((update id u).params.map Field.bytes)) =
          (changeOf u c).map (·.bind Field.bytes) := by
      intro c
      rw [← lookup_assignments]
      exact (stands_operands 0 c [] [.text (some id)] rfl hparams).map_value
    simp only [hgiven, change_tuple]
  simp only [updateCommand, Command.perform, filter_isOf_map_tuple hvalue, List.map_map,
    Function.comp_def, hchange, List.all_map, isComplete_tuple, project_tuple, isOf_tuple hvalue]
  rw [if_pos (List.all_eq_true.mpr fun _ _ => rfl)]
  refine congrArg (fun after => Except.ok (_, after)) (List.map_congr_left fun job _ => ?_)
  by_cases h : job.id = id <;> simp [h]

end JobTable
end QueryGateway
