import QueryGateway.Gateway.Setup
import QueryGateway.Proofs.Keyed
import QueryGateway.Scripted.Databases

/-!
# The data sources of a configuration

A table keeps only the last of several sources with one name, so a configuration that repeats a name
must not be accepted.  Names are sorted and each is compared with the next one: in a sorted list equal
names stand side by side, so a repeated name is found whatever stood between its places, and the first
one found is the least.

## Main definitions

* `IsLeastRepeated` — the least of the names that are given more than once.
* `Databases.Holds` — data sources are looked up and listed as those of a list.
* `GatewayConfig.HasAddresses` — every backend on a server of its own has its address.

## Main results

* `GatewayConfig.firstRepeated?_eq_none_iff`, `GatewayConfig.isLeastRepeated_of_firstRepeated?` —
  what is found in a sorted list.
* `GatewayConfig.holds_setUp` — a gateway holds the sources of its configuration when their names are
  distinct.
* `GatewayConfig.sources_held_or_refused` — the sources of an accepted configuration have distinct
  names and are held, and a configuration that repeats a name is refused.
-/

namespace QueryGateway

/-- The least of the names that are given more than once. -/
def IsLeastRepeated (names : List String) (name : String) : Prop :=
  1 < names.count name ∧ ∀ other, 1 < names.count other → name ≤ other

/-- Data sources are looked up and listed as those of a list: each is found under its name and nothing
under any other name, and each is listed once, in the order of their names. -/
structure Databases.Holds (db : Databases) (sources : List Source) : Prop where
  found : ∀ source ∈ sources, ((answer (.source source.name)).run db).1 = some source
  nothing : ∀ name, (∀ source ∈ sources, source.name ≠ name) →
    ((answer (.source name)).run db).1 = none
  listed : ((answer .sources).run db).1.Perm sources
  ascending : ((answer .sources).run db).1.Pairwise fun a b => a.name < b.name

namespace GatewayConfig

/-- Every backend on a server of its own has its address. -/
def HasAddresses (c : GatewayConfig) : Prop :=
  (∀ q, c.queue = some q → q.backend = .redis → q.url ≠ none) ∧
    (c.jobs.backend = .postgres → c.jobs.url ≠ none)

/-! ### Repeated names -/

section Names

variable {a b name : String} {names rest : List String}

/-- In a sorted list a name that is given again stands next to itself. -/
theorem eq_of_mem_of_sorted (h : (a :: b :: rest).Pairwise (· ≤ ·)) (hmem : a ∈ b :: rest) :
    a = b := by
  obtain ⟨hle, hrest⟩ := List.pairwise_cons.mp h
  rcases List.mem_cons.mp hmem with heq | hmem
  · exact heq
  · have hba : b ≤ a := (List.pairwise_cons.mp hrest).1 a hmem
    exact String.le_antisymm (hle b List.mem_cons_self) hba

/-- No name is found in a sorted list just when none is repeated. -/
theorem firstRepeated?_eq_none_iff (h : names.Pairwise (· ≤ ·)) :
    firstRepeated? names = none ↔ names.Nodup := by
  induction names with
  | nil => simp [firstRepeated?]
  | cons a rest ih =>
    cases rest with
    | nil => simp [firstRepeated?]
    | cons b rest =>
      rw [firstRepeated?, List.nodup_cons, ← ih (List.pairwise_cons.mp h).2]
      by_cases hab : a = b
      · rw [if_pos hab]
        exact iff_of_false nofun fun hn => hn.1 (hab ▸ List.mem_cons_self)
      · rw [if_neg hab, iff_and_self]
        exact fun _ hmem => hab (eq_of_mem_of_sorted h hmem)

/-- The name that is found in a sorted list is the least repeated one. -/
theorem isLeastRepeated_of_firstRepeated? (h : names.Pairwise (· ≤ ·))
    (hname : firstRepeated? names = some name) : IsLeastRepeated names name := by
  induction names with
  | nil => cases hname
  | cons a rest ih =>
    obtain ⟨hle, hrest⟩ := List.pairwise_cons.mp h
    cases rest with
    | nil => cases hname
    | cons b rest =>
      rw [firstRepeated?] at hname
      by_cases hab : a = b
      · rw [if_pos hab] at hname
        obtain rfl := Option.some.inj hname
        subst hab
        refine ⟨by simp, fun other hother => ?_⟩
        rcases List.mem_cons.mp (List.count_pos_iff.mp (Nat.zero_lt_of_lt hother)) with rfl | hmem
        · exact String.le_refl _
        · exact hle other hmem
      · rw [if_neg hab] at hname
        obtain ⟨htwice, hleast⟩ := ih hrest hname
        refine ⟨Nat.lt_of_lt_of_le htwice List.count_le_count_cons, fun other hother => ?_⟩
        -- the first name is not repeated, so both places are in the rest
        by_cases heq : a = other
        · subst heq
          rw [List.count_cons_self] at hother
          have hmem : a ∈ b :: rest := List.count_pos_iff.mp (by omega)
          exact absurd (eq_of_mem_of_sorted h hmem) hab
        · rw [List.count_cons_of_ne heq] at hother
          exact hleast other hother

theorem pairwise_mergeSort_names (names : List String) :
    (names.mergeSort (· ≤ ·)).Pairwise (· ≤ ·) := by
  have trans (a b c : String) (hab : decide (a ≤ b) = true) (hbc : decide (b ≤ c) = true) :
      decide (a ≤ c) = true :=
    decide_eq_true (String.le_trans (of_decide_eq_true hab) (of_decide_eq_true hbc))
  have total (a b : String) : (decide (a ≤ b) || decide (b ≤ a)) = true := by
    simpa using String.le_total a b
  have h := List.pairwise_mergeSort trans total names
  exact h.imp of_decide_eq_true

theorem repeatedName?_eq_none_iff : repeatedName? names = none ↔ names.Nodup := by
  unfold repeatedName?
  rw [firstRepeated?_eq_none_iff (pairwise_mergeSort_names names)]
  exact (List.mergeSort_perm names _).nodup_iff

theorem isLeastRepeated_of_repeatedName? (h : repeatedName? names = some name) :
    IsLeastRepeated names name := by
  have hsorted := isLeastRepeated_of_firstRepeated? (pairwise_mergeSort_names names) h
  have hcount := (List.mergeSort_perm names fun a b => decide (a ≤ b)).count_eq
  unfold IsLeastRepeated at hsorted ⊢
  simpa only [hcount] using hsorted

end Names

/-! ### The table of sources -/

section Table

variable {c : GatewayConfig}

theorem map_fst_entries (sources : List Source) :
    (sources.map fun source => (source.name, source)).map Prod.fst = sources.map Source.name := by
  rw [List.map_map]
  rfl

theorem sorted_sourceTable (c : GatewayConfig) : Keyed.Sorted c.sourceTable :=
  Keyed.sorted_sort _

/-- Without repeated names the table has all sources. -/
theorem perm_sourceTable (h : (c.sources.map Source.name).Nodup) :
    c.sourceTable.Perm (c.sources.map fun source => (source.name, source)) :=
  Keyed.perm_sort (by rwa [map_fst_entries])

theorem mem_sourceTable (h : (c.sources.map Source.name).Nodup) {entry : String × Source} :
    entry ∈ c.sourceTable ↔ entry.2 ∈ c.sources ∧ entry.1 = entry.2.name := by
  rw [(perm_sourceTable h).mem_iff, List.mem_map]
  constructor
  · rintro ⟨source, hsource, rfl⟩
    exact ⟨hsource, rfl⟩
  · rintro ⟨hsource, hname⟩
    exact ⟨entry.2, hsource, Prod.ext hname.symm rfl⟩

theorem sources_of_setUp {servers : Servers} {g : Gateway} (h : c.setUp servers = .ok g) :
    g.sources = c.sourceTable := by
  unfold setUp at h
  split at h
  · cases h
  split at h
  · cases h
  · obtain rfl := Except.ok.inj h
    rfl

/-- A gateway holds the sources of its configuration when their names are distinct. -/
theorem holds_setUp (h : (c.sources.map Source.name).Nodup) {servers : Servers} {g : Gateway}
    (hg : c.setUp servers = .ok g) {db : Databases} (hdb : db.sources = g.sources) :
    db.Holds c.sources := by
  have htable : db.sources = c.sourceTable := hdb.trans (sources_of_setUp hg)
  have hfind : ∀ name, ((Databases.answer (.source name)).run db).1 =
      Keyed.find? name c.sourceTable := fun name => congrArg (Keyed.find? name) htable
  have hlist : ((Databases.answer .sources).run db).1 = c.sourceTable.map Prod.snd :=
    congrArg (List.map Prod.snd) htable
  constructor
  case found =>
    intro source hsource
    rw [hfind, Keyed.find?_eq_some_iff (sorted_sourceTable c), mem_sourceTable h]
    exact ⟨hsource, rfl⟩
  case nothing =>
    intro name hname
    rw [hfind, Option.eq_none_iff_forall_ne_some]
    intro source hsource
    obtain ⟨hmem, heq⟩ := (mem_sourceTable h).mp (Keyed.mem_of_find? hsource)
    exact hname source hmem heq.symm
  case listed =>
    rw [hlist]
    refine ((perm_sourceTable h).map Prod.snd).trans (List.Perm.of_eq ?_)
    rw [List.map_map]
    exact List.map_id _
  case ascending =>
    rw [hlist, List.pairwise_map]
    refine (List.pairwise_map.mp (sorted_sourceTable c)).imp_of_mem ?_
    intro a b ha hb hlt
    rwa [((mem_sourceTable h).mp ha).2, ((mem_sourceTable h).mp hb).2] at hlt

end Table

/-! ### Accepted and refused configurations -/

section Reading

variable {text : String} {c : GatewayConfig}

/-- With all addresses only a repeated name is wrong. -/
theorem fault?_of_hasAddresses (h : c.HasAddresses) :
    c.fault? = (repeatedName? (c.sources.map Source.name)).map .duplicateSource := by
  unfold fault?
  rw [if_neg, if_neg]
  · rintro ⟨hbackend, hurl⟩
    exact h.2 hbackend (Option.isNone_iff_eq_none.mp hurl)
  · intro hqueue
    cases hq : c.queue with
    | none =>
      rw [hq] at hqueue
      cases hqueue
    | some q =>
      rw [hq, Option.any_some, Bool.and_eq_true, decide_eq_true_iff] at hqueue
      exact h.1 q hq hqueue.1 (Option.isNone_iff_eq_none.mp hqueue.2)

theorem nodup_of_ofText (h : ofText text = .ok c) : (c.sources.map Source.name).Nodup := by
  unfold ofText at h
  split at h
  · cases h
  split at h
  · cases h
  · next c' _ hfault =>
    obtain rfl := Except.ok.inj h
    unfold fault? at hfault
    split at hfault
    · cases hfault
    split at hfault
    · cases hfault
    · exact repeatedName?_eq_none_iff.mp (Option.map_eq_none_iff.mp hfault)

theorem ofText_of_decode? (hc : decode? text = some c) :
    ofText text = match c.fault? with | some f => .error (.fault f) | none => .ok c := by
  unfold ofText
  split
  · next h => cases h.symm.trans hc
  · next h =>
    obtain rfl := Option.some.inj (h.symm.trans hc)
    rfl

/-- The data sources of an accepted configuration have distinct names, and a gateway that is set up
from it holds exactly these sources.  A configuration that can be read and has all addresses is
accepted just when no name is repeated, and otherwise refused for the least repeated name. -/
theorem sources_held_or_refused :
    (∀ text c, ofText text = .ok c → (c.sources.map Source.name).Nodup ∧
      ∀ servers g, c.setUp servers = .ok g →
        ∀ db : Databases, db.sources = g.sources → db.Holds c.sources) ∧
    ∀ text c, decode? text = some c → c.HasAddresses →
      ((c.sources.map Source.name).Nodup → ofText text = .ok c) ∧
      (¬(c.sources.map Source.name).Nodup → ∃ name,
        IsLeastRepeated (c.sources.map Source.name) name ∧
          ofText text = .error (.fault (.duplicateSource name)) ∧
          ConfigFault.message (.duplicateSource name) = "duplicate data source name: " ++ name) := by
  refine ⟨fun text c h => ?_, fun text c hc haddresses => ?_⟩
  · have hnodup := nodup_of_ofText h
    exact ⟨hnodup, fun servers g hg db hdb => holds_setUp hnodup hg hdb⟩
  · have hfault := fault?_of_hasAddresses haddresses
    have hread := ofText_of_decode? hc
    constructor
    · intro hnodup
      rw [hread, hfault, repeatedName?_eq_none_iff.mpr hnodup]
      rfl
    · intro hrepeated
      cases hname : repeatedName? (c.sources.map Source.name) with
      | none => exact absurd (repeatedName?_eq_none_iff.mp hname) hrepeated
      | some name =>
        refine ⟨name, isLeastRepeated_of_repeatedName? hname, ?_, rfl⟩
        rw [hread, hfault, hname]
        rfl

/-- Two sources, not in the order of their names. -/
def pairText : String := "datasources:\n- name: sales\n  type: postgres\n- name: main\n  type: postgres"

/-- The configuration with two sources. -/
def pairConfig : GatewayConfig :=
  { sources := [{ name := "sales", kind := "postgres" }, { name := "main", kind := "postgres" }] }

/-- Four sources that share two names. -/
def sharedText : String :=
  "datasources:\n- name: b\n  type: x\n- name: a\n  type: x\n- name: b\n  type: y\n- name: a\n  type: y"

/-- The configuration with four sources. -/
def sharedConfig : GatewayConfig :=
  { sources := [{ name := "b", kind := "x" }, { name := "a", kind := "x" },
      { name := "b", kind := "y" }, { name := "a", kind := "y" }] }

/-- The sources of the first text are held, and the second one is refused. -/
theorem sources_held_or_refused_pair :
    (ofText pairText = .ok pairConfig ∧ ∃ g, pairConfig.setUp .unreachable = .ok g ∧
      Databases.Holds { sources := g.sources } pairConfig.sources) ∧
    ∃ name, IsLeastRepeated ["b", "a", "b", "a"] name ∧
      ofText sharedText = .error (.fault (.duplicateSource name)) := by
  have hpair : decode? pairText = some pairConfig := by decide +kernel
  have hshared : decode? sharedText = some sharedConfig := by decide +kernel
  have haccepted := (sources_held_or_refused.2 _ _ hpair ⟨nofun, nofun⟩).1 (by decide)
  obtain ⟨name, hname, hrefused, -⟩ :=
    (sources_held_or_refused.2 _ _ hshared ⟨nofun, nofun⟩).2 (by decide)
  exact ⟨⟨haccepted, pairConfig.gateway, rfl,
    (sources_held_or_refused.1 _ _ haccepted).2 .unreachable _ rfl _ rfl⟩, name, hname, hrefused⟩

end Reading

end GatewayConfig
end QueryGateway
