import Mathlib.Data.List.TakeDrop
import Mathlib.Data.List.TakeWhile
import QueryGateway.Identifier
import QueryGateway.Source
import QueryGateway.Proofs.Text.Case

/-!
# The two rules of the blocklist

Requests are judged by one rule and rows are scrubbed by another.  What is scrubbed is always
blocked, because an entry that equals a qualified name up to the case of ASCII letters also equals
it in full lower case.  The converse needs the entry to differ from the name in the case of ASCII
letters only.

## Main definitions

* `Source.lists` — the blocklist has the qualified name of a column, up to the case of ASCII
  letters.

## Main results

* `Source.scrub_eq_filter` — scrubbing removes exactly the columns that are listed.
* `Source.isBlocked_of_lists` — what is scrubbed is blocked.
* `Source.isBlocked_eq_lists_of_ascii` — on ASCII names the two rules agree.
* `Source.scrub_eq_iff` — when scrubbing a row removes exactly the blocked columns.
-/

namespace QueryGateway
namespace Source

open Text

/-- Whether an entry of the blocklist is the qualified name of a column, up to the case of ASCII
letters. -/
def lists (s : Source) (table column : String) : Bool :=
  s.blocklist.any fun entry => equalsIgnoringCase entry (table ++ "." ++ column)

/-! ### Entries -/

theorem not_dot_of_isIdentifierChar {c : Char} (h : isIdentifierChar c = true) : c ≠ '.' := by
  rintro rfl
  exact absurd h (by decide)

theorem dot_not_mem_of_isIdentifier {name : String} (h : isIdentifier name = true) :
    '.' ∉ name.toList := by
  unfold isIdentifier at h
  rw [Bool.and_eq_true, List.all_eq_true] at h
  exact fun hdot => not_dot_of_isIdentifierChar (h.2 '.' hdot) rfl

/-- An entry is split at its first dot. -/
theorem splitEntry_eq_some {entry table column : String} :
    splitEntry entry = some (table, column) ↔
      '.' ∉ table.toList ∧ entry.toList = table.toList ++ '.' :: column.toList := by
  unfold splitEntry
  rw [List.span_eq_takeWhile_dropWhile]
  constructor
  · intro h
    split at h
    · next before after hsplit =>
      obtain ⟨htake, hdrop⟩ := Prod.mk.inj hsplit
      obtain ⟨rfl, rfl⟩ := Prod.mk.inj (Option.some.inj h)
      rw [String.toList_ofList, String.toList_ofList, ← htake, ← hdrop,
        List.takeWhile_append_dropWhile]
      refine ⟨fun hdot => ?_, rfl⟩
      simpa using List.mem_takeWhile_imp hdot
    · cases h
  · rintro ⟨hdot, hentry⟩
    have hall : ∀ c ∈ table.toList, (decide (c ≠ '.')) = true := by
      intro c hc
      simp only [decide_eq_true_eq]
      rintro rfl
      exact hdot hc
    rw [hentry, List.takeWhile_append_of_pos hall, List.dropWhile_append_of_pos hall]
    simp

/-- An entry that equals a qualified name up to case is split where the name is. -/
theorem exists_splitEntry_iff {entry table column : String} (htable : '.' ∉ table.toList) :
    (∃ entryTable blocked, splitEntry entry = some (entryTable, blocked) ∧
        equalsIgnoringCase entryTable table = true ∧ equalsIgnoringCase blocked column = true) ↔
      equalsIgnoringCase entry (table ++ "." ++ column) = true := by
  have hname : (table ++ "." ++ column).toList.map Char.toLower =
      table.toList.map Char.toLower ++ '.' :: column.toList.map Char.toLower := by
    simp
  simp only [equalsIgnoringCase_iff, hname, splitEntry_eq_some]
  constructor
  · rintro ⟨entryTable, blocked, ⟨-, hentry⟩, ht, hc⟩
    rw [hentry, List.map_append, List.map_cons, ht, hc]
    rfl
  · intro h
    obtain ⟨before, after, hentry, ht, hafter⟩ := List.map_eq_append_iff.mp h
    obtain ⟨dot, blocked, rfl, hdot, hc⟩ := List.map_eq_cons_iff.mp hafter
    obtain ⟨rfl, -⟩ := (toLower_eq_iff (by decide)).mp hdot
    refine ⟨String.ofList before, String.ofList blocked, ⟨?_, ?_⟩, ?_, ?_⟩
    · -- a dot in front would be one in the table
      rw [String.toList_ofList]
      intro hmem
      have hlower : '.' ∈ table.toList.map Char.toLower :=
        ht ▸ List.mem_map.mpr ⟨'.', hmem, rfl⟩
      obtain ⟨c, hmem', hlow⟩ := List.mem_map.mp hlower
      obtain ⟨rfl, -⟩ := (toLower_eq_iff (by decide)).mp hlow
      exact htable hmem'
    · rw [String.toList_ofList, String.toList_ofList, hentry]
    · rw [String.toList_ofList, ht]
    · rw [String.toList_ofList, hc]

/-! ### The two rules -/

theorem any_blockedColumns (s : Source) {table : String} (htable : '.' ∉ table.toList)
    (column : String) :
    ((s.blockedColumns table).any fun blocked => equalsIgnoringCase blocked column) =
      s.lists table column := by
  rw [Bool.eq_iff_iff]
  unfold blockedColumns lists
  simp only [List.any_eq_true, List.mem_filterMap, ← exists_splitEntry_iff htable]
  constructor
  · rintro ⟨blocked, ⟨entry, hentry, hsplit⟩, hc⟩
    obtain ⟨⟨entryTable, column'⟩, hs, hif⟩ := Option.bind_eq_some_iff.mp hsplit
    split at hif
    · next ht =>
      obtain rfl := Option.some.inj hif
      exact ⟨entry, hentry, entryTable, column', hs, ht, hc⟩
    · cases hif
  · rintro ⟨entry, hentry, entryTable, blocked, hs, ht, hc⟩
    exact ⟨blocked, ⟨entry, hentry, by simp [hs, ht]⟩, hc⟩

/-- Scrubbing removes exactly the columns that are listed. -/
theorem scrub_eq_filter {α : Type} (s : Source) {table : String}
    (htable : isIdentifier table = true) (row : Keyed α) :
    s.scrub table row = row.filter fun cell => !s.lists table cell.1 := by
  unfold scrub
  simp only [any_blockedColumns s (dot_not_mem_of_isIdentifier htable)]

/-- What is scrubbed is blocked. -/
theorem isBlocked_of_lists {s : Source} {table column : String}
    (h : s.lists table column = true) : s.isBlocked table column = true := by
  unfold lists at h
  obtain ⟨entry, hentry, heq⟩ := List.any_eq_true.mp h
  exact List.any_eq_true.mpr ⟨entry, hentry, beq_iff_eq.mpr (lower_eq_of_equalsIgnoringCase heq)⟩

/-- On ASCII names the two rules agree. -/
theorem isBlocked_eq_lists_of_ascii {s : Source} {table column : String}
    (hentries : ∀ entry ∈ s.blocklist, ∀ c ∈ entry.toList, c.toNat < 0x80)
    (hname : ∀ c ∈ (table ++ "." ++ column).toList, c.toNat < 0x80) :
    s.isBlocked table column = s.lists table column := by
  rw [Bool.eq_iff_iff]
  refine ⟨fun h => ?_, isBlocked_of_lists⟩
  obtain ⟨entry, hentry, heq⟩ := List.any_eq_true.mp h
  exact List.any_eq_true.mpr ⟨entry, hentry,
    (lower_eq_iff_of_ascii (hentries entry hentry) hname).mp (beq_iff_eq.mp heq)⟩

/-- A row loses exactly its blocked columns when each of them is listed. -/
theorem scrub_eq_iff {α : Type} (s : Source) {table : String}
    (htable : isIdentifier table = true) (row : Keyed α) :
    (s.scrub table row = row.filter fun cell => !s.isBlocked table cell.1) ↔
      ∀ cell ∈ row, s.isBlocked table cell.1 = true → s.lists table cell.1 = true := by
  rw [scrub_eq_filter s htable]
  constructor
  · intro h cell hcell hblocked
    by_contra hlists
    have hkept : cell ∈ row.filter fun cell => !s.lists table cell.1 :=
      List.mem_filter.mpr ⟨hcell, by simpa using hlists⟩
    rw [h] at hkept
    simp [hblocked] at hkept
  · intro h
    refine List.filter_congr ?_
    intro cell hcell
    have hiff : s.lists table cell.1 = s.isBlocked table cell.1 :=
      Bool.eq_iff_iff.mpr ⟨isBlocked_of_lists, h cell hcell⟩
    rw [hiff]

end Source
end QueryGateway
