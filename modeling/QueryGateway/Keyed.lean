/-!
# Keyed lists

A finite map from texts is a list of pairs.  Where its order shows, the keys ascend strictly
(`Keyed.Sorted`); `Keyed.sort` brings any list into that form.

## Main definitions

* `Keyed` — pairs of a key and a value.
* `Keyed.insert`, `Keyed.erase`, `Keyed.find?` — the operations of a map.
* `Keyed.sort` — the pairs in ascending order of their keys, the last of a repeated key.
-/

namespace QueryGateway

/-- Pairs of a key and a value. -/
abbrev Keyed (α : Type) := List (String × α)

namespace Keyed

variable {α β : Type}

/-- Keys ascend strictly. -/
def Sorted (entries : Keyed α) : Prop := (entries.map Prod.fst).Pairwise (· < ·)

/-- Puts a value where its key belongs; a key that is there already gets the new value. -/
def insert (key : String) (value : α) : Keyed α → Keyed α
  | [] => [(key, value)]
  | (k, v) :: rest =>
    if key < k then (key, value) :: (k, v) :: rest
    else if key = k then (key, value) :: rest
    else (k, v) :: insert key value rest

/-- The pairs in ascending order of their keys; of a repeated key the last value counts. -/
def sort (entries : Keyed α) : Keyed α :=
  entries.foldl (fun sorted (k, v) => insert k v sorted) []

/-- The value of a key. -/
def find? (key : String) (entries : Keyed α) : Option α := entries.lookup key

/-- The pairs without those of a key. -/
def erase (key : String) (entries : Keyed α) : Keyed α := entries.filter (·.1 ≠ key)

/-- Applies a function to every value. -/
def mapValues (f : α → β) (entries : Keyed α) : Keyed β := entries.map fun (k, v) => (k, f v)

@[simp] theorem sort_nil : sort ([] : Keyed α) = [] := rfl

@[simp] theorem find?_nil (key : String) : find? key ([] : Keyed α) = none := rfl

end Keyed

end QueryGateway
