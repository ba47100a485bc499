import QueryGateway.Request

/-!
# Operands of conditions

The conditions on a column, looked up by their comparison.

## Main definitions

* `Conditions.operand?` — what a column is compared with by a comparison.
* `Comparison.rank` — the place of a comparison among those on one column.

## Main results

* `Conditions.mem_operands` — the operands that count are those that are there and not null.
* `Conditions.pairwise_operands` — they stand in the order of their comparisons.
-/

namespace QueryGateway

open Json

/-- The place of a comparison among those on one column. -/
def Comparison.rank : Comparison → Nat
  | .eq => 0
  | .gt => 1
  | .ge => 2
  | .lt => 3
  | .le => 4

namespace Conditions

/-- What a column is compared with by a comparison. -/
def operand? (c : Conditions) : Comparison → Option Value
  | .eq => c.eq
  | .gt => c.gt
  | .ge => c.ge
  | .lt => c.lt
  | .le => c.le

/-- A comparison with its operand, unless the operand is absent or null. -/
def present : Comparison × Option Value → Option (Comparison × Value)
  | (_, some .null) | (_, none) => none
  | (op, some v) => some (op, v)

theorem present_eq_some {a : Comparison × Option Value} {op : Comparison} {v : Value} :
    present a = some (op, v) ↔ a = (op, some v) ∧ v ≠ .null := by
  obtain ⟨o, w⟩ := a
  cases w with
  | none => simp [present]
  | some u => cases u <;> simp [present] <;> rintro rfl rfl <;> simp

theorem operands_eq_filterMap (c : Conditions) : c.operands =
    [(.eq, c.eq), (.gt, c.gt), (.ge, c.ge), (.lt, c.lt), (.le, c.le)].filterMap present := by
  unfold Conditions.operands
  congr 1
  funext ⟨op, w⟩
  cases w with
  | none => rfl
  | some v => cases v <;> rfl

theorem mem_operands {c : Conditions} {op : Comparison} {v : Value} :
    (op, v) ∈ c.operands ↔ c.operand? op = some v ∧ v ≠ .null := by
  rw [operands_eq_filterMap, List.mem_filterMap]
  simp only [present_eq_some]
  cases op <;> simp [Conditions.operand?, eq_comm]

theorem pairwise_operands (c : Conditions) :
    c.operands.Pairwise fun a b => a.1.rank < b.1.rank := by
  rw [operands_eq_filterMap, List.pairwise_filterMap]
  have hlist : [(.eq, c.eq), (.gt, c.gt), (.ge, c.ge), (.lt, c.lt), (.le, c.le)].Pairwise
      fun a b : Comparison × Option Value => a.1.rank < b.1.rank := by
    simp [Comparison.rank]
  refine hlist.imp fun {a b} hlt a' ha b' hb => ?_
  obtain ⟨rfl, -⟩ := present_eq_some.mp ha
  obtain ⟨rfl, -⟩ := present_eq_some.mp hb
  exact hlt

end Conditions
end QueryGateway
