import Mathlib
import RecordFilters.Record.Comparing

/-! # Fields that hold several values

A field may hold a list of values, and lists of lists. Taken out of the lists, its values are its
leaves, and all comparisons but the test for emptiness look at each of them on its own.

* `Value.leaves`: the values of a field.
* `Value.compares_iff_leaves`: a field compares if one of its values does.
* `Value.singleCompares_iff`: a value compares if it stands so to one value of the comparison. -/

namespace RecordFilters.Value

variable {v : Value} {values : List Value} {c : Comparison}

mutual

/-- The values that a field holds, taken out of lists. -/
def leaves : Value → List Value
  | .list items => leavesOf items
  | v => [v]

def leavesOf : List Value → List Value
  | [] => []
  | v :: r => leaves v ++ leavesOf r

end

mutual

theorem someCompares_iff (c : Comparison) (values : List Value) : ∀ v : Value,
    someCompares c values v = true ↔ ∃ leaf ∈ v.leaves, leaf.singleCompares c values = true
  | .list items => by rw [someCompares, leaves, anyCompares_iff c values items]
  | .null | .bool _ | .number _ | .text _ | .object _ => by simp [someCompares, leaves]

theorem anyCompares_iff (c : Comparison) (values : List Value) : ∀ items : List Value,
    anyCompares c values items = true ↔
      ∃ leaf ∈ leavesOf items, leaf.singleCompares c values = true
  | [] => by simp [anyCompares, leavesOf]
  | v :: r => by
    rw [anyCompares, leavesOf, Bool.or_eq_true, someCompares_iff c values v,
      anyCompares_iff c values r]
    simp only [List.mem_append, or_and_right, exists_or]

end

/-- **A field compares if one of its values does.** -/
theorem compares_iff_leaves (hc : c ≠ .isEmpty) :
    v.compares c values = true ↔ ∃ leaf ∈ v.leaves, leaf.singleCompares c values = true := by
  rw [compares, if_neg hc, someCompares_iff]

/-- One value compares if it is there and stands so to one of the values of the comparison. The range
takes its values together. -/
theorem singleCompares_iff (hc : c ≠ .range) : v.singleCompares c values = true ↔
    v.isEmpty = false ∧ ∃ w ∈ values, v.comparesWith c w = true := by
  have hvalues : v.singleCompares c values =
      if v.isEmpty then false else values.any (v.comparesWith c) := by
    unfold singleCompares
    cases c <;> first | rfl | exact absurd rfl hc
  rw [hvalues]
  cases v.isEmpty <;> simp

/-- Whether a field holds a list. -/
def isList : Value → Bool
  | .list _ => true
  | _ => false

theorem leaves_of_isList (h : v.isList = false) : v.leaves = [v] := by
  cases v with
  | list items => cases h
  | _ => rfl

end RecordFilters.Value
