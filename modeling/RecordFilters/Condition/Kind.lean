import RecordFilters.Index

/-! # Kinds of conditions

A condition says by its kind what it tests and how its reference and payload are to be read. There
are eight kinds of this library; an extension may add others, under numbers of its own. -/

namespace RecordFilters

instance : KeyOrder UInt16 := KeyOrder.lift UInt16.toNat fun _ _ => UInt16.toNat_inj.1

/-- The numbers of the kinds of this library. -/
def builtinKindIds : List UInt16 := [1, 5, 6, 10, 11, 15, 20, 21]

/-- What a condition tests. -/
inductive ConditionKind
  | subFilter
  | field
  | dateField
  | relation
  | relationSubFilter
  | property
  | customField
  | dateCustomField
  /-- A kind of an extension. -/
  | other (id : UInt16) (notBuiltin : id ∉ builtinKindIds)
  deriving DecidableEq

namespace ConditionKind

def builtin : List ConditionKind :=
  [subFilter, field, dateField, relation, relationSubFilter, property, customField, dateCustomField]

/-- The number under which a kind is stored. -/
def id : ConditionKind → UInt16
  | subFilter => 1
  | field => 5
  | dateField => 6
  | relation => 10
  | relationSubFilter => 11
  | property => 15
  | customField => 20
  | dateCustomField => 21
  | other id _ => id

/-- The kind stored under a number. -/
def ofId (n : UInt16) : ConditionKind :=
  if h : n ∈ builtinKindIds then (builtin.find? fun k => k.id = n).getD subFilter
  else other n h

theorem ofId_id (k : ConditionKind) : ofId k.id = k := by
  cases k with
  | other id h => simp [ofId, ConditionKind.id, h]
  | _ => decide

theorem eq_of_id_eq {j k : ConditionKind} (h : j.id = k.id) : j = k := by
  rw [← ofId_id j, h, ofId_id]

/-- The name in messages. -/
def name : ConditionKind → String
  | subFilter => "sub_filter"
  | field => "regular_field"
  | dateField => "date_regular_field"
  | relation => "relation"
  | relationSubFilter => "relation_sub_filter"
  | property => "property"
  | customField => "custom_field"
  | dateCustomField => "date_custom_field"
  | other id _ => s!"kind_{id.toNat}"

/-- Whether conditions of the kind point at another filter. -/
def referencesFilter (k : ConditionKind) : Bool := k = subFilter || k = relationSubFilter

/-- The place of a kind in lists of kinds: extensions come after the kinds of this library. -/
def rank : ConditionKind → Nat
  | other id _ => UInt16.size + id.toNat
  | k => k.id.toNat

theorem eq_of_rank_eq {j k : ConditionKind} (h : j.rank = k.rank) : j = k := by
  have small : ∀ n : UInt16, n.toNat < UInt16.size := fun n => n.toNat_lt_size
  refine eq_of_id_eq (UInt16.toNat_inj.1 ?_)
  cases j with
  | other i hi =>
    cases k with
    | other i' hi' => simp only [rank] at h; simp only [ConditionKind.id]; omega
    | _ => simp only [rank] at h; exact absurd (small (ConditionKind.id _)) (by rw [← h]; omega)
  | _ =>
    cases k with
    | other i' hi' =>
      simp only [rank] at h; exact absurd (small (ConditionKind.id _)) (by rw [h]; omega)
    | _ => exact h

instance : KeyOrder ConditionKind := KeyOrder.lift rank fun _ _ => eq_of_rank_eq

end ConditionKind

/-- A set of kinds, in their order. -/
abbrev KindSet := Index (id : ConditionKind → ConditionKind)

end RecordFilters
