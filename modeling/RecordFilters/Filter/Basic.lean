import RecordFilters.Filter.Ownership

/-! # Filters

A filter selects records of one entity type by its conditions, all of which must hold, or at least
one. It has at least one condition; this is part of the type.

* `Filter.subFilterIds` are the filters that a filter points at.
* `FilterSet.parentsOf` are the stored filters that point at one. -/

namespace RecordFilters

/-- What a filter is for; it decides which kinds of conditions and which operands are legal. -/
structure FilterType where
  id : String
  deriving DecidableEq

namespace FilterType

/-- Search filters of users. -/
def regular : FilterType := ⟨"regular"⟩

/-- Filters of access rules. -/
def credentials : FilterType := ⟨"credentials"⟩

def isBuiltin (t : FilterType) : Bool := t = regular || t = credentials

/-- The text by which filter types are sorted: the two of this library come first. -/
def sortKey (t : FilterType) : String :=
  if t = regular then "0" else if t = credentials then "1" else "2" ++ t.id

theorem eq_of_sortKey_eq {s t : FilterType} (h : s.sortKey = t.sortKey) : s = t := by
  have long : ∀ (c : Char) (u : String), String.singleton c = "2" ++ u → c = '2' := by
    intro c u h
    have := congrArg (·.toList.head?) h
    simpa using this
  unfold sortKey at h
  by_cases hs : s = regular <;> by_cases ht : t = regular
  · rw [hs, ht]
  · by_cases ht' : t = credentials
    · simp [hs, ht', regular, credentials] at h
    · simp only [hs, ht, ht', if_true, if_false] at h
      exact absurd (long '0' t.id h) (by decide)
  · by_cases hs' : s = credentials
    · simp [ht, hs', regular, credentials] at h
    · simp only [hs, ht, hs', if_true, if_false] at h
      exact absurd (long '0' s.id h.symm) (by decide)
  · by_cases hs' : s = credentials <;> by_cases ht' : t = credentials
    · rw [hs', ht']
    · simp only [ht, hs', ht', if_true, if_false] at h
      exact absurd (long '1' t.id h) (by decide)
    · simp only [hs, hs', ht', if_true, if_false] at h
      exact absurd (long '1' s.id h.symm) (by decide)
    · simp only [hs, ht, hs', ht', if_false] at h
      have := congrArg String.toList h
      simp only [String.toList_append, List.append_cancel_left_eq] at this
      cases s; cases t
      exact congrArg FilterType.mk (String.toList_inj.1 this)

instance : KeyOrder FilterType := KeyOrder.lift sortKey fun _ _ => eq_of_sortKey_eq

end FilterType

/-- A list without repetitions, each element where it first stands. -/
def distinct {α : Type} [DecidableEq α] : List α → List α
  | [] => []
  | a :: r => a :: (distinct r).filter (· ≠ a)

@[simp] theorem mem_distinct {α : Type} [DecidableEq α] {a : α} {l : List α} :
    a ∈ distinct l ↔ a ∈ l := by
  induction l with
  | nil => rfl
  | cons b r ih =>
    by_cases h : a = b <;> simp [distinct, ih, h]

structure Filter where
  id : FilterId
  name : String
  entityType : String
  filterType : FilterType := .regular
  /-- Whether users made the filter; system filters are installed with the engine. -/
  isCustom : Bool := true
  /-- Whether one condition suffices. -/
  useOr : Bool := false
  ownership : Ownership := .everyone
  conditions : List Condition
  conditions_ne_nil : conditions ≠ []

namespace Filter

/-- A public filter of users; none if there are no conditions. -/
def ofConditions? (id : FilterId) (name entityType : String) (conditions : List Condition) :
    Option Filter :=
  if h : conditions ≠ [] then
    some { id := id, name := name, entityType := entityType, conditions := conditions,
           conditions_ne_nil := h }
  else none

/-- The same filter with other conditions; none if there are no conditions. -/
def setConditions? (f : Filter) (conditions : List Condition) (useOr : Bool) : Option Filter :=
  if h : conditions ≠ [] then
    some { f with conditions := conditions, useOr := useOr, conditions_ne_nil := h }
  else none

/-- The same filter as a system filter. -/
def asSystem (f : Filter) : Filter := { f with isCustom := false }

def isPrivate (f : Filter) : Bool := f.ownership.isPrivate

/-- The filters that the conditions point at, in their order, each once. -/
def subFilterIds (f : Filter) : List FilterId :=
  distinct (f.conditions.filterMap Condition.subFilterId?)

theorem mem_subFilterIds {f : Filter} {id : FilterId} :
    id ∈ f.subFilterIds ↔ ∃ c ∈ f.conditions, c.subFilterId? = some id := by
  simp [subFilterIds]

/-! ### Access -/

/-- Whether the owner lets a user in. -/
def isOpenTo (f : Filter) (u : ActingUser) : Bool :=
  !f.isPrivate || u.elevated || f.ownership.isOwnedBy u

def canView (f : Filter) (u : ActingUser) : Access := .check (f.isOpenTo u) .view

def canEdit (f : Filter) (u : ActingUser) : Access := .check (f.isOpenTo u) .edit

/-- Deletion as far as the filter alone decides it: what depends on it is another matter. -/
def canDelete (f : Filter) (u : ActingUser) : Access :=
  if f.isCustom then .check (f.isOpenTo u) .delete else .denied .systemDelete

/-- System filters keep their name. -/
def canRename (f : Filter) (u : ActingUser) : Access :=
  if f.isCustom then f.canEdit u else .denied .systemRename

end Filter

/-- Filters by id. -/
abbrev FilterSet := Index Filter.id

namespace FilterSet

/-- The filters that point at `id`, in order. -/
def parentsOf (s : FilterSet) (id : FilterId) : List FilterId :=
  (s.toList.filter fun f => f.subFilterIds.contains id).map Filter.id

theorem mem_parentsOf {s : FilterSet} {id parent : FilterId} :
    parent ∈ s.parentsOf id ↔ ∃ f ∈ s, f.id = parent ∧ id ∈ f.subFilterIds := by
  simp only [parentsOf, List.mem_map, List.mem_filter, List.contains_eq_mem, decide_eq_true_eq]
  exact ⟨fun ⟨f, ⟨hf, hi⟩, hp⟩ => ⟨f, hf, hp, hi⟩, fun ⟨f, hf, hp, hi⟩ => ⟨f, ⟨hf, hi⟩, hp⟩⟩

end FilterSet

end RecordFilters
