import Mathlib
import RecordFilters.Catalog
import RecordFilters.Record.Matching

/-! # What a filter means

The meaning of a filter is a test of records, stated without predicates and without an order of
evaluation. A condition that refers to something absent says nothing; all others of a filter must
hold, or one of them. A condition on another filter consults the meaning of that filter, so meanings
are defined by induction: a filter that leads back to itself has none.

* `Setting.test?` is what one condition says, given what the filters it consults say.
* `Setting.Means` relates a filter to its meaning.
* `Setting.Means.unique`: a filter has at most one. -/

namespace RecordFilters

/-! ### Operators and dates -/

/-- The comparison that a standard operator makes, and whether it has to hold or to fail. -/
def Operator.comparison? (id : OperatorId) : Option (Comparison × Bool) :=
  [(1, .equals, true), (2, .iEquals, true), (3, .equals, false), (4, .iEquals, false),
    (5, .contains, true), (6, .iContains, true), (7, .contains, false), (8, .iContains, false),
    (9, .gt, true), (10, .gte, true), (11, .lt, true), (12, .lte, true),
    (13, .startsWith, true), (14, .iStartsWith, true), (15, .startsWith, false),
    (16, .iStartsWith, false), (17, .endsWith, true), (18, .iEndsWith, true),
    (19, .endsWith, false), (20, .iEndsWith, false), (22, .range, true)].lookup id

/-- What a standard operator says of the value of a field. The operator for emptiness takes the flag
that says whether the field is to be empty. -/
def Operator.test? (id : OperatorId) : Option (Value → List Value → Bool) :=
  if id = 21 then
    some fun field values => field.isEmpty == ((values.head?).bind Value.flag?).getD true
  else match comparison? id with
    | some (c, keep) => some fun field values => field.compares c values == keep
    | none => none

/-- Whether the value of a date field lies in a range. -/
def DayRange.admits : DayRange → Value → Bool
  | .between start stop, v =>
    match v.day? with
    | some d => (start.all fun s => s ≤ d) && (stop.all fun e => d ≤ e)
    | none => false
  | .empty required, v => v.isEmpty == required

/-! ### Conditions -/

/-- Whether records of an entity type can be the subject of a relation. -/
def Schema.relates (s : Schema) (entityType relation : String) : Bool :=
  (s.relationType? relation).any fun r => r.acceptsSubject entityType

/-- Whether records of an entity type can carry a property. -/
def Schema.carries (s : Schema) (entityType property : String) : Bool :=
  (s.propertyType? property).any fun p => p.accepts entityType

/-- The filter that a condition of a filter on an entity type consults: the one to which it points,
if that selects records of the right type. -/
def FilterSet.consulted? (s : FilterSet) (schema : Schema) (entityType : String) (c : Condition) :
    Option Filter :=
  match c.payload with
  | .subFilter => (s.get? c.reference).filter fun g => g.entityType = entityType
  | .relationSubFilter _ id =>
    if schema.relates entityType c.reference then
      (s.get? id).filter fun g => schema.objectCompatible c.reference g.entityType
    else none
  | _ => none

theorem FilterSet.mem_of_consulted? {s : FilterSet} {schema : Schema} {entityType : String}
    {c : Condition} {g : Filter} (h : s.consulted? schema entityType c = some g) : g ∈ s := by
  unfold consulted? at h
  split at h
  next => exact Index.mem_of_get? (Option.filter_eq_some_iff.1 h).1
  next =>
    split at h
    next => exact Index.mem_of_get? (Option.filter_eq_some_iff.1 h).1
    next => cases h
  next => cases h

/-- What the meaning of filters depends on. -/
structure Setting where
  registries : RegistryCatalog
  schema : Schema
  filters : FilterSet
  records : RecordSet
  user : Option ActingUser
  today : Day

namespace Setting

variable (s : Setting)

/-- What a stored value stands for in filters of a type: the operand that it names there stands for
its values, and all else for itself. -/
def standsFor (filterType : FilterType) : Value → List Value
  | .text name =>
    match (s.registries.get? filterType).bind (·.operands.get? name) with
    | some o => o.resolve s.user s.today
    | none => [.text name]
  | v => [v]

/-- Stored values with the operands among them replaced by what they stand for. -/
def substitute (filterType : FilterType) (values : List Value) : List Value :=
  values.flatMap (s.standsFor filterType)

/-- The field that a condition of a filter on an entity type reads: a regular field that can be
filtered by, or a custom field, deleted or not. -/
def target? (entityType : String) (c : Condition) : Option Target :=
  match c.kind with
  | .field | .dateField =>
    if (s.schema.field? entityType c.reference).any Field.isFilterable then
      some (.field c.reference)
    else none
  | .customField | .dateCustomField =>
    (((Uuid.ofText? c.reference).bind s.schema.customField?).filter fun field =>
      field.entityType = entityType).map fun field => .custom field.id
  | _ => none

/-- Whether an object is the one, or of the type, to which a condition narrows a relation. -/
def isObject (object objectType : Option String) (id : RecordId) : Bool :=
  match object, objectType with
  | some wanted, _ => wanted = id
  | none, some t => ((s.records.get? id).map Record.entityType) = some t
  | none, none => true

/-- The stored objects of a relation. -/
def objects (relation : String) (r : Record) : List Record :=
  r.relations.filterMap fun (kind, id) => if kind = relation then s.records.get? id else none

/-- The filter that a condition of a filter consults. -/
def consulted? (f : Filter) (c : Condition) : Option Filter :=
  s.filters.consulted? s.schema f.entityType c

/-- What a condition of a filter says of records, given what other filters say of them. It says
nothing if it refers to something that is not there. -/
def test? (sub : Filter → Record → Bool) (f : Filter) (c : Condition) : Option (Record → Bool) :=
  match c.payload with
  | .comparison operator values =>
    (s.target? f.entityType c).bind fun target => (Operator.test? operator).map fun test r =>
      test (r.value target) (s.substitute f.filterType values)
  | .dates range =>
    (s.target? f.entityType c).bind fun target => (range.resolve? s.today).map fun days r =>
      days.admits (r.value target)
  | .relation present object objectType =>
    if s.schema.relates f.entityType c.reference then
      some fun r => (r.relations.any fun (kind, id) =>
        kind = c.reference && s.isObject object objectType id) == present
    else none
  | .relationSubFilter present id =>
    if s.schema.relates f.entityType c.reference then
      (s.filters.get? id).map fun g r =>
        s.schema.objectCompatible c.reference g.entityType &&
          ((s.objects c.reference r).any fun o => o.entityType = g.entityType && sub g o) == present
    else none
  | .property present =>
    if s.schema.carries f.entityType c.reference then
      some fun r => r.properties.contains c.reference == present
    else none
  | .subFilter =>
    (s.filters.get? c.reference).map fun g r => g.entityType = f.entityType && sub g r
  | .raw _ => none

/-! ### Filters -/

/-- The filters that a filter consults. -/
def consulted (f : Filter) : List Filter := f.conditions.filterMap (s.consulted? f)

/-- Whether a record satisfies a filter, given what other filters say. Conditions that say nothing
do not count. -/
def satisfies (sub : Filter → Record → Bool) (f : Filter) (r : Record) : Bool :=
  let said := f.conditions.filterMap (s.test? sub f)
  if said.isEmpty then true
  else if f.useOr then said.any fun test => test r
  else said.all fun test => test r

/-- A filter means a test of records. -/
inductive Means : Filter → (Record → Bool) → Prop
  /-- The filters that it consults have a meaning, and the filter says what follows from these. -/
  | of {f : Filter} (sub : Filter → Record → Bool)
      (consulted : ∀ g ∈ s.consulted f, Means g (sub g)) : Means f (s.satisfies sub f)

variable {s} {sub sub' : Filter → Record → Bool} {f : Filter} {c : Condition}

/-- A condition says the same whatever is said by filters that it does not consult. -/
theorem test?_congr (h : ∀ g, s.consulted? f c = some g → sub g = sub' g) :
    s.test? sub f c = s.test? sub' f c := by
  unfold consulted? FilterSet.consulted? at h
  unfold test?
  split
  next => rfl
  next => rfl
  next => rfl
  next present id hpayload =>
    rw [hpayload] at h
    split
    next hrelates =>
      cases hg : s.filters.get? id with
      | none => rfl
      | some g =>
        by_cases hobject : s.schema.objectCompatible c.reference g.entityType = true
        · have same : sub g = sub' g := h g (by simp [hrelates, hg, hobject])
          simp only [Option.map_some, same]
        · simp [hobject]
    next => rfl
  next => rfl
  next hpayload =>
    rw [hpayload] at h
    cases hg : s.filters.get? c.reference with
    | none => rfl
    | some g =>
      by_cases htype : g.entityType = f.entityType
      · have same : sub g = sub' g := h g (by simp [hg, htype])
        simp only [Option.map_some, same]
      · simp [htype]
  next => rfl

/-- Whether a condition says something is not for other filters to decide. -/
theorem isSome_test? (sub sub' : Filter → Record → Bool) (f : Filter) (c : Condition) :
    (s.test? sub f c).isSome = (s.test? sub' f c).isSome := by
  unfold test?
  split
  next => rfl
  next => rfl
  next => rfl
  next =>
    split
    next => rw [Option.isSome_map, Option.isSome_map]
    next => rfl
  next => rfl
  next => rw [Option.isSome_map, Option.isSome_map]
  next => rfl

theorem satisfies_congr (h : ∀ g ∈ s.consulted f, sub g = sub' g) :
    s.satisfies sub f = s.satisfies sub' f := by
  have same : f.conditions.filterMap (s.test? sub f) = f.conditions.filterMap (s.test? sub' f) :=
    List.filterMap_congr fun c hc =>
      test?_congr fun g hg => h g (List.mem_filterMap.2 ⟨c, hc, hg⟩)
  unfold satisfies
  rw [same]

/-- **A filter has at most one meaning.** -/
theorem Means.unique {m m' : Record → Bool} (h : s.Means f m) (h' : s.Means f m') : m = m' := by
  induction h generalizing m' with
  | of sub _ ih =>
    cases h' with
    | of sub' hsub' => exact satisfies_congr fun g hg => ih g hg (hsub' g hg)

end Setting

end RecordFilters
