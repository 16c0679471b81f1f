import RecordFilters.Condition.Kind
import RecordFilters.Calendar.Range
import RecordFilters.Value
import RecordFilters.Uuid

/-! # Conditions

A condition is one test of a filter: a kind, a reference (the name of a field, the identity of a
custom field, a relation or property type, another filter) and a payload of the shape that the kind
requires. That the shape fits is part of the type, so no condition with a foreign payload exists. -/

namespace RecordFilters

abbrev FilterId := String

/-- The number under which an operator is stored. -/
abbrev OperatorId := UInt16

/-- What a condition holds besides its kind and reference. -/
inductive Payload
  /-- A comparison of a regular or custom field; values may name operands. -/
  | comparison (operator : OperatorId) (values : List Value)
  /-- A range for a regular or custom date field. -/
  | dates (range : DateRange)
  /-- Whether a relation exists, to one object or to objects of one type if these are given. -/
  | relation (present : Bool) (object objectType : Option String)
  /-- Whether a relation exists to an object that another filter selects. -/
  | relationSubFilter (present : Bool) (filter : FilterId)
  /-- Whether a property is carried. -/
  | property (present : Bool)
  /-- Nothing: the reference names the other filter. -/
  | subFilter
  /-- The payload of an extension. -/
  | raw (document : Json)

/-- Whether a payload has the shape that a kind requires. -/
def Payload.fits : Payload → ConditionKind → Bool
  | .comparison .., .field | .comparison .., .customField => true
  | .dates _, .dateField | .dates _, .dateCustomField => true
  | .relation .., .relation => true
  | .relationSubFilter .., .relationSubFilter => true
  | .property _, .property => true
  | .subFilter, .subFilter => true
  | .raw _, .other .. => true
  | _, _ => false

/-- One test of a filter. -/
structure Condition where
  kind : ConditionKind
  reference : String
  payload : Payload
  fits : payload.fits kind = true

/-- A raw request for a condition. What its values have to be depends on the kind: the operands of
an operator, the name of a date range or two bounds, flags and objects of a relation. -/
structure Descriptor where
  kind : ConditionKind
  reference : String
  operator : Option OperatorId := none
  values : List Value := []

/-- The values that describe a date range. -/
def DateRange.describe : DateRange → List Value
  | .named range => [.text range.name]
  | .custom start stop => [.ofDay? start, .ofDay? stop]

namespace Condition

/-- The filter that a condition points at. -/
def subFilterId? (c : Condition) : Option FilterId :=
  match c.kind, c.payload with
  | .subFilter, _ => some c.reference
  | _, .relationSubFilter _ filter => some filter
  | _, _ => none

/-- The custom field that a condition tests. -/
def customFieldId? (c : Condition) : Option Uuid :=
  match c.kind with
  | .customField | .dateCustomField => Uuid.ofText? c.reference
  | _ => none

/-- The request that describes a condition; the payload of an extension has none. -/
def descriptor? (c : Condition) : Option Descriptor :=
  let describe (operator : Option OperatorId) (values : List Value) : Option Descriptor :=
    some ⟨c.kind, c.reference, operator, values⟩
  match c.payload with
  | .comparison operator values => describe (some operator) values
  | .dates range => describe none range.describe
  | .relation present object objectType =>
    let members := object.toList.map (fun s => ("entity_id", Value.text s)) ++
      objectType.toList.map fun s => ("entity_type", Value.text s)
    describe none (.bool present :: if members.isEmpty then [] else [.object members])
  | .relationSubFilter present filter => describe none [.bool present, .text filter]
  | .property present => describe none [.bool present]
  | .subFilter => describe none []
  | .raw _ => none

theorem subFilterId?_eq_some_iff {c : Condition} {id : FilterId} :
    c.subFilterId? = some id ↔ (c.payload = .subFilter ∧ c.reference = id) ∨
      ∃ present, c.payload = .relationSubFilter present id := by
  obtain ⟨kind, reference, payload, fits⟩ := c
  cases kind <;> cases payload <;> cases fits <;> simp [subFilterId?]

/-! ### Short forms of conditions -/

def onProperty (type : String) (present : Bool) : Condition :=
  ⟨.property, type, .property present, rfl⟩

def onSubFilter (filter : FilterId) : Condition := ⟨.subFilter, filter, .subFilter, rfl⟩

def onRelationSubFilter (type : String) (present : Bool) (filter : FilterId) : Condition :=
  ⟨.relationSubFilter, type, .relationSubFilter present filter, rfl⟩

/-- One condition is enough for a filter. -/
theorem singleton_ne_nil (c : Condition) : [c] ≠ [] := List.cons_ne_nil c []

theorem onProperty_ne_nil (type : String) (present : Bool) : [onProperty type present] ≠ [] :=
  singleton_ne_nil _

theorem onSubFilter_ne_nil (filter : FilterId) : [onSubFilter filter] ≠ [] :=
  singleton_ne_nil _

end Condition

/-! ### Short forms of requests -/

namespace Descriptor

def field (name : String) (operator : OperatorId) (values : List Value) : Descriptor :=
  ⟨.field, name, some operator, values⟩

def dateField (name : String) (range : DateRange) : Descriptor :=
  ⟨.dateField, name, none, range.describe⟩

def customField (id : Uuid) (operator : OperatorId) (values : List Value) : Descriptor :=
  ⟨.customField, id.toText, some operator, values⟩

def dateCustomField (id : Uuid) (range : DateRange) : Descriptor :=
  ⟨.dateCustomField, id.toText, none, range.describe⟩

def relation (type : String) (present : Bool) : Descriptor :=
  ⟨.relation, type, none, [.bool present]⟩

def relationTo (type : String) (present : Bool) (object : String) : Descriptor :=
  ⟨.relation, type, none, [.bool present, .object [("entity_id", .text object)]]⟩

def relationToType (type : String) (present : Bool) (objectType : String) : Descriptor :=
  ⟨.relation, type, none, [.bool present, .object [("entity_type", .text objectType)]]⟩

def relationSubFilter (type : String) (present : Bool) (filter : FilterId) : Descriptor :=
  ⟨.relationSubFilter, type, none, [.bool present, .text filter]⟩

def property (type : String) (present : Bool) : Descriptor :=
  ⟨.property, type, none, [.bool present]⟩

def subFilter (filter : FilterId) : Descriptor := ⟨.subFilter, filter, none, []⟩

end Descriptor

end RecordFilters
