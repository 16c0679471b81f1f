import RecordFilters.Handler.Basic

/-! # Conditions on relations and properties

Whether a record is the subject of a relation, to any object, to one, to objects of a type or to
objects that another filter selects; and whether it carries a property. -/

namespace RecordFilters.Handler

/-- A relation type that records of an entity type may be the subject of. -/
def relationType (schema : Schema) (entityType id : String) : Except FilterError RelationType :=
  match schema.relationType? id with
  | none => .error (.config id .unknownRelationType)
  | some r =>
    if r.acceptsSubject entityType then .ok r
    else .error (.config id (.notRelationSubject entityType))

/-- The object that a request narrows a relation to: its id and its type, one of which is there if
the value is. -/
def readObject (reference : String) :
    Option Value → Except FilterError (Option String × Option String)
  | none | some .null => .ok (none, none)
  | some (.object members) =>
    let object := Value.object members
    let id := (object.member? "entity_id").bind Value.text?
    let entityType := (object.member? "entity_type").bind Value.text?
    if id.isNone && entityType.isNone then
      .error (.validation .relationObjectEmpty [reference])
    else .ok (id, entityType)
  | some v => .error (.validation (.relationObject v) [reference])

def validateRelation (scope : BuildScope) (d : Descriptor) : Except FilterError Payload := do
  let _ ← relationType scope.schema scope.entityType d.reference
  d.ensureNoOperator
  d.ensureValueCount 2
  let present ← d.presence
  let (id, entityType) ← readObject d.reference d.values[1]?
  match entityType with
  | some t =>
    if !scope.schema.objectCompatible d.reference t then
      throw (.config d.reference (.notRelationObject t))
  | none => pure ()
  return .relation present id entityType

def relationPredicate (scope : PredicateScope) (c : Condition) : Evaluation Predicate :=
  match c.payload with
  | .relation present id entityType => do
    let _ ← Evaluation.ofExcept (relationType scope.schema scope.entityType c.reference)
    let object : ObjectTest := match id, entityType with
      | some id, _ => .entity id
      | none, some t => .ofType t
      | none, none => .any
    return (Predicate.related c.reference object).when present
  | _ => throw c.foreignPayload

/-- The filter id of a request for a relation to what another filter selects. -/
def readSubFilterId (d : Descriptor) : Except FilterError FilterId :=
  match d.values with
  | [_, v] =>
    match v.text? with
    | some id => .ok id
    | none => .error (.validation .relationSubFilterValues [d.reference])
  | _ => .error (.validation .relationSubFilterValues [d.reference])

def validateRelationSubFilter (scope : BuildScope) (d : Descriptor) :
    Except FilterError Payload := do
  let _ ← relationType scope.schema scope.entityType d.reference
  d.ensureNoOperator
  let present ← d.presence
  let id ← readSubFilterId d
  match scope.filters.get? id with
  | none => throw (.config id .noSubFilter)
  | some sub =>
    if !scope.schema.objectCompatible d.reference sub.entityType then
      throw (.config id (.notRelationObjectFilter sub.entityType d.reference))
    if sub.filterType ≠ scope.filterType then
      throw (.config id (.subFilterOfOtherType sub.filterType scope.filterType))
    return .relationSubFilter present id

/-- The relation to records of a type that satisfy a predicate. -/
def relatedTo (relation entityType : String) : Predicate → Predicate
  | .never => .never
  | .always => .related relation (.ofType entityType)
  | p => .relatedMatching relation entityType p

/-- Where the filter selects records that cannot be objects of the relation, nothing matches. -/
def relationSubFilterPredicate (scope : PredicateScope) (c : Condition) : Evaluation Predicate :=
  match c.payload with
  | .relationSubFilter present id => do
    let _ ← Evaluation.ofExcept (relationType scope.schema scope.entityType c.reference)
    let sub ← Evaluation.ofExcept (scope.subFilter id)
    if !scope.schema.objectCompatible c.reference sub.entityType then return .never
    return (relatedTo c.reference sub.entityType (← scope.nested sub)).when present
  | _ => throw c.foreignPayload

/-! ### Properties -/

/-- A property type that records of an entity type may carry. -/
def propertyType (schema : Schema) (entityType id : String) : Except FilterError PropertyType :=
  match schema.propertyType? id with
  | none => .error (.config id .unknownPropertyType)
  | some p =>
    if p.accepts entityType then .ok p else .error (.config id (.propertyNotCarried entityType))

def validateProperty (scope : BuildScope) (d : Descriptor) : Except FilterError Payload := do
  let _ ← propertyType scope.schema scope.entityType d.reference
  d.ensureNoOperator
  d.ensureValueCount 1
  return .property (← d.presence)

def propertyPredicate (scope : PredicateScope) (c : Condition) : Evaluation Predicate :=
  match c.payload with
  | .property present => do
    let _ ← Evaluation.ofExcept (propertyType scope.schema scope.entityType c.reference)
    return (Predicate.hasProperty c.reference).when present
  | _ => throw c.foreignPayload

/-! ### Other filters -/

def validateSubFilter (scope : BuildScope) (d : Descriptor) : Except FilterError Payload := do
  d.ensureNoOperator
  d.ensureValueCount 0
  match scope.filters.get? d.reference with
  | none => throw (.config d.reference .noSubFilter)
  | some sub =>
    if sub.entityType ≠ scope.entityType then
      throw (.config d.reference (.subFilterOfOtherEntity sub.entityType scope.entityType))
    if sub.filterType ≠ scope.filterType then
      throw (.config d.reference (.subFilterOfOtherType sub.filterType scope.filterType))
    return .subFilter

/-- Where the filter selects records of another type, nothing matches. -/
def subFilterPredicate (scope : PredicateScope) (c : Condition) : Evaluation Predicate :=
  match c.payload with
  | .subFilter => do
    let sub ← Evaluation.ofExcept (scope.subFilter c.reference)
    if sub.entityType ≠ scope.entityType then return .never
    scope.nested sub
  | _ => throw c.foreignPayload

end RecordFilters.Handler
