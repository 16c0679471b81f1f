import RecordFilters.Schema.Field

/-! # Schemas

The entity types with their fields, and the custom fields, relation types and property types that
conditions may refer to. A schema may lose any of them while filters that use them stay stored. -/

namespace RecordFilters

/-- Whether a list of entity types admits one; the empty list admits all. -/
def admits (types : List String) (entityType : String) : Bool :=
  types.isEmpty || types.contains entityType

/-- A relation that records may be the subject of. -/
structure RelationType where
  id : String
  subjectTypes : List String := []
  objectTypes : List String := []
  deriving DecidableEq

namespace RelationType

def acceptsSubject (r : RelationType) (entityType : String) : Bool :=
  admits r.subjectTypes entityType

def acceptsObject (r : RelationType) (entityType : String) : Bool :=
  admits r.objectTypes entityType

end RelationType

/-- A property that records may carry. -/
structure PropertyType where
  id : String
  subjectTypes : List String := []
  deriving DecidableEq

namespace PropertyType

def accepts (p : PropertyType) (entityType : String) : Bool := admits p.subjectTypes entityType

end PropertyType

structure EntityType where
  name : String
  fields : Index Field.name
  deriving DecidableEq

structure Schema where
  entityTypes : Index EntityType.name := ∅
  customFields : Index CustomField.id := ∅
  relationTypes : Index RelationType.id := ∅
  propertyTypes : Index PropertyType.id := ∅
  deriving DecidableEq

namespace Schema

def hasEntityType (s : Schema) (entityType : String) : Bool := s.entityTypes.contains entityType

def field? (s : Schema) (entityType name : String) : Option Field :=
  (s.entityTypes.get? entityType).bind (·.fields.get? name)

/-- A custom field by its identity, deleted ones included. -/
def customField? (s : Schema) (id : Uuid) : Option CustomField := s.customFields.get? id

def relationType? (s : Schema) (id : String) : Option RelationType := s.relationTypes.get? id

def propertyType? (s : Schema) (id : String) : Option PropertyType := s.propertyTypes.get? id

/-- The entity types whose records may be the object of a relation. -/
def compatibleTypes (s : Schema) (relation : String) : List String :=
  match s.relationType? relation with
  | some r => s.entityTypes.keys.filter r.acceptsObject
  | none => []

/-- Whether records of an entity type may be the object of a relation. -/
def objectCompatible (s : Schema) (relation entityType : String) : Bool :=
  (s.compatibleTypes relation).contains entityType

/-! ### Changes -/

/-- Declares an entity type, or adds fields to it. -/
def addEntityType (s : Schema) (name : String) (fields : List Field) : Schema :=
  let known := ((s.entityTypes.get? name).map EntityType.fields).getD ∅
  { s with entityTypes := s.entityTypes.insert ⟨name, known.insertAll fields⟩ }

def addCustomField (s : Schema) (field : CustomField) : Schema :=
  { s with customFields := s.customFields.insert field }

def addRelationType (s : Schema) (r : RelationType) : Schema :=
  { s with relationTypes := s.relationTypes.insert r }

def addPropertyType (s : Schema) (p : PropertyType) : Schema :=
  { s with propertyTypes := s.propertyTypes.insert p }

/-- Takes a field out of an entity type, and whether there was one. -/
def removeField (s : Schema) (entityType name : String) : Bool × Schema :=
  ((s.field? entityType name).isSome,
    { s with entityTypes :=
        s.entityTypes.modify entityType fun e => { e with fields := e.fields.erase name } })

/-- Marks a custom field as deleted, and whether there is one; it keeps its identity. -/
def markCustomFieldDeleted (s : Schema) (id : Uuid) : Bool × Schema :=
  (s.customFields.contains id,
    { s with customFields := s.customFields.modify id fun f => { f with deleted := true } })

/-- Takes a custom field out, and whether there was one. -/
def removeCustomField (s : Schema) (id : Uuid) : Bool × Schema :=
  (s.customFields.contains id, { s with customFields := s.customFields.erase id })

/-- Takes a relation type out, and whether there was one. -/
def removeRelationType (s : Schema) (id : String) : Bool × Schema :=
  (s.relationTypes.contains id, { s with relationTypes := s.relationTypes.erase id })

/-- Takes a property type out, and whether there was one. -/
def removePropertyType (s : Schema) (id : String) : Bool × Schema :=
  (s.propertyTypes.contains id, { s with propertyTypes := s.propertyTypes.erase id })

end Schema

end RecordFilters
