import RecordFilters.Schema.Basic
import RecordFilters.Document

/-! # Schemas as JSON

How fields, relation types, property types and whole schemas are read and written. -/

namespace RecordFilters

open Json Document

def FieldKind.ofJson? (j : Json) : Option FieldKind :=
  (bareCase? j).bind fun s => FieldKind.all.find? (·.name = s)

def CustomKind.ofJson? (j : Json) : Option CustomKind :=
  (bareCase? j).bind fun s => CustomKind.all.find? (·.name = s)

def Uuid.ofJson? (j : Json) : Option Uuid := (text? j).bind Uuid.ofText?

namespace Field

def ofJson? (j : Json) : Option Field := do
  let parts ← parts? ["name", "kind", "filterable", "related_type"] j
  some {
    name := ← parts.required "name" text?
    kind := ← parts.required "kind" FieldKind.ofJson?
    filterable := ← parts.orDefault "filterable" true flag?
    relatedType := ← parts.optional "related_type" text? }

def toJson (f : Field) : Json :=
  .object ([("name", .string f.name), ("kind", .string f.kind.name),
    ("filterable", .bool f.filterable)] ++
    f.relatedType.toList.map fun t => ("related_type", .string t))

end Field

namespace CustomField

def ofJson? (j : Json) : Option CustomField := do
  let parts ← parts? ["id", "entity_type", "name", "kind", "deleted", "choices"] j
  some {
    id := ← parts.required "id" Uuid.ofJson?
    entityType := ← parts.required "entity_type" text?
    name := ← parts.required "name" text?
    kind := ← parts.required "kind" CustomKind.ofJson?
    deleted := ← parts.orDefault "deleted" false flag?
    choices := ← parts.orDefault "choices" [] texts? }

def toJson (f : CustomField) : Json :=
  .object [("id", .string f.id.toText), ("entity_type", .string f.entityType),
    ("name", .string f.name), ("kind", .string f.kind.name), ("deleted", .bool f.deleted),
    ("choices", ofStrings f.choices)]

end CustomField

def RelationType.ofJson? (j : Json) : Option RelationType := do
  let parts ← parts? ["id", "subject_types", "object_types"] j
  some {
    id := ← parts.required "id" text?
    subjectTypes := ← parts.orDefault "subject_types" [] texts?
    objectTypes := ← parts.orDefault "object_types" [] texts? }

def PropertyType.ofJson? (j : Json) : Option PropertyType := do
  let parts ← parts? ["id", "subject_types"] j
  some {
    id := ← parts.required "id" text?
    subjectTypes := ← parts.orDefault "subject_types" [] texts? }

/-- An entity type as a pair of its name and its fields. -/
def EntityType.ofJson? : Json → Option (String × List Field)
  | .array [name, fields] => do some (← text? name, ← listOf? Field.ofJson? fields)
  | _ => none

/-- A schema, its parts applied in the order in which they stand. -/
def Schema.ofJson? (j : Json) : Option Schema := do
  let parts ← parts? ["entity_types", "custom_fields", "relation_types", "property_types"] j
  let types ← parts.orDefault "entity_types" [] (listOf? EntityType.ofJson?)
  let fields ← parts.orDefault "custom_fields" [] (listOf? CustomField.ofJson?)
  let relations ← parts.orDefault "relation_types" [] (listOf? RelationType.ofJson?)
  let properties ← parts.orDefault "property_types" [] (listOf? PropertyType.ofJson?)
  let s : Schema := types.foldl (fun s (name, fields) => s.addEntityType name fields) {}
  let s := fields.foldl Schema.addCustomField s
  let s := relations.foldl Schema.addRelationType s
  some (properties.foldl Schema.addPropertyType s)

end RecordFilters
