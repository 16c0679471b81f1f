import RecordFilters.Record.Basic
import RecordFilters.Schema.Stored
import RecordFilters.Directory

/-! # Records as JSON

A record as an object; fields, relations and properties may be left out. -/

namespace RecordFilters

open Json Document

namespace Record

/-- The members of an object as values. -/
def values? : Json → Option (List (String × Value))
  | .object members => some (members.map fun (name, j) => (name, Value.ofJson j))
  | _ => none

/-- A relation as a pair of its type and the object. -/
def relation? : Json → Option (String × RecordId)
  | .array [kind, id] => do some (← text? kind, ← text? id)
  | _ => none

def ofJson? (j : Json) : Option Record := do
  let parts ← parts? ["id", "entity_type", "fields", "custom_fields", "relations", "properties"] j
  let custom ← parts.orDefault "custom_fields" [] values?
  some {
    id := ← parts.required "id" text?
    entityType := ← parts.required "entity_type" text?
    fields := .ofList (← parts.orDefault "fields" [] values?)
    customFields := .ofList (← custom.mapM fun (id, v) => do some (← Uuid.ofText? id, v))
    relations := ← parts.orDefault "relations" [] (listOf? relation?)
    properties := ← parts.orDefault "properties" ∅ NameSet.ofJson? }

end Record

end RecordFilters
