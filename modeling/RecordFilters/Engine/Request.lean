import RecordFilters.Condition.Stored
import RecordFilters.Filter.Stored

/-! # Requests

What a user asks of an engine: a new filter, or a change of some parts of a filter. -/

namespace RecordFilters

open Document

/-- A filter to be made. Without an id it gets a new one. -/
structure FilterRequest where
  id : Option FilterId := none
  name : String
  entityType : String
  filterType : FilterType := .regular
  useOr : Bool := false
  ownership : Ownership := .everyone
  conditions : List Descriptor := []

namespace FilterRequest

/-- A request for a public filter; the owner is not part of the document. -/
def ofJson? (j : Json) : Option FilterRequest := do
  let parts ← parts? ["id", "name", "entity_type", "filter_type", "use_or", "conditions"] j
  some {
    id := ← parts.optional "id" text?
    name := ← parts.required "name" text?
    entityType := ← parts.required "entity_type" text?
    filterType := ⟨← parts.orDefault "filter_type" FilterType.regular.id text?⟩
    useOr := ← parts.orDefault "use_or" false flag?
    conditions := ← parts.required "conditions" (listOf? Descriptor.ofJson?) }

def toJson (r : FilterRequest) : Json :=
  .object [("id", .ofOption .string r.id), ("name", .string r.name),
    ("entity_type", .string r.entityType), ("filter_type", .string r.filterType.id),
    ("use_or", .bool r.useOr), ("conditions", .array (r.conditions.map Descriptor.toJson))]

end FilterRequest

/-- The parts of a filter that are to change. -/
structure FilterUpdate where
  name : Option String := none
  ownership : Option Ownership := none
  /-- All conditions, and whether one of them suffices. -/
  conditions : Option (List Descriptor × Bool) := none

def FilterUpdate.isEmpty (u : FilterUpdate) : Bool :=
  u.name.isNone && u.ownership.isNone && u.conditions.isNone

end RecordFilters
