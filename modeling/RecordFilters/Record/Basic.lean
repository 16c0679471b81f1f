import RecordFilters.Predicate.Basic

/-! # Records

A record belongs to an entity type and has values in regular and custom fields, relations to other
records of which it is the subject, and properties. -/

namespace RecordFilters

abbrev RecordId := String

structure Record where
  id : RecordId
  entityType : String
  fields : Index (Prod.fst : String × Value → String) := ∅
  customFields : Index (Prod.fst : Uuid × Value → Uuid) := ∅
  /-- Relation types, each with the object. -/
  relations : List (String × RecordId) := []
  properties : NameSet := ∅

namespace Record

/-- What a comparison reads; a field without a value is null. -/
def value (r : Record) : Target → Value
  | .field name => ((r.fields.get? name).map Prod.snd).getD .null
  | .custom id => ((r.customFields.get? id).map Prod.snd).getD .null

end Record

/-- Records by id. -/
abbrev RecordSet := Index Record.id

end RecordFilters
