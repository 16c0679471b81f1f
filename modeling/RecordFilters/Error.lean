import RecordFilters.Filter.Basic
import RecordFilters.Operator

/-! # Rejected requests

Every failure of a filter request is one of four: something the schema or the catalogs do not have
(`config`), a request that breaks a rule (`validation`), a filter that others still need
(`conflict`), or a failed read of the records (`storage`). The causes are told apart by type; their
wording is here and nowhere else. -/

namespace RecordFilters

/-- What is absent or does not fit the schema or the catalogs. -/
inductive ConfigFault
  | noRegistry
  | unknownEntityType
  | kindNotAllowed (kind : ConditionKind) (filterType : FilterType)
  | noHandler (kind : ConditionKind)
  | noSuchField (entityType : String)
  | fieldNotFilterable
  | notDateField (kind : FieldKind)
  | notCustomFieldId
  | unknownCustomField
  | foreignCustomField (owner entityType : String)
  | customFieldDeleted
  | notDateCustomField (kind : CustomKind)
  | dateCustomField
  | operatorOnKind (operator : String) (kind : FieldKind)
  | operatorOnCustomKind (operator : String) (kind : CustomKind)
  | unknownOperator (id : OperatorId)
  | unknownPropertyType
  | propertyNotCarried (entityType : String)
  | unknownRelationType
  | notRelationSubject (entityType : String)
  | notRelationObject (entityType : String)
  | notRelationObjectFilter (entityType relation : String)
  | noSubFilter
  | subFilterOfOtherEntity (found expected : String)
  | subFilterOfOtherType (found expected : FilterType)
  | foreignPayload (kind : ConditionKind)
  | outsideCalendar
  /-- The cause of an extension, in its own words. -/
  | custom (message : String)
  deriving DecidableEq

namespace ConfigFault

def message : ConfigFault → String
  | noRegistry => "no registry for this filter type"
  | unknownEntityType => "unknown entity type"
  | kindNotAllowed kind filterType =>
    s!"{kind.name} conditions are not allowed in {filterType.id} filters"
  | noHandler kind => s!"no handler registered for {kind.name} conditions"
  | noSuchField entityType => s!"'{entityType}' has no such field"
  | fieldNotFilterable => "this field is not filterable"
  | notDateField kind => s!"expected a date field, found a {kind.name} field"
  | notCustomFieldId => "not a custom field identifier"
  | unknownCustomField => "unknown custom field"
  | foreignCustomField owner entityType => s!"custom field belongs to '{owner}', not '{entityType}'"
  | customFieldDeleted => "this custom field has been deleted"
  | notDateCustomField kind => s!"expected a date custom field, found {kind.title}"
  | dateCustomField => "date custom fields take a date range condition"
  | operatorOnKind operator kind => s!"operator '{operator}' cannot be used on {kind.name} fields"
  | operatorOnCustomKind operator kind =>
    s!"operator '{operator}' cannot be used on {kind.title} custom fields"
  | unknownOperator id => s!"unknown operator {id.toNat}"
  | unknownPropertyType => "unknown property type"
  | propertyNotCarried entityType => s!"'{entityType}' entities cannot carry this property"
  | unknownRelationType => "unknown relation type"
  | notRelationSubject entityType => s!"'{entityType}' cannot be the subject of this relation"
  | notRelationObject entityType => s!"'{entityType}' cannot be the object of this relation"
  | notRelationObjectFilter entityType relation =>
    s!"filters on '{entityType}' cannot be the object of relation '{relation}'"
  | noSubFilter => "the sub-filter does not exist"
  | subFilterOfOtherEntity found expected =>
    s!"the sub-filter selects '{found}' entities, expected '{expected}'"
  | subFilterOfOtherType found expected =>
    s!"the sub-filter is a {found.id} filter, expected {expected.id}"
  | foreignPayload kind => s!"stored value does not match a {kind.name} condition"
  | outsideCalendar => "date range falls outside the calendar"
  | custom message => message

end ConfigFault

/-- Which rule a request breaks. -/
inductive ValidationFault
  | noConditions
  | payloadShape (kind : ConditionKind)
  | operatorMissing
  | unknownOperator (id : OperatorId)
  | operatorNotTaken (kind : ConditionKind) (id : OperatorId)
  | tooManyValues (kind : ConditionKind) (most count : Nat)
  | flagMissing (kind : ConditionKind)
  | valueCount (operator : String) (arity : Arity) (count : Nat)
  | notFlag (operator : String)
  | operandNotAllowed (typeId : String) (filterType : FilterType)
  | operandMisplaced (operand operator : String)
  | notOfKind (value : Value) (kind : FieldKind)
  | unknownChoice (value : Value)
  | reversedRange
  | rangeNameNotText
  | unknownRange (name : String)
  | badStart
  | badEnd
  | noBound
  | startAfterEnd
  | dateValues
  | relationObject (value : Value)
  | relationObjectEmpty
  | relationSubFilterValues
  | tooDeep (maxDepth : Nat)
  | cycle
  | systemPrivate
  | unknownOwner
  | ownerIsOther
  | unknownTeam
  | teamIsOther
  | subFilterNotShared (owner : Ownership) (id : FilterId) (sub : Ownership)
  | denied (why : Denial)
  /-- The cause of an extension, in its own words. -/
  | custom (message : String)

namespace ValidationFault

def message : ValidationFault → String
  | noConditions => "no conditions"
  | payloadShape kind => s!"value shape does not match condition kind {kind.name}"
  | operatorMissing => "field conditions need an operator"
  | unknownOperator id => s!"unknown operator {id.toNat}"
  | operatorNotTaken kind id => s!"{kind.name} conditions take no operator (got {id.toNat})"
  | tooManyValues kind most count =>
    s!"{kind.name} conditions take at most {most} value(s), got {count}"
  | flagMissing kind => s!"{kind.name} conditions need a boolean 'has' value"
  | valueCount operator arity count =>
    s!"operator '{operator}' expects {arity.describe}, got {count} value(s)"
  | notFlag operator => s!"operator '{operator}' expects a boolean"
  | operandNotAllowed typeId filterType =>
    s!"operand '{typeId}' is not allowed in {filterType.id} filters"
  | operandMisplaced operand operator =>
    s!"operand '{operand}' cannot be used with operator '{operator}' here"
  | notOfKind value kind => s!"{value.typeName} value {value.quoted} is not a valid {kind.name}"
  | unknownChoice value => s!"{value.quoted} is not a known choice"
  | reversedRange => "range lower bound is above its upper bound"
  | rangeNameNotText => "named range must be a string"
  | unknownRange name => s!"unknown date range '{name}'"
  | badStart => "invalid start date"
  | badEnd => "invalid end date"
  | noBound => "a date range needs at least one bound"
  | startAfterEnd => "start date is after end date"
  | dateValues => "date conditions take a named range or two bounds"
  | relationObject value => s!"unexpected relation object {value.quoted}"
  | relationObjectEmpty => "relation object needs an 'entity_id' or an 'entity_type'"
  | relationSubFilterValues => "relation sub-filter conditions take [has, filter_id]"
  | tooDeep maxDepth => s!"sub-filters nested deeper than {maxDepth} levels"
  | cycle => "cycle with a sub-filter"
  | systemPrivate => "system filters cannot be private"
  | unknownOwner => "the owner does not exist"
  | ownerIsOther => "a private filter can only be assigned to yourself"
  | unknownTeam => "the team does not exist"
  | teamIsOther => "a private filter can only be assigned to one of your teams"
  | subFilterNotShared owner id sub =>
    s!"a {owner.describe} filter cannot use the sub-filter '{id}' ({sub.describe})"
  | denied why => why.message
  | custom message => message

end ValidationFault

/-- What others still need of a filter. -/
inductive ConflictFault
  /-- Filters could no longer use the filter under its new owner. -/
  | ownershipInUse (id : FilterId) (owner : Ownership)
  | filterInUse (id : FilterId)
  /-- The cause of an extension, in its own words. -/
  | custom (message : String)
  deriving DecidableEq

def ConflictFault.message : ConflictFault → String
  | ownershipInUse id owner =>
    s!"filters using '{id}' could no longer reference it once {owner.describe}"
  | filterInUse id => s!"filter '{id}' is still in use"
  | custom message => message

/-- A rejected filter request. -/
inductive FilterError
  | config (subject : String) (fault : ConfigFault)
  | validation (fault : ValidationFault) (elements : List String)
  | conflict (fault : ConflictFault) (dependents : List String)
  | storage (message : String)

namespace FilterError

def isConfig : FilterError → Bool
  | config .. => true
  | _ => false

def isValidation : FilterError → Bool
  | validation .. => true
  | _ => false

def isConflict : FilterError → Bool
  | conflict .. => true
  | _ => false

/-- The whole message. -/
def message : FilterError → String
  | config subject fault => s!"Configuration error on '{subject}': {fault.message}"
  | validation fault _ => s!"Validation error: {fault.message}"
  | conflict fault dependents =>
    s!"Conflict: {fault.message} (dependents: " ++ String.intercalate ", " dependents ++ ")"
  | storage message => s!"Storage error: {message}"

end FilterError

/-- A filter that has conditions. -/
def Filter.ensureConditions : Option Filter → Except FilterError Filter
  | some f => .ok f
  | none => .error (.validation .noConditions [])

/-- Access that is not granted is a rejected request for the filter. -/
def Access.ensure (a : Access) (id : FilterId) : Except FilterError Unit :=
  match a with
  | .granted => .ok ()
  | .denied why => .error (.validation (.denied why) [id])

end RecordFilters
