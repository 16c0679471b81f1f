import RecordFilters.Handler.Date
import RecordFilters.Handler.Relation

/-! # Catalogs

What an engine knows besides its data: operators, operands, handlers and a registry for each type of
filter. `Catalogs.build` turns a request for a condition into a condition, or rejects it. -/

namespace RecordFilters

/-- Handlers by kind. -/
abbrev HandlerCatalog := Index Handler.kind

/-- Registries by filter type. -/
abbrev RegistryCatalog := Index Registry.filterType

namespace Handler

/-- The handler of a kind of this library. -/
def builtin : List Handler :=
  [⟨.field, validateField, fieldPredicate⟩,
    ⟨.dateField, validateDateField, dateFieldPredicate⟩,
    ⟨.customField, validateCustomField, customFieldPredicate⟩,
    ⟨.dateCustomField, validateDateCustomField, dateCustomFieldPredicate⟩,
    ⟨.relation, validateRelation, relationPredicate⟩,
    ⟨.relationSubFilter, validateRelationSubFilter, relationSubFilterPredicate⟩,
    ⟨.property, validateProperty, propertyPredicate⟩,
    ⟨.subFilter, validateSubFilter, subFilterPredicate⟩]

end Handler

structure Catalogs where
  operators : OperatorCatalog := .standard
  operands : OperandCatalog := .standard
  handlers : HandlerCatalog := .ofList Handler.builtin
  registries : RegistryCatalog := .ofList [.regular, .credentials]

namespace Catalogs

def standard : Catalogs := {}

/-- The registry of a filter type. -/
def registry (c : Catalogs) (t : FilterType) : Except FilterError Registry :=
  match c.registries.get? t with
  | some r => .ok r
  | none => .error (.config t.id .noRegistry)

/-- The handler of a kind of condition. -/
def handler (c : Catalogs) (kind : ConditionKind) (reference : String) :
    Except FilterError Handler :=
  match c.handlers.get? kind with
  | some h => .ok h
  | none => .error (.config reference (.noHandler kind))

end Catalogs

/-- A condition of a kind with a payload, if the payload has the right shape. -/
def Condition.make (kind : ConditionKind) (reference : String) (payload : Payload) :
    Except FilterError Condition :=
  if h : payload.fits kind = true then .ok ⟨kind, reference, payload, h⟩
  else .error (.validation (.payloadShape kind) [reference])

/-- The kinds that filters of a type may hold. -/
def Registry.ensureAllows (r : Registry) (kind : ConditionKind) (reference : String) :
    Except FilterError Unit :=
  if r.allows kind then .ok ()
  else .error (.config reference (.kindNotAllowed kind r.filterType))

namespace Catalogs

/-- The condition for a request in a filter of a type on an entity type. -/
def build (c : Catalogs) (schema : Schema) (filters : FilterSet) (filterType : FilterType)
    (entityType : String) (d : Descriptor) : Except FilterError Condition := do
  let registry ← c.registry filterType
  if !schema.hasEntityType entityType then throw (.config entityType .unknownEntityType)
  registry.ensureAllows d.kind d.reference
  let handler ← c.handler d.kind d.reference
  let payload ← handler.validate
    ⟨entityType, registry, c.operators, c.operands, schema, filters⟩ d
  Condition.make d.kind d.reference payload

/-- The conditions for a list of requests; the first that is rejected rejects them all. -/
def buildAll (c : Catalogs) (schema : Schema) (filters : FilterSet) (filterType : FilterType)
    (entityType : String) (ds : List Descriptor) : Except FilterError (List Condition) :=
  ds.mapM (c.build schema filters filterType entityType)

end Catalogs

end RecordFilters
