import RecordFilters.Handler.Basic

/-! # Conditions on fields

Comparisons of regular and custom fields. The operator must suit the kind of the field, and the
values are brought into the form in which the field holds them. -/

namespace RecordFilters.Handler

/-- The filterable regular field with a name. -/
def regularField (schema : Schema) (entityType name : String) : Except FilterError Field :=
  match schema.field? entityType name with
  | none => .error (.config name (.noSuchField entityType))
  | some field =>
    if field.isFilterable then .ok field else .error (.config name .fieldNotFilterable)

/-- The custom field that a reference names, deleted ones included. -/
def customField (schema : Schema) (entityType reference : String) :
    Except FilterError CustomField :=
  match Uuid.ofText? reference with
  | none => .error (.config reference .notCustomFieldId)
  | some id =>
    match schema.customField? id with
    | none => .error (.config reference .unknownCustomField)
    | some field =>
      if field.entityType = entityType then .ok field
      else .error (.config field.name (.foreignCustomField field.entityType entityType))

/-- The operator of a request for a field of a kind. -/
def requestedOperator (scope : BuildScope) (d : Descriptor) (kind : FieldKind) :
    Except FilterError Operator :=
  match d.operator with
  | none => .error (.validation .operatorMissing [d.reference])
  | some id =>
    match scope.operators.get? id with
    | none => .error (.validation (.unknownOperator id) [d.reference])
    | some o =>
      if o.accepts kind then .ok o
      else .error (.config d.reference (.operatorOnKind o.name kind))

/-- The operator of a stored condition. -/
def storedOperator (scope : PredicateScope) (c : Condition) (id : OperatorId) :
    Except FilterError Operator :=
  match scope.operators.get? id with
  | some o => .ok o
  | none => .error (.config c.reference (.unknownOperator id))

/-- A value in the form in which fields of a kind hold it. -/
def cast? (kind : FieldKind) (v : Value) : Option Value :=
  match kind with
  | .string | .reference => v.text?.map .text
  | .number => v.number?.map .number
  | .boolean => v.flag?.map .bool
  | .date => v.day?.map .ofDay
  | .file => none

/-- Whether two bounds stand in the wrong order. -/
def isReversed (kind : FieldKind) : List Value → Bool
  | [low, high] =>
    match kind with
    | .number =>
      match low.number?, high.number? with
      | some a, some b => a.compare? b = some .gt
      | _, _ => false
    | .date =>
      match low.day?, high.day? with
      | some a, some b => b < a
      | _, _ => false
    | _ => false
  | _ => false

/-- Whether an operand may stand among the values of an operator on a field. -/
def operandFits (o : Operator) (field : Option Field) (operand : Operand) : Bool :=
  o.arity = .atLeastOne && field.any operand.accepts

/-- One value of a request: an operand as it stands, or a value cast to the kind and, if there are
choices, among them. -/
def checkValue (scope : BuildScope) (reference : String) (o : Operator) (field : Option Field)
    (kind : FieldKind) (choices : List String) (v : Value) : Except FilterError Value := do
  match ← scope.operand? v reference with
  | some operand =>
    if operandFits o field operand then return v
    else throw (.validation (.operandMisplaced operand.name o.name) [reference])
  | none =>
    match cast? kind v with
    | none => throw (.validation (.notOfKind v kind) [reference])
    | some cast =>
      if choices.isEmpty || cast.asText?.any choices.contains then return cast
      else throw (.validation (.unknownChoice cast) [reference])

/-- The values of a request. -/
def checkValues (scope : BuildScope) (d : Descriptor) (o : Operator) (field : Option Field)
    (kind : FieldKind) (choices : List String) : Except FilterError (List Value) :=
  if !o.arity.accepts d.values.length then
    .error (.validation (.valueCount o.name o.arity d.values.length) [d.reference])
  else if o.arity = .flag then
    match d.values.head?.bind Value.flag? with
    | some b => .ok [.bool b]
    | none => .error (.validation (.notFlag o.name) [d.reference])
  else do
    let values ← d.values.mapM (checkValue scope d.reference o field kind choices)
    if o.id = Operator.rangeId && isReversed kind values then
      throw (.validation .reversedRange [d.reference])
    return values

/-! ### Regular fields -/

def validateField (scope : BuildScope) (d : Descriptor) : Except FilterError Payload := do
  let field ← regularField scope.schema scope.entityType d.reference
  let o ← requestedOperator scope d field.kind
  return .comparison o.id (← checkValues scope d o (some field) field.kind [])

def fieldPredicate (scope : PredicateScope) (c : Condition) : Evaluation Predicate :=
  match c.payload with
  | .comparison id values => do
    let _ ← Evaluation.ofExcept (regularField scope.schema scope.entityType c.reference)
    let o ← Evaluation.ofExcept (storedOperator scope c id)
    return o.build (.field c.reference) (← scope.resolveValues values)
  | _ => throw c.foreignPayload

/-! ### Custom fields -/

/-- The operators for custom fields of a kind, where not all that suit the values are allowed. -/
def allowedOperators? (kind : CustomKind) : Option (List OperatorId) :=
  if kind.isNumeric then some Operator.numericIds
  else if kind.isChoice || kind = .bool then some Operator.choiceIds
  else none

def validateCustomField (scope : BuildScope) (d : Descriptor) : Except FilterError Payload := do
  let field ← customField scope.schema scope.entityType d.reference
  if field.deleted then throw (.config d.reference .customFieldDeleted)
  if field.kind.isDate then throw (.config d.reference .dateCustomField)
  let o ← requestedOperator scope d field.kind.fieldKind
  if (allowedOperators? field.kind).any fun ids => !ids.contains o.id then
    throw (.config field.name (.operatorOnCustomKind o.name field.kind))
  return .comparison o.id (← checkValues scope d o none field.kind.fieldKind field.choices)

/-- A custom field that is marked as deleted keeps evaluating. -/
def customFieldPredicate (scope : PredicateScope) (c : Condition) : Evaluation Predicate :=
  match c.payload with
  | .comparison id values => do
    let field ← Evaluation.ofExcept (customField scope.schema scope.entityType c.reference)
    let o ← Evaluation.ofExcept (storedOperator scope c id)
    return o.build (.custom field.id) (← scope.resolveValues values)
  | _ => throw c.foreignPayload

end RecordFilters.Handler
