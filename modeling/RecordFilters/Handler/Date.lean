import RecordFilters.Handler.Field

/-! # Conditions on dates

Date ranges on regular and custom date fields. A named range is stored by its name and gets its
bounds from the day of evaluation. -/

namespace RecordFilters.Handler

/-- A bound of a request: none for null and blanks, an error for anything that is no day. -/
def readBound (fault : ValidationFault) (reference : String) (v : Value) :
    Except FilterError (Option Day) :=
  let day : Except FilterError (Option Day) :=
    match v.day? with
    | some d => .ok (some d)
    | none => .error (.validation fault [reference])
  match v with
  | .null => .ok none
  | .text s => if Text.isBlankText s then .ok none else day
  | _ => day

/-- The range of a request: a name, or two bounds of which one may be open. -/
def readRange (d : Descriptor) : Except FilterError DateRange :=
  let invalid (fault : ValidationFault) : Except FilterError DateRange :=
    .error (.validation fault [d.reference])
  match d.values with
  | [.text name] =>
    match NamedRange.ofName? name with
    | some range => .ok (.named range)
    | none => invalid (.unknownRange name)
  | [_] => invalid .rangeNameNotText
  | [start, stop] => do
    let start ← readBound .badStart d.reference start
    let stop ← readBound .badEnd d.reference stop
    match start, stop with
    | none, none => invalid .noBound
    | some a, some b => if b < a then invalid .startAfterEnd else return .custom start stop
    | _, _ => return .custom start stop
  | _ => invalid .dateValues

/-- The predicate of a range on the day of evaluation. -/
def rangePredicate (c : Condition) (target : Target) (range : DateRange) :
    Evaluation Predicate := do
  match range.resolve? (← get).today with
  | none => throw (.config c.reference .outsideCalendar)
  | some (.between start stop) => return .dateRange target start stop
  | some (.empty required) => return (Predicate.compare target .isEmpty []).when required

def validateDateField (scope : BuildScope) (d : Descriptor) : Except FilterError Payload := do
  let field ← regularField scope.schema scope.entityType d.reference
  if field.kind ≠ .date then throw (.config d.reference (.notDateField field.kind))
  d.ensureNoOperator
  return .dates (← readRange d)

def dateFieldPredicate (scope : PredicateScope) (c : Condition) : Evaluation Predicate :=
  match c.payload with
  | .dates range => do
    let _ ← Evaluation.ofExcept (regularField scope.schema scope.entityType c.reference)
    rangePredicate c (.field c.reference) range
  | _ => throw c.foreignPayload

def validateDateCustomField (scope : BuildScope) (d : Descriptor) : Except FilterError Payload := do
  let field ← customField scope.schema scope.entityType d.reference
  if field.deleted then throw (.config field.name .customFieldDeleted)
  if !field.kind.isDate then throw (.config field.name (.notDateCustomField field.kind))
  d.ensureNoOperator
  return .dates (← readRange d)

def dateCustomFieldPredicate (scope : PredicateScope) (c : Condition) : Evaluation Predicate :=
  match c.payload with
  | .dates range => do
    let field ← Evaluation.ofExcept (customField scope.schema scope.entityType c.reference)
    rangePredicate c (.custom field.id) range
  | _ => throw c.foreignPayload

end RecordFilters.Handler
