import RecordFilters.Evaluation.Context
import RecordFilters.Schema.Basic

/-! # Handlers

A handler knows how to deal with the conditions of one kind: it turns a request into a payload, or
rejects it, and it turns a stored condition into a predicate. Handlers are looked up by kind, so an
extension adds a kind by adding a handler.

`BuildScope` and `PredicateScope` are what a handler may consult for the one and the other. -/

namespace RecordFilters

/-- The kinds of conditions and the operands that are legal in filters of one type. -/
structure Registry where
  filterType : FilterType
  kinds : KindSet := ∅
  operands : OperandCatalog := ∅

namespace Registry

def allows (r : Registry) (kind : ConditionKind) : Bool := r.kinds.contains kind

/-- Search filters may hold every kind of this library. -/
def regular : Registry where
  filterType := .regular
  kinds := .ofList ConditionKind.builtin
  operands := .standard

/-- Filters of access rules hold no other filters. -/
def credentials : Registry where
  filterType := .credentials
  kinds := .ofList (ConditionKind.builtin.filter fun k => !k.referencesFilter)
  operands := .standard

end Registry

/-- What a handler may consult about a request. -/
structure BuildScope where
  entityType : String
  registry : Registry
  operators : OperatorCatalog
  /-- All operands, legal in filters of this type or not. -/
  operands : OperandCatalog
  schema : Schema
  filters : FilterSet

/-- What a handler may consult about a stored condition. -/
structure PredicateScope where
  operators : OperatorCatalog
  schema : Schema
  filters : FilterSet
  entityType : String
  /-- The registry of the type of the filter, if it still has one. -/
  registry : Option Registry
  /-- The whole predicate of another filter. -/
  nested : Filter → Evaluation Predicate

structure Handler where
  kind : ConditionKind
  validate : BuildScope → Descriptor → Except FilterError Payload
  predicate : PredicateScope → Condition → Evaluation Predicate

namespace BuildScope

def filterType (s : BuildScope) : FilterType := s.registry.filterType

/-- The operand that a value names. One that filters of this type may not use is rejected rather
than taken for a text. -/
def operand? (s : BuildScope) (value : Value) (reference : String) :
    Except FilterError (Option Operand) :=
  match value with
  | .text typeId =>
    match s.registry.operands.get? typeId with
    | some o => .ok (some o)
    | none =>
      if s.operands.contains typeId then
        .error (.validation (.operandNotAllowed typeId s.filterType) [reference])
      else .ok none
  | _ => .ok none

end BuildScope

namespace PredicateScope

/-- Another filter, which must still exist. -/
def subFilter (s : PredicateScope) (id : FilterId) : Except FilterError Filter :=
  match s.filters.get? id with
  | some f => .ok f
  | none => .error (.config id .noSubFilter)

/-- The operand that a stored value stands for. -/
def operand? (s : PredicateScope) : Value → Option Operand
  | .text typeId => s.registry.bind (·.operands.get? typeId)
  | _ => none

/-- Values with the operands among them replaced by what they stand for. -/
def resolveValues (s : PredicateScope) : List Value → Evaluation (List Value)
  | [] => return []
  | v :: r => do
    let here ← match s.operand? v with
      | some o => Evaluation.resolve o
      | none => pure [v]
    return here ++ (← s.resolveValues r)

end PredicateScope

namespace Descriptor

/-- Conditions without an operator refuse one. -/
def ensureNoOperator (d : Descriptor) : Except FilterError Unit :=
  match d.operator with
  | some id => .error (.validation (.operatorNotTaken d.kind id) [d.reference])
  | none => .ok ()

def ensureValueCount (d : Descriptor) (most : Nat) : Except FilterError Unit :=
  if most < d.values.length then
    .error (.validation (.tooManyValues d.kind most d.values.length) [d.reference])
  else .ok ()

/-- The first value as the flag that says whether something is to be present. -/
def presence (d : Descriptor) : Except FilterError Bool :=
  match d.values.head?.bind Value.flag? with
  | some b => .ok b
  | none => .error (.validation (.flagMissing d.kind) [d.reference])

end Descriptor

/-- The stored payload of another kind of condition. -/
def Condition.foreignPayload (c : Condition) : FilterError :=
  .config c.reference (.foreignPayload c.kind)

end RecordFilters
