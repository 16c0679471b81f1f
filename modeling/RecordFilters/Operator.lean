import RecordFilters.Condition.Basic
import RecordFilters.Predicate.Basic
import RecordFilters.Schema.Field

/-! # Operators

An operator says which kinds of fields it compares, how many values it takes and which predicate it
makes of a target and its values. -/

namespace RecordFilters

/-- How many values an operator takes. -/
inductive Arity
  | atLeastOne
  | exactly (count : Nat)
  /-- One flag. -/
  | flag
  deriving DecidableEq

namespace Arity

def accepts : Arity → Nat → Bool
  | atLeastOne, count => 1 ≤ count
  | exactly n, count => count = n
  | flag, count => count = 1

/-- The arity in messages. -/
def describe : Arity → String
  | atLeastOne => "at least one value"
  | exactly n => if n = 1 then "exactly one value" else s!"exactly {n} values"
  | flag => "a boolean flag"

end Arity

structure Operator where
  id : OperatorId
  name : String
  acceptedKinds : List FieldKind
  arity : Arity
  build : Target → List Value → Predicate

namespace Operator

def accepts (o : Operator) (kind : FieldKind) : Bool := o.acceptedKinds.contains kind

/-- Compares, or denies the comparison. -/
def comparing (c : Comparison) (keep : Bool) (target : Target) (values : List Value) : Predicate :=
  (Predicate.compare target c values).when keep

/-- Whether the target is empty, as the first value asks. -/
def testingEmptiness (target : Target) (values : List Value) : Predicate :=
  (Predicate.compare target .isEmpty []).when (((values.head?).bind Value.flag?).getD true)

def orderedKinds : List FieldKind := [.number, .date]

def equatableKinds : List FieldKind := [.string, .number, .date, .reference, .boolean]

/-- The operator between two values. -/
def rangeId : OperatorId := 22

/-- The standard operators. -/
def standard : List Operator :=
  let text (id : OperatorId) (name : String) (c : Comparison) (keep : Bool) : Operator :=
    ⟨id, name, [.string], .atLeastOne, comparing c keep⟩
  let order (id : OperatorId) (name : String) (c : Comparison) : Operator :=
    ⟨id, name, orderedKinds, .exactly 1, comparing c true⟩
  [⟨1, "equals", equatableKinds, .atLeastOne, comparing .equals true⟩,
    text 2 "iequals" .iEquals true,
    ⟨3, "equals_not", equatableKinds, .atLeastOne, comparing .equals false⟩,
    text 4 "iequals_not" .iEquals false,
    text 5 "contains" .contains true,
    text 6 "icontains" .iContains true,
    text 7 "contains_not" .contains false,
    text 8 "icontains_not" .iContains false,
    order 9 "gt" .gt,
    order 10 "gte" .gte,
    order 11 "lt" .lt,
    order 12 "lte" .lte,
    text 13 "startswith" .startsWith true,
    text 14 "istartswith" .iStartsWith true,
    text 15 "startswith_not" .startsWith false,
    text 16 "istartswith_not" .iStartsWith false,
    text 17 "endswith" .endsWith true,
    text 18 "iendswith" .iEndsWith true,
    text 19 "endswith_not" .endsWith false,
    text 20 "iendswith_not" .iEndsWith false,
    ⟨21, "isempty", equatableKinds, .flag, testingEmptiness⟩,
    ⟨rangeId, "range", orderedKinds, .exactly 2, comparing .range true⟩]

/-- The operators for numeric custom fields. -/
def numericIds : List OperatorId := [1, 3, 9, 10, 11, 12, 22, 21]

/-- The operators for custom fields that hold a choice or a flag. -/
def choiceIds : List OperatorId := [1, 3, 21]

end Operator

/-- Operators by number. -/
abbrev OperatorCatalog := Index Operator.id

namespace OperatorCatalog

def standard : OperatorCatalog := .ofList Operator.standard

/-- The operators for fields of a kind, in order. -/
def forKind (c : OperatorCatalog) (kind : FieldKind) : List Operator :=
  c.toList.filter (·.accepts kind)

end OperatorCatalog

end RecordFilters
