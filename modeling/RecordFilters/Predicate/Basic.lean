import RecordFilters.Calendar.Day
import RecordFilters.Value
import RecordFilters.Uuid

/-! # Predicates

A predicate is a filter with everything resolved: operands and named date ranges stand in it as
values and days, other filters as their own predicates. It is what the storage layer is handed.

The folding connectives `Predicate.both`, `Predicate.either` and `Predicate.negate` build the
predicates of filters. They keep constants out of groups, groups out of groups of the same kind and
negations out of negations, as far as they can see: one level down. -/

namespace RecordFilters

/-- What a comparison reads from a record. -/
inductive Target
  | field (name : String)
  | custom (id : Uuid)
  deriving DecidableEq

inductive Comparison
  | equals
  | iEquals
  | contains
  | iContains
  | gt
  | gte
  | lt
  | lte
  | startsWith
  | iStartsWith
  | endsWith
  | iEndsWith
  | isEmpty
  /-- Between two values, both included. -/
  | range
  deriving DecidableEq

/-- Which objects a relation may lead to, where no predicate is needed to say it. -/
inductive ObjectTest
  | any
  | entity (id : String)
  | ofType (entityType : String)
  deriving DecidableEq

inductive Predicate
  | always
  | never
  /-- A field compares with one of the values. -/
  | compare (target : Target) (comparison : Comparison) (values : List Value)
  /-- A date lies between bounds that are included. -/
  | dateRange (target : Target) (start stop : Option Day)
  /-- The record is the subject of a relation to an accepted object. -/
  | related (relation : String) (object : ObjectTest)
  /-- The record is the subject of a relation to a record of a type that satisfies a predicate. -/
  | relatedMatching (relation entityType : String) (object : Predicate)
  | hasProperty (id : String)
  | all (items : List Predicate)
  | any (items : List Predicate)
  | not (p : Predicate)
  deriving Inhabited

namespace Predicate

def isAlways : Predicate → Bool
  | always => true
  | _ => false

def isNever : Predicate → Bool
  | never => true
  | _ => false

/-- What a member contributes to a conjunction. -/
def conjuncts : Predicate → List Predicate
  | always => []
  | all items => items
  | p => [p]

/-- What a member contributes to a disjunction. -/
def disjuncts : Predicate → List Predicate
  | never => []
  | any items => items
  | p => [p]

/-- The conjunction of some predicates. -/
def both (items : List Predicate) : Predicate :=
  if items.any isNever then never
  else match items.flatMap conjuncts with
    | [] => always
    | [p] => p
    | parts => all parts

/-- The disjunction of some predicates. -/
def either (items : List Predicate) : Predicate :=
  if items.any isAlways then always
  else match items.flatMap disjuncts with
    | [] => never
    | [p] => p
    | parts => any parts

def negate : Predicate → Predicate
  | always => never
  | never => always
  | not p => p
  | p => not p

/-- The predicate itself or its negation. -/
def when (p : Predicate) (keep : Bool) : Predicate := if keep then p else p.negate

end Predicate

end RecordFilters
