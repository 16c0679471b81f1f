import RecordFilters.Predicate.Basic
import RecordFilters.Condition.Stored
import RecordFilters.Schema.Stored

/-! # Predicates as JSON

Every case is written under its name: a bare text if it holds nothing, else an object with one
member. -/

namespace RecordFilters

open Json Document

namespace Comparison

def allCases : List Comparison :=
  [equals, iEquals, contains, iContains, gt, gte, lt, lte, startsWith, iStartsWith, endsWith,
    iEndsWith, isEmpty, range]

def name : Comparison → String
  | equals => "equals"
  | iEquals => "i_equals"
  | contains => "contains"
  | iContains => "i_contains"
  | gt => "gt"
  | gte => "gte"
  | lt => "lt"
  | lte => "lte"
  | startsWith => "starts_with"
  | iStartsWith => "i_starts_with"
  | endsWith => "ends_with"
  | iEndsWith => "i_ends_with"
  | isEmpty => "is_empty"
  | range => "range"

def ofJson? (j : Json) : Option Comparison :=
  (bareCase? j).bind fun s => allCases.find? (·.name = s)

end Comparison

namespace Target

def ofJson? (j : Json) : Option Target :=
  match case? j with
  | some ("field", some j) => (text? j).map .field
  | some ("custom", some j) => (Uuid.ofJson? j).map .custom
  | _ => none

def toJson : Target → Json
  | .field name => .object [("field", .string name)]
  | .custom id => .object [("custom", .string id.toText)]

end Target

namespace ObjectTest

def ofJson? (j : Json) : Option ObjectTest :=
  match case? j with
  | some ("any", none) | some ("any", some .null) => some .any
  | some ("entity", some j) => (text? j).map .entity
  | some ("of_type", some j) => (text? j).map .ofType
  | _ => none

def toJson : ObjectTest → Json
  | .any => .string "any"
  | .entity id => .object [("entity", .string id)]
  | .ofType entityType => .object [("of_type", .string entityType)]

end ObjectTest

namespace Predicate

/-- The members of an object, by name. -/
def caseParts? : Json → Option (Parts Json)
  | .object members => some members
  | _ => none

/-- Reads a predicate from a document nested less deeply than the given number. -/
def ofJsonWithin? : Nat → Json → Option Predicate
  | 0, _ => none
  | depth + 1, j =>
    match case? j with
    | some ("always", none) | some ("always", some .null) => some always
    | some ("never", none) | some ("never", some .null) => some never
    | some ("compare", some j) => do
      let parts ← caseParts? j
      some (compare (← parts.required "target" Target.ofJson?)
        (← parts.required "comparison" Comparison.ofJson?)
        (← parts.required "values" (listOf? (some ∘ Value.ofJson))))
    | some ("date_range", some j) => do
      let parts ← caseParts? j
      some (dateRange (← parts.required "target" Target.ofJson?)
        (← parts.optional "start" DateRange.storedDay?)
        (← parts.optional "end" DateRange.storedDay?))
    | some ("related", some j) => do
      let parts ← caseParts? j
      let relation ← parts.required "relation_type" text?
      parts.required "object" fun j =>
        match case? j with
        | some ("matching", some j) => do
          let parts ← caseParts? j
          some (relatedMatching relation (← parts.required "entity_type" text?)
            (← parts.required "predicate" (ofJsonWithin? depth)))
        | _ => (ObjectTest.ofJson? j).map (related relation)
    | some ("has_property", some j) => (text? j).map hasProperty
    | some ("and", some j) => (listOf? (ofJsonWithin? depth) j).map all
    | some ("or", some j) => (listOf? (ofJsonWithin? depth) j).map any
    | some ("not", some j) => (ofJsonWithin? depth j).map not
    | _ => none

def ofJson? (j : Json) : Option Predicate := ofJsonWithin? (j.depth + 1) j

mutual

def toJson : Predicate → Json
  | always => .string "always"
  | never => .string "never"
  | compare target comparison values =>
    .object [("compare", .object [("target", target.toJson),
      ("comparison", .string comparison.name), ("values", .array (values.map Value.toJson))])]
  | dateRange target start stop =>
    .object [("date_range", .object [("target", target.toJson),
      ("start", ofOption (.string ·.toText) start), ("end", ofOption (.string ·.toText) stop)])]
  | related relation test =>
    .object [("related", .object [("relation_type", .string relation), ("object", test.toJson)])]
  | relatedMatching relation entityType p =>
    .object [("related", .object [("relation_type", .string relation), ("object",
      .object [("matching",
        .object [("entity_type", .string entityType), ("predicate", toJson p)])])])]
  | hasProperty id => .object [("has_property", .string id)]
  | all items => .object [("and", .array (toJsonItems items))]
  | any items => .object [("or", .array (toJsonItems items))]
  | not p => .object [("not", toJson p)]

def toJsonItems : List Predicate → List Json
  | [] => []
  | p :: r => toJson p :: toJsonItems r

end

end Predicate

end RecordFilters
