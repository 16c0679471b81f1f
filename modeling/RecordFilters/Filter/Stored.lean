import RecordFilters.Filter.Basic
import RecordFilters.Condition.Stored

/-! # Stored filters

A filter is stored as a record; its type, its flags and its owner may be left out. What is read may
still break a rule of filters, and `FilterFault` says which. -/

namespace RecordFilters

open Json Document

/-- A filter as it is stored. -/
structure StoredFilter where
  id : FilterId
  name : String
  entityType : String
  filterType : FilterType := .regular
  isCustom : Bool := true
  useOr : Bool := false
  owner : Ownership := .everyone
  conditions : List StoredCondition

/-- Why a stored filter is no filter. -/
inductive FilterFault
  | payload (kind : ConditionKind) (reference : String)
  | noConditions (id : FilterId)
  /-- An installed filter with an owner. -/
  | privateSystem (id : FilterId)
  /-- The cause of an extension, in its own words. -/
  | custom (message : String)
  deriving DecidableEq

def FilterFault.message : FilterFault → String
  | payload kind reference => s!"invalid value for {kind.name} condition '{reference}'"
  | noConditions id => s!"filter '{id}' has no conditions"
  | privateSystem id => s!"system filter '{id}' cannot be private"
  | custom message => message

namespace Ownership

/-- An owner that is a user or a team, as a table with its id; with both, the user. -/
def ofTable? {δ : Type} [Document δ] (d : δ) : Option Ownership :=
  (do some (.user (← (← table? ["user_id"] d).required "user_id" text?))) <|>
  (do some (.team (← (← table? ["team_id"] d).required "team_id" text?)))

/-- An owner; null is a public filter. -/
def ofDocument? {δ : Type} [Document δ] (d : δ) : Option Ownership :=
  if isNull d then some .everyone else ofTable? d

def toJson : Ownership → Json
  | .everyone => .null
  | .user id => .object [("user_id", .string id)]
  | .team id => .object [("team_id", .string id)]

end Ownership

namespace StoredFilter

def ofDocument? {δ : Type} [Document δ] (d : δ) : Option StoredFilter := do
  let parts ← parts? ["id", "name", "entity_type", "filter_type", "is_custom", "use_or", "owner",
    "conditions"] d
  some {
    id := ← parts.required "id" text?
    name := ← parts.required "name" text?
    entityType := ← parts.required "entity_type" text?
    filterType := ⟨← parts.orDefault "filter_type" FilterType.regular.id text?⟩
    isCustom := ← parts.orDefault "is_custom" true flag?
    useOr := ← parts.orDefault "use_or" false flag?
    owner := ← parts.orDefault "owner" .everyone Ownership.ofDocument?
    conditions := ← parts.required "conditions" (listOf? StoredCondition.ofDocument?) }

def toJson (f : StoredFilter) : Json :=
  .object [("id", .string f.id), ("name", .string f.name), ("entity_type", .string f.entityType),
    ("filter_type", .string f.filterType.id), ("is_custom", .bool f.isCustom),
    ("use_or", .bool f.useOr), ("owner", f.owner.toJson),
    ("conditions", .array (f.conditions.map StoredCondition.toJson))]

/-- The conditions of a stored filter, up to the first that does not fit its kind. -/
def conditions? : List StoredCondition → Except FilterFault (List Condition)
  | [] => .ok []
  | c :: r =>
    match Condition.ofStored? c with
    | none => .error (.payload (.ofId c.kind) c.reference)
    | some c => (conditions? r).map (c :: ·)

end StoredFilter

namespace Filter

/-- The filter that a stored one stands for. -/
def ofStored (f : StoredFilter) : Except FilterFault Filter :=
  match StoredFilter.conditions? f.conditions with
  | .error fault => .error fault
  | .ok conditions =>
    if h : conditions ≠ [] then
      .ok {
        id := f.id, name := f.name, entityType := f.entityType, filterType := f.filterType
        isCustom := f.isCustom, useOr := f.useOr, ownership := f.owner
        conditions := conditions, conditions_ne_nil := h }
    else .error (.noConditions f.id)

def toStored (f : Filter) : StoredFilter where
  id := f.id
  name := f.name
  entityType := f.entityType
  filterType := f.filterType
  isCustom := f.isCustom
  useOr := f.useOr
  owner := f.ownership
  conditions := f.conditions.map Condition.toStored

def toJson (f : Filter) : Json := f.toStored.toJson

end Filter

end RecordFilters
