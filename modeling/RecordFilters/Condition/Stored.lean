import RecordFilters.Condition.Basic
import RecordFilters.Document

/-! # Stored conditions

A condition is stored as its kind number, its reference and its payload. A payload is a record
without unknown parts; the payload of an extension is kept as it stands. -/

namespace RecordFilters

open Json Document

/-- A 16-bit number. -/
def readWord? {δ : Type} [Document δ] (d : δ) : Option UInt16 := (word? d).map UInt16.ofNat

def ConditionKind.ofJson? (j : Json) : Option ConditionKind := (readWord? j).map ofId

/-! ### Date ranges -/

namespace DateRange

def storedDay? (j : Json) : Option Day := (text? j).bind Day.ofDateText?

def ofJson? (j : Json) : Option DateRange :=
  match case? j with
  | some ("named", some name) => (bareCase? name).bind fun s => (NamedRange.ofName? s).map .named
  | some ("custom", some (.object members)) => do
    let parts ← exactParts? ["start", "end"] (.object members)
    some (.custom (← parts.optional "start" storedDay?) (← parts.optional "end" storedDay?))
  | _ => none

def toJson : DateRange → Json
  | .named range => .object [("named", .string range.name)]
  | .custom start stop =>
    .object [("custom", .object [("start", ofOption (.string ·.toText) start),
      ("end", ofOption (.string ·.toText) stop)])]

end DateRange

/-! ### Payloads -/

namespace Payload

/-- The payload of a condition of a given kind. -/
def ofJson? (kind : ConditionKind) (j : Json) : Option Payload :=
  match kind with
  | .field | .customField => do
    let parts ← exactParts? ["operator", "values"] j
    some (.comparison (← parts.required "operator" readWord?)
      (← parts.required "values" (listOf? (some ∘ Value.ofJson))))
  | .dateField | .dateCustomField => (DateRange.ofJson? j).map .dates
  | .relation => do
    let parts ← exactParts? ["has", "entity_id", "entity_type"] j
    some (.relation (← parts.required "has" flag?) (← parts.optional "entity_id" text?)
      (← parts.optional "entity_type" text?))
  | .relationSubFilter => do
    let parts ← exactParts? ["has", "filter_id"] j
    some (.relationSubFilter (← parts.required "has" flag?) (← parts.required "filter_id" text?))
  | .property => do
    let parts ← exactParts? ["has"] j
    some (.property (← parts.required "has" flag?))
  | .subFilter => (exactParts? [] j).map fun _ => .subFilter
  | .other .. => some (.raw j)

def toJson : Payload → Json
  | .comparison operator values =>
    .object [("operator", .ofNat operator.toNat), ("values", .array (values.map Value.toJson))]
  | .dates range => range.toJson
  | .relation present target targetType =>
    .object (("has", .bool present) :: (target.toList.map fun s => ("entity_id", .string s)) ++
      targetType.toList.map fun s => ("entity_type", .string s))
  | .relationSubFilter present filter =>
    .object [("has", .bool present), ("filter_id", .string filter)]
  | .property present => .object [("has", .bool present)]
  | .subFilter => .object []
  | .raw j => j

theorem fits_of_ofJson? {kind : ConditionKind} {j : Json} {p : Payload}
    (h : ofJson? kind j = some p) : p.fits kind = true := by
  cases kind <;> simp only [ofJson?, Option.bind_eq_bind, Option.bind_eq_some_iff,
    Option.map_eq_some_iff, Option.some.injEq] at h
  case subFilter => obtain ⟨_, _, rfl⟩ := h; rfl
  case field => obtain ⟨_, _, _, _, _, _, rfl⟩ := h; rfl
  case dateField => obtain ⟨_, _, rfl⟩ := h; rfl
  case relation => obtain ⟨_, _, _, _, _, _, _, _, rfl⟩ := h; rfl
  case relationSubFilter => obtain ⟨_, _, _, _, _, _, rfl⟩ := h; rfl
  case property => obtain ⟨_, _, _, _, rfl⟩ := h; rfl
  case customField => obtain ⟨_, _, _, _, _, _, rfl⟩ := h; rfl
  case dateCustomField => obtain ⟨_, _, rfl⟩ := h; rfl
  case other => exact h ▸ rfl

end Payload

/-! ### Conditions -/

/-- A condition as it is stored. -/
structure StoredCondition where
  kind : UInt16
  reference : String
  value : Json := .null

namespace StoredCondition

def ofDocument? {δ : Type} [Document δ] (d : δ) : Option StoredCondition := do
  let parts ← parts? ["kind", "ref", "value"] d
  some {
    kind := ← parts.required "kind" readWord?
    reference := ← parts.required "ref" text?
    value := ← parts.orDefault "value" .null json? }

def toJson (c : StoredCondition) : Json :=
  .object [("kind", .ofNat c.kind.toNat), ("ref", .string c.reference), ("value", c.value)]

/-- The stored payload; a sub-filter may leave it out. -/
def payload (c : StoredCondition) : Json :=
  match ConditionKind.ofId c.kind, c.value with
  | .subFilter, .null => .object []
  | _, j => j

end StoredCondition

namespace Condition

/-- The condition that a stored one stands for; none if the payload does not fit the kind. -/
def ofStored? (c : StoredCondition) : Option Condition :=
  match h : Payload.ofJson? (.ofId c.kind) c.payload with
  | some p => some ⟨.ofId c.kind, c.reference, p, Payload.fits_of_ofJson? h⟩
  | none => none

def toStored (c : Condition) : StoredCondition := ⟨c.kind.id, c.reference, c.payload.toJson⟩

end Condition

/-! ### Requests -/

namespace Descriptor

def ofJson? (j : Json) : Option Descriptor := do
  let parts ← parts? ["kind", "ref", "operator", "values"] j
  some {
    kind := ← parts.required "kind" ConditionKind.ofJson?
    reference := ← parts.required "ref" text?
    operator := ← parts.optional "operator" readWord?
    values := ← parts.orDefault "values" [] (listOf? (some ∘ Value.ofJson)) }

def toJson (d : Descriptor) : Json :=
  .object ([("kind", .ofNat d.kind.id.toNat), ("ref", .string d.reference)] ++
    (d.operator.toList.map fun o => ("operator", .ofNat o.toNat)) ++
    [("values", .array (d.values.map Value.toJson))])

end Descriptor

end RecordFilters
