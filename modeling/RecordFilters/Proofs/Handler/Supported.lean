import RecordFilters.Proofs.Evaluation.Conditions

/-! # What a schema supports

A condition refers to a field, an operator, a relation type or a property type. What a handler checks
of these when it accepts a condition is all that it asks for when it evaluates the condition later;
only other filters and the calendar have a say besides.

* `Schema.supports`: the schema has what a condition refers to.
* `isSome_test?_iff`: when a condition says something.
* `supports_of_build`: an accepted condition is supported. -/

namespace RecordFilters

namespace Schema

/-- Whether a condition of a filter on an entity type reads a field that is there. -/
def reads (s : Schema) (entityType : String) (c : Condition) : Bool :=
  match c.kind with
  | .field | .dateField => (s.field? entityType c.reference).any Field.isFilterable
  | .customField | .dateCustomField =>
    ((Uuid.ofText? c.reference).bind s.customField?).any fun field => field.entityType = entityType
  | _ => false

/-- Whether a schema, and the standard operators, have what a condition of a filter on an entity type
refers to, other filters apart. -/
def supports (s : Schema) (entityType : String) (c : Condition) : Bool :=
  match c.payload with
  | .comparison operator _ => s.reads entityType c && OperatorCatalog.standard.contains operator
  | .dates _ => s.reads entityType c
  | .relation .. | .relationSubFilter .. => s.relates entityType c.reference
  | .property _ => s.carries entityType c.reference
  | .subFilter => true
  | .raw _ => false

end Schema

variable {c : Condition} {entityType : String} {f : Filter}

/-! ### What says something -/

theorem Operator.isSome_test?_iff {id : OperatorId} :
    (test? id).isSome = true ↔ OperatorCatalog.standard.contains id = true := by
  unfold Index.contains
  cases h : OperatorCatalog.standard.get? id with
  | none =>
    rw [test?_eq_none h]
    rfl
  | some o =>
    obtain ⟨hmem, rfl⟩ := Index.get?_eq_some_iff.1 h
    obtain ⟨test, htest, -⟩ := test?_of_standard (Index.mem_of_mem_ofList hmem)
    rw [htest]
    rfl

theorem Setting.isSome_target? (s : Setting) (entityType : String) (c : Condition) :
    (s.target? entityType c).isSome = s.schema.reads entityType c := by
  unfold target? Schema.reads
  cases c.kind with
  | field | dateField =>
    by_cases h : (s.schema.field? entityType c.reference).any Field.isFilterable = true <;> simp [h]
  | customField | dateCustomField =>
    dsimp only
    cases (Uuid.ofText? c.reference).bind s.schema.customField? with
    | none => rfl
    | some field => by_cases h : field.entityType = entityType <;> simp [h]
  | _ => rfl

/-- **A condition says something exactly if it is supported**, the filter at which it points is
stored and its range resolves. -/
theorem Setting.isSome_test?_iff (s : Setting) (sub : Filter → Record → Bool) (f : Filter)
    (c : Condition) : (s.test? sub f c).isSome = true ↔
      s.schema.supports f.entityType c = true ∧
        (∀ id, c.subFilterId? = some id → s.filters.contains id = true) ∧
        ∀ range, c.payload = .dates range → (range.resolve? s.today).isSome = true := by
  simp only [Condition.subFilterId?_eq_some_iff]
  unfold test? Schema.supports
  cases hpayload : c.payload with
  | comparison operator values =>
    rw [Bool.and_eq_true, ← s.isSome_target?, ← Operator.isSome_test?_iff]
    cases s.target? f.entityType c <;> cases htest : Operator.test? operator <;> simp [htest]
  | dates range =>
    rw [← s.isSome_target?]
    cases s.target? f.entityType c <;> cases range.resolve? s.today <;> simp
  | relation present object objectType =>
    cases s.schema.relates f.entityType c.reference <;> simp
  | relationSubFilter present id =>
    cases s.schema.relates f.entityType c.reference <;> simp [Index.contains]
  | property present => cases s.schema.carries f.entityType c.reference <;> simp
  | subFilter => simp [Index.contains]
  | raw document => simp

/-! ### What a reference names -/

namespace Handler

variable {schema : Schema} {c : Condition}

theorem reads_of_regularField {field : Field} (hkind : c.kind = .field ∨ c.kind = .dateField)
    (h : regularField schema entityType c.reference = .ok field) :
    schema.reads entityType c = true := by
  have hreads : schema.reads entityType c =
      (schema.field? entityType c.reference).any Field.isFilterable := by
    unfold Schema.reads
    rcases hkind with h | h <;> rw [h]
  have hspec := regularField_spec schema entityType c.reference
  rw [h] at hspec
  rw [hreads]
  exact hspec

theorem reads_of_customField {field : CustomField}
    (hkind : c.kind = .customField ∨ c.kind = .dateCustomField)
    (h : customField schema entityType c.reference = .ok field) :
    schema.reads entityType c = true := by
  have hreads : schema.reads entityType c =
      ((Uuid.ofText? c.reference).bind schema.customField?).any fun field =>
        field.entityType = entityType := by
    unfold Schema.reads
    rcases hkind with h | h <;> rw [h]
  have hspec := customField_spec schema entityType c.reference
  rw [h] at hspec
  obtain ⟨hfield, howned⟩ := Option.filter_eq_some_iff.1 hspec
  rw [hreads, hfield]
  exact howned

theorem contains_of_requestedOperator {scope : BuildScope} {d : Descriptor} {kind : FieldKind}
    {o : Operator} (h : requestedOperator scope d kind = .ok o) :
    scope.operators.contains o.id = true := by
  unfold requestedOperator at h
  split at h
  next => cases h
  next =>
    split at h
    next => cases h
    next ho =>
      split at h
      next =>
        cases h
        exact Index.contains_iff.2 ⟨o, Index.mem_of_get? ho, rfl⟩
      next => cases h

/-! ### What is accepted -/

section

variable {scope : BuildScope} {d : Descriptor} (hreference : c.reference = d.reference)

/-- A comparison is supported if its field is there and its operator is a standard one. -/
theorem supports_comparison {operator : OperatorId} {values : List Value}
    (hpayload : c.payload = .comparison operator values)
    (hreads : schema.reads entityType c = true)
    (hoperator : OperatorCatalog.standard.contains operator = true) :
    schema.supports entityType c = true := by
  unfold Schema.supports
  rw [hpayload]
  dsimp only
  rw [hreads, hoperator]
  rfl

/-- A range is supported if its field is there. -/
theorem supports_dates (hkind : c.kind = .dateField ∨ c.kind = .dateCustomField)
    (hreads : schema.reads entityType c = true) : schema.supports entityType c = true := by
  have hshape := c.payload_of_kind
  obtain ⟨range, hpayload⟩ : ∃ range, c.payload = .dates range := by
    rcases hkind with hkind | hkind <;>
    · rw [hkind] at hshape
      exact hshape
  unfold Schema.supports
  rw [hpayload]
  exact hreads

include hreference

theorem supports_of_validateField (hkind : c.kind = .field)
    (hoperators : scope.operators = .standard) (h : validateField scope d = .ok c.payload) :
    scope.schema.supports scope.entityType c = true := by
  obtain ⟨field, hfield, h⟩ := bind_eq_ok_iff.1 h
  obtain ⟨o, ho, h⟩ := bind_eq_ok_iff.1 h
  obtain ⟨values, -, h⟩ := bind_eq_ok_iff.1 h
  have hoperator := contains_of_requestedOperator ho
  rw [hoperators] at hoperator
  rw [← hreference] at hfield
  exact supports_comparison (Except.ok.inj h).symm (reads_of_regularField (Or.inl hkind) hfield)
    hoperator

theorem supports_of_validateCustomField (hkind : c.kind = .customField)
    (hoperators : scope.operators = .standard) (h : validateCustomField scope d = .ok c.payload) :
    scope.schema.supports scope.entityType c = true := by
  obtain ⟨field, hfield, h⟩ := bind_eq_ok_iff.1 h
  obtain ⟨-, h⟩ := guarded_eq_ok_iff.1 h
  obtain ⟨-, h⟩ := guarded_eq_ok_iff.1 h
  obtain ⟨o, ho, h⟩ := bind_eq_ok_iff.1 h
  obtain ⟨-, h⟩ := guarded_eq_ok_iff.1 h
  obtain ⟨values, -, h⟩ := bind_eq_ok_iff.1 h
  have hoperator := contains_of_requestedOperator ho
  rw [hoperators] at hoperator
  rw [← hreference] at hfield
  exact supports_comparison (Except.ok.inj h).symm (reads_of_customField (Or.inl hkind) hfield)
    hoperator

theorem supports_of_validateDateField (hkind : c.kind = .dateField)
    (h : validateDateField scope d = .ok c.payload) :
    scope.schema.supports scope.entityType c = true := by
  obtain ⟨field, hfield, -⟩ := bind_eq_ok_iff.1 h
  rw [← hreference] at hfield
  exact supports_dates (Or.inl hkind) (reads_of_regularField (Or.inr hkind) hfield)

theorem supports_of_validateDateCustomField (hkind : c.kind = .dateCustomField)
    (h : validateDateCustomField scope d = .ok c.payload) :
    scope.schema.supports scope.entityType c = true := by
  obtain ⟨field, hfield, -⟩ := bind_eq_ok_iff.1 h
  rw [← hreference] at hfield
  exact supports_dates (Or.inr hkind) (reads_of_customField (Or.inr hkind) hfield)

theorem supports_of_validateRelation (hkind : c.kind = .relation)
    (h : validateRelation scope d = .ok c.payload) :
    scope.schema.supports scope.entityType c = true := by
  obtain ⟨r, hr, -⟩ := bind_eq_ok_iff.1 h
  have hrelates := relationType_spec scope.schema scope.entityType d.reference
  rw [hr, ← hreference] at hrelates
  have hshape := c.payload_of_kind
  rw [hkind] at hshape
  obtain ⟨present, object, objectType, hpayload⟩ := hshape
  unfold Schema.supports
  rw [hpayload]
  exact hrelates

theorem supports_of_validateProperty (hkind : c.kind = .property)
    (h : validateProperty scope d = .ok c.payload) :
    scope.schema.supports scope.entityType c = true := by
  obtain ⟨p, hp, -⟩ := bind_eq_ok_iff.1 h
  have hcarries := propertyType_spec scope.schema scope.entityType d.reference
  rw [hp, ← hreference] at hcarries
  have hshape := c.payload_of_kind
  rw [hkind] at hshape
  obtain ⟨present, hpayload⟩ := hshape
  unfold Schema.supports
  rw [hpayload]
  exact hcarries

end

end Handler

/-- **What is accepted is supported.** -/
theorem Catalogs.supports_of_build {c : Catalogs} {schema : Schema} {filters : FilterSet}
    {filterType : FilterType} {d : Descriptor} {condition : Condition} (hc : c.HasStandard)
    (h : c.build schema filters filterType entityType d = .ok condition) :
    schema.supports entityType condition = true := by
  have hbuilt := built_of_build h
  have hshape := condition.payload_of_kind
  have passed : ∀ handler ∈ Handler.builtin, condition.kind = handler.kind → ∃ registry,
      handler.validate ⟨entityType, registry, c.operators, c.operands, schema, filters⟩ d =
        .ok condition.payload := by
    intro handler hmem hkind
    obtain ⟨registry, -, hvalidate⟩ := validate_of_built (hc.get?_handlers hmem) hbuilt hkind
    exact ⟨registry, hvalidate⟩
  cases hkind : condition.kind with
  | field =>
    obtain ⟨registry, hvalidate⟩ := passed ⟨.field, Handler.validateField, Handler.fieldPredicate⟩
      (by simp [Handler.builtin]) hkind
    have hsupports := Handler.supports_of_validateField hbuilt.reference hkind hc.operators hvalidate
    exact hsupports
  | customField =>
    obtain ⟨registry, hvalidate⟩ := passed
      ⟨.customField, Handler.validateCustomField, Handler.customFieldPredicate⟩
      (by simp [Handler.builtin]) hkind
    have hsupports := Handler.supports_of_validateCustomField hbuilt.reference hkind hc.operators hvalidate
    exact hsupports
  | dateField =>
    obtain ⟨registry, hvalidate⟩ := passed
      ⟨.dateField, Handler.validateDateField, Handler.dateFieldPredicate⟩
      (by simp [Handler.builtin]) hkind
    have hsupports := Handler.supports_of_validateDateField hbuilt.reference hkind hvalidate
    exact hsupports
  | dateCustomField =>
    obtain ⟨registry, hvalidate⟩ := passed
      ⟨.dateCustomField, Handler.validateDateCustomField, Handler.dateCustomFieldPredicate⟩
      (by simp [Handler.builtin]) hkind
    have hsupports := Handler.supports_of_validateDateCustomField hbuilt.reference hkind hvalidate
    exact hsupports
  | relation =>
    obtain ⟨registry, hvalidate⟩ := passed
      ⟨.relation, Handler.validateRelation, Handler.relationPredicate⟩
      (by simp [Handler.builtin]) hkind
    have hsupports := Handler.supports_of_validateRelation hbuilt.reference hkind hvalidate
    exact hsupports
  | property =>
    obtain ⟨registry, hvalidate⟩ := passed
      ⟨.property, Handler.validateProperty, Handler.propertyPredicate⟩
      (by simp [Handler.builtin]) hkind
    have hsupports := Handler.supports_of_validateProperty hbuilt.reference hkind hvalidate
    exact hsupports
  | relationSubFilter =>
    rw [hkind] at hshape
    obtain ⟨present, id, hpayload⟩ := hshape
    unfold Schema.supports
    rw [hpayload]
    exact (hc.hasReferenceHandlers.validateRelationSubFilter hbuilt hpayload).2.2.1
  | subFilter =>
    rw [hkind] at hshape
    unfold Schema.supports
    rw [hshape]
  | other =>
    obtain ⟨registry, handler, -, -, hhandler, -⟩ := hbuilt.validated
    rw [← hbuilt.kind, hkind, hc.get?_handlers_other] at hhandler
    cases hhandler

end RecordFilters
