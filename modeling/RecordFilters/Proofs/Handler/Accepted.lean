import RecordFilters.Proofs.Evaluation.Meaning
import RecordFilters.Proofs.Results

/-! # Accepted conditions

What has been gone through when a request for a condition is accepted, and what the two kinds that
point at another filter have checked of it by then. -/

namespace RecordFilters

/-- What has been gone through when a condition is accepted. -/
structure Built (c : Catalogs) (schema : Schema) (filters : FilterSet) (filterType : FilterType)
    (entityType : String) (d : Descriptor) (condition : Condition) : Prop where
  kind : condition.kind = d.kind
  reference : condition.reference = d.reference
  knownEntityType : schema.hasEntityType entityType = true
  validated : ∃ registry handler, c.registries.get? filterType = some registry ∧
    registry.allows d.kind = true ∧ c.handlers.get? d.kind = some handler ∧
    handler.validate ⟨entityType, registry, c.operators, c.operands, schema, filters⟩ d =
      .ok condition.payload

variable {c : Catalogs} {schema : Schema} {filters : FilterSet} {filterType : FilterType}
  {entityType : String} {d : Descriptor} {condition : Condition} {id : FilterId}

theorem registry_eq_ok_iff {r : Registry} :
    c.registry filterType = .ok r ↔ c.registries.get? filterType = some r := by
  unfold Catalogs.registry
  split <;> simp_all

theorem handler_eq_ok_iff {kind : ConditionKind} {reference : String} {h : Handler} :
    c.handler kind reference = .ok h ↔ c.handlers.get? kind = some h := by
  unfold Catalogs.handler
  split <;> simp_all

theorem allows_of_ensureAllows {r : Registry} {kind : ConditionKind} {reference : String}
    (h : r.ensureAllows kind reference = .ok ()) : r.allows kind = true := by
  unfold Registry.ensureAllows at h
  split at h
  next allowed => exact allowed
  next => cases h

theorem built_of_build (h : c.build schema filters filterType entityType d = .ok condition) :
    Built c schema filters filterType entityType d condition := by
  unfold Catalogs.build at h
  obtain ⟨registry, hregistry, h⟩ := bind_eq_ok_iff.1 h
  dsimp only at h
  obtain ⟨hknown, h⟩ := guarded_eq_ok_iff.1 h
  obtain ⟨⟨⟩, hallows, h⟩ := bind_eq_ok_iff.1 h
  obtain ⟨handler, hhandler, h⟩ := bind_eq_ok_iff.1 h
  obtain ⟨payload, hpayload, h⟩ := bind_eq_ok_iff.1 h
  unfold Condition.make at h
  split at h
  next =>
    cases h
    exact ⟨rfl, rfl, by simpa using hknown, registry, handler, registry_eq_ok_iff.1 hregistry,
      allows_of_ensureAllows hallows, handler_eq_ok_iff.1 hhandler, hpayload⟩
  next => cases h

/-- Every condition of an accepted list has been accepted by itself. -/
theorem exists_build_of_buildAll {ds : List Descriptor} {conditions : List Condition}
    (h : c.buildAll schema filters filterType entityType ds = .ok conditions)
    (hc : condition ∈ conditions) :
    ∃ d ∈ ds, c.build schema filters filterType entityType d = .ok condition :=
  exists_of_mem_mapM h hc

/-! ### Conditions that point at another filter -/

/-- The kind of a condition decides the shape of its payload. -/
theorem Condition.payload_of_kind (c : Condition) :
    match c.kind with
    | .field | .customField => ∃ operator values, c.payload = .comparison operator values
    | .dateField | .dateCustomField => ∃ range, c.payload = .dates range
    | .relation => ∃ present object objectType, c.payload = .relation present object objectType
    | .relationSubFilter => ∃ present id, c.payload = .relationSubFilter present id
    | .property => ∃ present, c.payload = .property present
    | .subFilter => c.payload = .subFilter
    | .other .. => ∃ document, c.payload = .raw document := by
  obtain ⟨kind, reference, payload, fits⟩ := c
  cases kind <;> cases payload <;> cases fits <;> simp

theorem Condition.eq_of_payload_eq {c c' : Condition} (hkind : c.kind = c'.kind)
    (hreference : c.reference = c'.reference) (hpayload : c.payload = c'.payload) : c = c' := by
  obtain ⟨kind, reference, payload, fits⟩ := c
  obtain ⟨kind', reference', payload', fits'⟩ := c'
  cases hkind
  cases hreference
  cases hpayload
  rfl

theorem Condition.kind_of_payload_subFilter (h : condition.payload = .subFilter) :
    condition.kind = .subFilter := by
  obtain ⟨kind, reference, payload, fits⟩ := condition
  dsimp only at h
  subst h
  cases kind <;> first | rfl | cases fits

theorem Condition.kind_of_payload_relationSubFilter {present : Bool}
    (h : condition.payload = .relationSubFilter present id) :
    condition.kind = .relationSubFilter := by
  obtain ⟨kind, reference, payload, fits⟩ := condition
  dsimp only at h
  subst h
  cases kind <;> first | rfl | cases fits

namespace Handler

variable {scope : BuildScope} {payload : Payload}

theorem relationType_spec (s : Schema) (entityType relation : String) :
    match relationType s entityType relation with
    | .error e => e.isConfig = true ∧ s.relates entityType relation = false
    | .ok _ => s.relates entityType relation = true := by
  unfold relationType Schema.relates
  cases s.relationType? relation with
  | none => exact ⟨rfl, rfl⟩
  | some r =>
    by_cases h : r.acceptsSubject entityType = true
    · simp [h]
    · simp [h, FilterError.isConfig]

/-- An accepted condition on a sub-filter points at a stored filter on the same records, of the same
type. -/
theorem exists_subFilter_of_validate (h : validateSubFilter scope d = .ok payload) :
    payload = .subFilter ∧ ∃ sub, scope.filters.get? d.reference = some sub ∧
      sub.entityType = scope.entityType ∧ sub.filterType = scope.filterType := by
  unfold validateSubFilter at h
  obtain ⟨⟨⟩, -, h⟩ := bind_eq_ok_iff.1 h
  obtain ⟨⟨⟩, -, h⟩ := bind_eq_ok_iff.1 h
  split at h
  next => cases h
  next sub hsub =>
    dsimp only at h
    obtain ⟨hentity, h⟩ := guarded_eq_ok_iff.1 h
    obtain ⟨htype, h⟩ := guarded_eq_ok_iff.1 h
    cases h
    exact ⟨rfl, sub, hsub, Decidable.not_not.1 hentity, Decidable.not_not.1 htype⟩

/-- An accepted condition on a relation to what another filter selects points at a stored filter of
the same type, whose records can be objects of the relation. -/
theorem exists_subFilter_of_validateRelation
    (h : validateRelationSubFilter scope d = .ok payload) :
    ∃ present id sub, payload = .relationSubFilter present id ∧ d.presence = .ok present ∧
      readSubFilterId d = .ok id ∧ scope.filters.get? id = some sub ∧
      sub.filterType = scope.filterType ∧
      scope.schema.objectCompatible d.reference sub.entityType = true ∧
      ∃ r, relationType scope.schema scope.entityType d.reference = .ok r := by
  unfold validateRelationSubFilter at h
  obtain ⟨r, hr, h⟩ := bind_eq_ok_iff.1 h
  obtain ⟨⟨⟩, -, h⟩ := bind_eq_ok_iff.1 h
  obtain ⟨present, hpresent, h⟩ := bind_eq_ok_iff.1 h
  obtain ⟨id, hid, h⟩ := bind_eq_ok_iff.1 h
  split at h
  next => cases h
  next sub hsub =>
    dsimp only at h
    obtain ⟨hobject, h⟩ := guarded_eq_ok_iff.1 h
    obtain ⟨htype, h⟩ := guarded_eq_ok_iff.1 h
    cases h
    exact ⟨present, id, sub, rfl, hpresent, hid, hsub, Decidable.not_not.1 htype,
      by simpa using hobject, r, hr⟩

end Handler

/-! ### References -/

namespace Catalogs

/-- The conditions on other filters have the handlers of this library. -/
def HasReferenceHandlers (c : Catalogs) : Prop :=
  ∀ handler ∈ Handler.builtin, handler.kind.referencesFilter = true →
    c.handlers.get? handler.kind = some handler

/-- An accepted condition has been gone through by the handler of its kind. -/
theorem validate_of_built {handler : Handler} (hhandler : c.handlers.get? handler.kind = some handler)
    (h : Built c schema filters filterType entityType d condition)
    (hkind : condition.kind = handler.kind) :
    ∃ registry, registry.filterType = filterType ∧
      handler.validate ⟨entityType, registry, c.operators, c.operands, schema, filters⟩ d =
        .ok condition.payload := by
  obtain ⟨registry, handler', hregistry, -, hhandler', hvalidate⟩ := h.validated
  rw [← h.kind, hkind, hhandler] at hhandler'
  cases hhandler'
  exact ⟨registry, Index.key_of_get? hregistry, hvalidate⟩

/-- What an accepted condition on a sub-filter has passed. -/
theorem HasReferenceHandlers.validateSubFilter (hc : c.HasReferenceHandlers)
    (h : Built c schema filters filterType entityType d condition)
    (hpayload : condition.payload = .subFilter) :
    ∃ sub, filters.get? condition.reference = some sub ∧ sub.entityType = entityType ∧
      sub.filterType = filterType := by
  have hhandler := hc ⟨.subFilter, Handler.validateSubFilter, Handler.subFilterPredicate⟩
    (by simp [Handler.builtin]) rfl
  obtain ⟨registry, rfl, hvalidate⟩ :=
    validate_of_built hhandler h (Condition.kind_of_payload_subFilter hpayload)
  rw [h.reference]
  exact (Handler.exists_subFilter_of_validate hvalidate).2

/-- What an accepted condition on a relation to what another filter selects has passed. -/
theorem HasReferenceHandlers.validateRelationSubFilter (hc : c.HasReferenceHandlers)
    (h : Built c schema filters filterType entityType d condition) {present : Bool}
    (hpayload : condition.payload = .relationSubFilter present id) :
    d.presence = .ok present ∧ Handler.readSubFilterId d = .ok id ∧
      schema.relates entityType condition.reference = true ∧ ∃ sub, filters.get? id = some sub ∧
        sub.filterType = filterType ∧
        schema.objectCompatible condition.reference sub.entityType = true := by
  have hhandler := hc ⟨.relationSubFilter, Handler.validateRelationSubFilter,
    Handler.relationSubFilterPredicate⟩ (by simp [Handler.builtin]) rfl
  obtain ⟨registry, rfl, hvalidate⟩ :=
    validate_of_built hhandler h (Condition.kind_of_payload_relationSubFilter hpayload)
  obtain ⟨present', id', sub, hpayload', hpresent, hid, hsub, htype, hobject, r, hr⟩ :=
    Handler.exists_subFilter_of_validateRelation hvalidate
  rw [hpayload] at hpayload'
  cases hpayload'
  have hrelates := Handler.relationType_spec schema entityType d.reference
  rw [hr] at hrelates
  rw [h.reference]
  exact ⟨hpresent, hid, hrelates, sub, hsub, htype, hobject⟩

/-- **An accepted condition that points at another filter consults it**, and that filter is of the
same type. -/
theorem consulted_of_build (hc : c.HasReferenceHandlers)
    (h : c.build schema filters filterType entityType d = .ok condition)
    (hid : condition.subFilterId? = some id) :
    ∃ g, filters.consulted? schema entityType condition = some g ∧ g.id = id ∧
      g.filterType = filterType := by
  have hbuilt := built_of_build h
  unfold FilterSet.consulted?
  rcases Condition.subFilterId?_eq_some_iff.1 hid with ⟨hpayload, rfl⟩ | ⟨present, hpayload⟩
  · obtain ⟨sub, hsub, hentity, htype⟩ := hc.validateSubFilter hbuilt hpayload
    rw [hpayload]
    exact ⟨sub, Option.filter_eq_some_iff.2 ⟨hsub, by simpa using hentity⟩,
      Index.key_of_get? hsub, htype⟩
  · obtain ⟨-, -, hrelates, sub, hsub, htype, hobject⟩ :=
      hc.validateRelationSubFilter hbuilt hpayload
    rw [hpayload]
    dsimp only
    rw [if_pos hrelates]
    exact ⟨sub, Option.filter_eq_some_iff.2 ⟨hsub, hobject⟩, Index.key_of_get? hsub, htype⟩

/-- A condition that points at another filter is what its own description asks for. -/
theorem eq_of_build_descriptor (hc : c.HasReferenceHandlers) {condition' : Condition}
    (hd : condition.descriptor? = some d) (hid : condition.subFilterId? = some id)
    (h : c.build schema filters filterType entityType d = .ok condition') :
    condition' = condition := by
  have hbuilt := built_of_build h
  rcases Condition.subFilterId?_eq_some_iff.1 hid with ⟨hpayload, -⟩ | ⟨present, hpayload⟩
  · have hdescribed : d = ⟨condition.kind, condition.reference, none, []⟩ := by
      unfold Condition.descriptor? at hd
      rw [hpayload] at hd
      exact (Option.some.inj hd).symm
    have hkind : condition'.kind = condition.kind := by rw [hbuilt.kind, hdescribed]
    have hpayload' := condition'.payload_of_kind
    rw [hkind, Condition.kind_of_payload_subFilter hpayload] at hpayload'
    exact Condition.eq_of_payload_eq hkind (by rw [hbuilt.reference, hdescribed])
      (hpayload'.trans hpayload.symm)
  · have hdescribed : d = ⟨condition.kind, condition.reference, none, [.bool present, .text id]⟩ := by
      unfold Condition.descriptor? at hd
      rw [hpayload] at hd
      exact (Option.some.inj hd).symm
    have hkind : condition'.kind = condition.kind := by rw [hbuilt.kind, hdescribed]
    have hpayload' := condition'.payload_of_kind
    rw [hkind, Condition.kind_of_payload_relationSubFilter hpayload] at hpayload'
    obtain ⟨present', id', hpayload'⟩ := hpayload'
    obtain ⟨hpresent, hread, -⟩ := hc.validateRelationSubFilter hbuilt hpayload'
    rw [hdescribed] at hpresent hread
    cases hpresent
    cases hread
    exact Condition.eq_of_payload_eq hkind (by rw [hbuilt.reference, hdescribed])
      (hpayload'.trans hpayload.symm)

/-- An accepted condition points only at a filter that is stored. -/
def ChecksReferences (c : Catalogs) : Prop :=
  ∀ schema filters filterType entityType d condition id,
    c.build schema filters filterType entityType d = .ok condition →
      condition.subFilterId? = some id → filters.contains id = true

/-- The handlers of this library see to the references of their conditions. -/
theorem HasReferenceHandlers.checksReferences (hc : c.HasReferenceHandlers) :
    c.ChecksReferences := by
  intro schema filters filterType entityType d condition id hbuild hid
  obtain ⟨g, hg, hgid, -⟩ := consulted_of_build hc hbuild hid
  exact Index.contains_iff.2 ⟨g, FilterSet.mem_of_consulted? hg, hgid⟩

/-- The standard catalogs hold the handlers of this library. -/
theorem get?_standard_handlers {handler : Handler} (h : handler ∈ Handler.builtin) :
    Catalogs.standard.handlers.get? handler.kind = some handler := by
  simp only [Handler.builtin, List.mem_cons, List.not_mem_nil, or_false] at h
  rcases h with rfl | rfl | rfl | rfl | rfl | rfl | rfl | rfl <;> rfl

theorem hasReferenceHandlers_standard : Catalogs.standard.HasReferenceHandlers :=
  fun _ h _ => get?_standard_handlers h

end Catalogs

end RecordFilters
