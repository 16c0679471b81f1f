import RecordFilters.Proofs.Engine.Candidate
import RecordFilters.Proofs.Engine.Installing
import RecordFilters.Proofs.Graph.WellTyped
import RecordFilters.Proofs.Handler.Accepted

/-! # References stay complete

A condition that points at another filter is accepted only if that filter is stored, and a filter is
deleted only if nothing points at it. So where no reference dangles, none ever does. As the types of a
stored filter are never changed either, references stay well typed under a fixed schema.

* `hasReferenceHandlers_of_build`: which engines see to the references.
* `complete_of_build`: what making an engine keeps.
* `Created.contains`, `Updated.contains`: an accepted candidate points at stored filters.
* `complete_answer`, `wellTyped_answer`: what one request keeps. -/

namespace RecordFilters

variable {c : Catalogs} {schema : Schema} {filters : FilterSet} {filterType : FilterType}
  {entityType : String} {ds : List Descriptor} {sub : FilterId}

/-- A filter with accepted conditions points at stored filters. -/
theorem Catalogs.ChecksReferences.contains_of_buildAll {f : Filter} (hc : c.ChecksReferences)
    (h : c.buildAll schema filters filterType entityType ds = .ok f.conditions)
    (hsub : sub ∈ f.subFilterIds) : filters.contains sub = true := by
  obtain ⟨condition, hmem, hid⟩ := Filter.mem_subFilterIds.1 hsub
  obtain ⟨d, -, hbuild⟩ := exists_build_of_buildAll h hmem
  exact hc _ _ _ _ _ _ _ hbuild hid

/-- A kind of this library for which a plan has no handler of its own keeps that of this library. -/
theorem EnginePlan.get?_handlers {plan : EnginePlan} {handler : Handler}
    (h : plan.catalogs = .ok c) (hbuiltin : handler ∈ Handler.builtin)
    (hplan : ∀ extension ∈ plan.handlers, extension.kind ≠ handler.kind) :
    c.handlers.get? handler.kind = some handler := by
  unfold catalogs at h
  obtain ⟨declared, -, h⟩ := bind_eq_ok_iff.1 h
  cases h
  dsimp only
  rw [Index.get?_insertAll hplan]
  exact Catalogs.get?_standard_handlers hbuiltin

/-- The extensions of a plan leave the conditions on other filters to this library, if none of its
handlers is for one of those kinds. -/
theorem EnginePlan.hasReferenceHandlers {plan : EnginePlan} (h : plan.catalogs = .ok c)
    (hplan : ∀ handler ∈ plan.handlers, handler.kind.referencesFilter = false) :
    c.HasReferenceHandlers := by
  intro handler hbuiltin hkind
  refine EnginePlan.get?_handlers h hbuiltin fun extension hmem heq => ?_
  have hfalse := hplan extension hmem
  rw [heq, hkind] at hfalse
  cases hfalse

/-- A new system filter consults what its conditions point at, as the filter of a user does. -/
theorem Installation.consulted_of_checkCondition {i : Installation}
    (hc : i.catalogs.HasReferenceHandlers) {f : Filter} {c : Condition}
    (h : i.checkCondition f c = .ok ()) (hid : c.subFilterId? = some sub) :
    ∃ g, i.staged.consulted? i.schema f.entityType c = some g ∧ g.id = sub ∧
      g.filterType = f.filterType := by
  obtain ⟨d, hd⟩ : ∃ d, c.descriptor? = some d := by
    unfold Condition.descriptor?
    rcases Condition.subFilterId?_eq_some_iff.1 hid with ⟨hpayload, -⟩ | ⟨present, hpayload⟩ <;>
    · rw [hpayload]
      exact ⟨_, rfl⟩
  unfold checkCondition at h
  rw [hd] at h
  obtain ⟨c', hbuild, -⟩ := map_eq_ok_iff.1 h
  have hsame : c' = c := Catalogs.eq_of_build_descriptor hc hd hid hbuild
  rw [hsame] at hbuild
  exact Catalogs.consulted_of_build hc hbuild hid

namespace Engine

variable {e : Engine} {u : ActingUser} {id : FilterId} {request : FilterRequest}
  {previous f : Filter} {update : FilterUpdate}

/-- So do the engines that are made from such a plan. -/
theorem hasReferenceHandlers_of_build {plan : EnginePlan} {disk : Disk} {today : Day}
    {repository repository' : Repository}
    (h : build plan disk today repository = (.ok e, repository'))
    (hplan : ∀ handler ∈ plan.handlers, handler.kind.referencesFilter = false) :
    e.catalogs.HasReferenceHandlers :=
  EnginePlan.hasReferenceHandlers (made_of_build h).catalogs hplan

/-- **Making an engine lets no reference dangle.** System filters that come in together may point at
each other. -/
theorem complete_of_build {plan : EnginePlan} {disk : Disk} {today : Day}
    {repository repository' : Repository}
    (h : build plan disk today repository = (.ok e, repository'))
    (hc : e.catalogs.HasReferenceHandlers) (hs : repository.filters.Complete) :
    e.filters.Complete := by
  have hmade := made_of_build h
  rw [FilterSet.complete_iff] at hs ⊢
  intro f hf sub hsub
  rcases hmade.passed f hf with hold | hpassed
  · obtain ⟨g, hg, hid⟩ := Index.contains_iff.1 (hs f hold sub hsub)
    exact Index.contains_iff.2 ⟨g, hmade.kept g hg, hid⟩
  · obtain ⟨c, hmem, hid⟩ := Filter.mem_subFilterIds.1 hsub
    obtain ⟨g, hg, hgid, -⟩ :=
      Installation.consulted_of_checkCondition hc (hpassed.conditions c hmem) hid
    exact Index.contains_iff.2 ⟨g, FilterSet.mem_of_consulted? hg, hgid⟩

theorem Created.contains (h : Created e u id request f) (hc : e.catalogs.ChecksReferences)
    (hsub : sub ∈ f.subFilterIds) : e.filters.contains sub = true :=
  hc.contains_of_buildAll h.built hsub

/-- A filter whose conditions are kept points at what it pointed at before. -/
theorem Updated.subFilterIds_eq (h : Updated e u previous update f)
    (hkept : update.conditions = none) : f.subFilterIds = previous.subFilterIds := by
  unfold Filter.subFilterIds
  rw [(h.kept hkept).1]

theorem Updated.contains (h : Updated e u previous update f) (hc : e.catalogs.ChecksReferences)
    (hs : e.filters.Complete) (hprevious : previous ∈ e.filters) (hsub : sub ∈ f.subFilterIds) :
    e.filters.contains sub = true := by
  cases hconditions : update.conditions with
  | none =>
    rw [h.subFilterIds_eq hconditions] at hsub
    exact hs _ _ (FilterSet.pointsAt_of_mem hprevious hsub)
  | some change =>
    obtain ⟨hbuilt, -⟩ := h.built change.1 change.2 hconditions
    exact hc.contains_of_buildAll hbuilt hsub

/-- Each reference of an accepted candidate is followed. -/
theorem Created.consulted (h : Created e u id request f) (hc : e.catalogs.HasReferenceHandlers)
    {c : Condition} (hmem : c ∈ f.conditions) (hid : c.subFilterId? = some sub) :
    ∃ g, e.filters.consulted? e.schema f.entityType c = some g ∧ g.id = sub := by
  obtain ⟨d, -, hbuild⟩ := exists_build_of_buildAll h.built hmem
  obtain ⟨g, hg, hgid, -⟩ := Catalogs.consulted_of_build hc hbuild hid
  exact ⟨g, hg, hgid⟩

theorem Updated.consulted (h : Updated e u previous update f)
    (hc : e.catalogs.HasReferenceHandlers) (hs : e.filters.WellTyped e.schema)
    (hprevious : previous ∈ e.filters) {c : Condition} (hmem : c ∈ f.conditions)
    (hid : c.subFilterId? = some sub) :
    ∃ g, e.filters.consulted? e.schema f.entityType c = some g ∧ g.id = sub := by
  cases hconditions : update.conditions with
  | none =>
    rw [(h.kept hconditions).1] at hmem
    rw [h.entityType]
    exact hs previous hprevious c hmem sub hid
  | some change =>
    obtain ⟨hbuilt, -⟩ := h.built change.1 change.2 hconditions
    obtain ⟨d, -, hbuild⟩ := exists_build_of_buildAll hbuilt hmem
    obtain ⟨g, hg, hgid, -⟩ := Catalogs.consulted_of_build hc hbuild hid
    exact ⟨g, hg, hgid⟩

/-- Nothing depends on a filter that may be deleted, neither a filter nor a record outside. -/
theorem dependents_eq_nil_of_ensureDeletable (h : e.ensureDeletable u f = .ok ()) :
    e.filters.parentsOf f.id = [] ∧ e.references.labelsOf f.id = [] := by
  unfold ensureDeletable at h
  obtain ⟨⟨⟩, -, h⟩ := bind_eq_ok_iff.1 h
  split at h
  next hnone =>
    unfold Authorization.dependents at hnone
    exact List.append_eq_nil_iff.1 hnone
  next => cases h

/-- **A request lets no reference dangle.** -/
theorem complete_answer (hc : e.catalogs.ChecksReferences) (hs : e.filters.Complete)
    (u : ActingUser) (r : ChangeRequest) : (e.answer u r).2.filters.Complete := by
  have h := answer_outcome e u r
  generalize (e.answer u r).2.filters = filters at h ⊢
  generalize (e.answer u r).1 = answer at h
  cases h with
  | rejected | empty => exact hs
  | created _ _ prepared =>
    have hf := created_of_prepareCreate prepared
    exact hs.insert fun sub hsub => hf.contains hc hsub
  | updated _ _ stored prepared =>
    have hf := updated_of_prepareUpdate prepared
    exact hs.insert fun sub hsub => hf.contains hc hs (Index.mem_of_get? stored) hsub
  | deleted _ stored deletable =>
    obtain ⟨hnone, -⟩ := dependents_eq_nil_of_ensureDeletable deletable
    rw [Index.key_of_get? stored] at hnone
    exact hs.erase hnone

/-- **A request keeps references well typed.** -/
theorem wellTyped_answer (hc : e.catalogs.HasReferenceHandlers)
    (hs : e.filters.WellTyped e.schema) (u : ActingUser) (r : ChangeRequest) :
    (e.answer u r).2.filters.WellTyped e.schema := by
  have h := answer_outcome e u r
  generalize (e.answer u r).2.filters = filters at h ⊢
  generalize (e.answer u r).1 = answer at h
  cases h with
  | rejected | empty => exact hs
  | created _ fresh prepared =>
    have hf := created_of_prepareCreate prepared
    exact hs.insert (fun c hmem sub hid => hf.consulted hc hmem hid)
      fun g hg heq => (hf.types_eq fresh hg heq).1
  | updated _ _ stored prepared =>
    have hf := updated_of_prepareUpdate prepared
    have hprevious := Index.mem_of_get? stored
    exact hs.insert (fun c hmem sub hid => hf.consulted hc hs hprevious hmem hid)
      fun g hg heq => (hf.types_eq hprevious hg heq).1
  | deleted _ stored deletable =>
    obtain ⟨hnone, -⟩ := dependents_eq_nil_of_ensureDeletable deletable
    rw [Index.key_of_get? stored] at hnone
    exact hs.erase hnone

end Engine

end RecordFilters
