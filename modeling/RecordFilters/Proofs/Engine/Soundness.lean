import RecordFilters.Proofs.Engine.References
import RecordFilters.Proofs.Evaluation.Progress

/-! # What is accepted stays evaluable

A stored condition was accepted from a user or has come in with a system filter. In both cases its
kind is allowed, the schema has what it refers to, and the filter at which it points is stored and of
the right types. Types of stored filters never change and nothing that is pointed at is deleted, so
under one schema all of this lasts, and no evaluation ever finds a condition broken.

* `Fits`: what holds of a condition that has been accepted.
* `Fitted`: all stored conditions fit; made engines and answered requests keep it.
* `Sound`: what this comes to for the evaluation of a filter.
* `Fitted.exists_means_of_compile`: a stored filter is evaluated to what it means.
* `sound_run_of_build`: every filter that is ever stored is sound. -/

namespace RecordFilters

namespace Catalogs

variable {c : Catalogs} {schema : Schema} {s : FilterSet} {filterType : FilterType}
  {entityType : String} {d : Descriptor} {condition : Condition} {f : Filter} {id : FilterId}

/-- What holds of an accepted condition in a filter of a type on an entity type. -/
structure Fits (c : Catalogs) (schema : Schema) (s : FilterSet) (filterType : FilterType)
    (entityType : String) (condition : Condition) : Prop where
  allowed : ∃ registry, c.registries.get? filterType = some registry ∧
    registry.allows condition.kind = true
  supported : schema.supports entityType condition = true
  pointsAt : ∀ id, condition.subFilterId? = some id → ∃ g ∈ s, g.id = id ∧
    g.filterType = filterType ∧ schema.suits entityType condition g.entityType = true

/-- What a condition consults suits it. -/
theorem exists_suits_of_consulted?
    (h : ∃ g, s.consulted? schema entityType condition = some g ∧ g.id = id ∧
      g.filterType = filterType) :
    ∃ g ∈ s, g.id = id ∧ g.filterType = filterType ∧
      schema.suits entityType condition g.entityType = true := by
  obtain ⟨g, hg, hid, htype⟩ := h
  obtain ⟨hmem, -, hsuits⟩ := FilterSet.consulted?_eq_some_iff.1 hg
  exact ⟨g, hmem, hid, htype, hsuits⟩

/-- **A condition that is accepted fits.** -/
theorem fits_of_build (hc : c.HasStandard)
    (h : c.build schema s filterType entityType d = .ok condition) :
    Fits c schema s filterType entityType condition := by
  have hbuilt := built_of_build h
  obtain ⟨registry, -, hregistry, hallows, -⟩ := hbuilt.validated
  refine ⟨⟨registry, hregistry, ?_⟩, supports_of_build hc h, fun id hid => ?_⟩
  · rw [hbuilt.kind]
    exact hallows
  · exact exists_suits_of_consulted? (consulted_of_build hc.hasReferenceHandlers h hid)

/-- A condition keeps fitting when a filter is put in place of one of the same types. -/
theorem Fits.insert (h : Fits c schema s filterType entityType condition)
    (same : ∀ g ∈ s, g.id = f.id → g.entityType = f.entityType ∧ g.filterType = f.filterType) :
    Fits c schema (s.insert f) filterType entityType condition := by
  refine ⟨h.allowed, h.supported, fun id hid => ?_⟩
  obtain ⟨g, hg, hgid, htype, hsuits⟩ := h.pointsAt id hid
  by_cases hgf : g.id = f.id
  · obtain ⟨hentity, hfilter⟩ := same g hg hgf
    rw [hentity] at hsuits
    rw [hfilter] at htype
    exact ⟨f, Index.mem_insert.2 (Or.inl rfl), hgf.symm.trans hgid, htype, hsuits⟩
  · exact ⟨g, Index.mem_insert.2 (Or.inr ⟨hg, hgf⟩), hgid, htype, hsuits⟩

/-- It keeps fitting when a filter is taken out at which it does not point. -/
theorem Fits.erase (h : Fits c schema s filterType entityType condition)
    (hne : condition.subFilterId? ≠ some id) :
    Fits c schema (s.erase id) filterType entityType condition := by
  refine ⟨h.allowed, h.supported, fun sub hsub => ?_⟩
  obtain ⟨g, hg, hgid, htype, hsuits⟩ := h.pointsAt sub hsub
  refine ⟨g, Index.mem_erase.2 ⟨hg, ?_⟩, hgid, htype, hsuits⟩
  rintro rfl
  rw [hgid] at hne
  exact hne hsub

end Catalogs

/-! ### System filters -/

theorem Condition.kind_of_descriptor? {c : Condition} {d : Descriptor}
    (h : c.descriptor? = some d) : d.kind = c.kind := by
  unfold descriptor? at h
  cases hpayload : c.payload <;>
  · rw [hpayload] at h
    cases h <;> rfl

namespace Installation

open Catalogs

variable {i : Installation} {f : Filter} {c : Condition}

theorem allowed_of_checkCondition (h : i.checkCondition f c = .ok ()) :
    ∃ registry, i.catalogs.registries.get? f.filterType = some registry ∧
      registry.allows c.kind = true := by
  unfold checkCondition at h
  split at h
  next d hd =>
    obtain ⟨c', hbuild, -⟩ := map_eq_ok_iff.1 h
    obtain ⟨registry, -, hregistry, hallows, -⟩ := (built_of_build hbuild).validated
    rw [Condition.kind_of_descriptor? hd] at hallows
    exact ⟨registry, hregistry, hallows⟩
  next =>
    obtain ⟨registry, hregistry, hallows⟩ := bind_eq_ok_iff.1 h
    exact ⟨registry, registry_eq_ok_iff.1 hregistry, allows_of_ensureAllows hallows⟩

/-- **The conditions of a system filter that comes in fit.** That the schema supports them shows when
they are evaluated. -/
theorem Passed.fits (hc : i.catalogs.HasStandard) (h : i.Passed f) (hmem : c ∈ f.conditions) :
    Fits i.catalogs i.schema i.staged f.filterType f.entityType c := by
  have hchecked := h.conditions c hmem
  have hev : i.evaluator.catalogs.HasStandard := hc
  obtain ⟨ctx, herrors⟩ := h.evaluates
  refine ⟨allowed_of_checkCondition hchecked, ?_, fun id hid => ?_⟩
  · exact Evaluator.supports_of_conditionErrors_eq_nil hev herrors hmem
  · exact exists_suits_of_consulted?
      (consulted_of_checkCondition hc.hasReferenceHandlers hchecked hid)

end Installation

/-- A plan brings no operators. -/
theorem EnginePlan.operators_of_catalogs {plan : EnginePlan} {c : Catalogs}
    (h : plan.catalogs = .ok c) : c.operators = .standard := by
  unfold catalogs at h
  obtain ⟨declared, -, h⟩ := bind_eq_ok_iff.1 h
  cases h
  rfl

namespace Engine

open Catalogs

variable {e : Engine} {f : Filter}

/-! ### Engines -/

/-- All stored conditions fit, under the handlers and the operators of this library. -/
structure Fitted (e : Engine) : Prop where
  standard : e.catalogs.HasStandard
  fits : ∀ f ∈ e.filters, ∀ c ∈ f.conditions,
    Fits e.catalogs e.schema e.filters f.filterType f.entityType c

/-- **In a new engine over an empty repository all conditions fit.** -/
theorem fitted_of_build {plan : EnginePlan} {disk : Disk} {today : Day} {r r' : Repository}
    (h : build plan disk today r = (.ok e, r')) (hr : r.filters = ∅)
    (hhandlers : e.catalogs.handlers = Catalogs.standard.handlers) : e.Fitted := by
  have hmade := made_of_build h
  have hstandard : e.catalogs.HasStandard :=
    ⟨hhandlers, EnginePlan.operators_of_catalogs hmade.catalogs⟩
  refine ⟨hstandard, fun f hf c hc => ?_⟩
  rcases hmade.passed f hf with hold | hpassed
  · rw [hr] at hold
    exact absurd hold Index.not_mem_empty
  · exact hpassed.fits hstandard hc

theorem Created.fits {u : ActingUser} {id : FilterId} {request : FilterRequest} {c : Condition}
    (h : Created e u id request f) (he : e.catalogs.HasStandard) (hc : c ∈ f.conditions) :
    Fits e.catalogs e.schema e.filters f.filterType f.entityType c := by
  obtain ⟨d, -, hbuild⟩ := exists_build_of_buildAll h.built hc
  exact fits_of_build he hbuild

theorem Updated.fits {u : ActingUser} {previous : Filter} {update : FilterUpdate} {c : Condition}
    (h : Updated e u previous update f) (he : e.Fitted) (hprevious : previous ∈ e.filters)
    (hc : c ∈ f.conditions) :
    Fits e.catalogs e.schema e.filters f.filterType f.entityType c := by
  cases hconditions : update.conditions with
  | none =>
    rw [(h.kept hconditions).1] at hc
    rw [h.filterType, h.entityType]
    exact he.fits previous hprevious c hc
  | some change =>
    obtain ⟨hbuilt, -⟩ := h.built change.1 change.2 hconditions
    obtain ⟨d, -, hbuild⟩ := exists_build_of_buildAll hbuilt hc
    exact fits_of_build he.standard hbuild

/-- **A request keeps all conditions fitting.** -/
theorem Fitted.fits_answer (he : e.Fitted) (u : ActingUser) (r : ChangeRequest) :
    ∀ f ∈ (e.answer u r).2.filters, ∀ c ∈ f.conditions,
      Fits e.catalogs e.schema (e.answer u r).2.filters f.filterType f.entityType c := by
  have h := answer_outcome e u r
  generalize (e.answer u r).2.filters = filters at h ⊢
  generalize (e.answer u r).1 = answer at h
  cases h with
  | rejected | empty => exact he.fits
  | created _ fresh prepared =>
    have hf := created_of_prepareCreate prepared
    intro g hg c hc
    rcases Index.mem_insert.1 hg with rfl | ⟨hg, -⟩
    · exact (hf.fits he.standard hc).insert fun _ => hf.types_eq fresh
    · exact (he.fits g hg c hc).insert fun _ => hf.types_eq fresh
  | updated _ _ stored prepared =>
    have hf := updated_of_prepareUpdate prepared
    have hprevious := Index.mem_of_get? stored
    intro g hg c hc
    rcases Index.mem_insert.1 hg with rfl | ⟨hg, -⟩
    · exact (hf.fits he hprevious hc).insert fun _ => hf.types_eq hprevious
    · exact (he.fits g hg c hc).insert fun _ => hf.types_eq hprevious
  | @deleted id f _ stored deletable =>
    obtain ⟨hnone, -⟩ := dependents_eq_nil_of_ensureDeletable deletable
    rw [Index.key_of_get? stored] at hnone
    intro g hg c hc
    obtain ⟨hg, -⟩ := Index.mem_erase.1 hg
    refine (he.fits g hg c hc).erase fun hid => ?_
    have hsub : id ∈ g.subFilterIds := Filter.mem_subFilterIds.2 ⟨c, hc, hid⟩
    exact FilterSet.not_pointsAt_of_parentsOf_eq_nil hnone (FilterSet.pointsAt_of_mem hg hsub)

theorem Fitted.answer (he : e.Fitted) (u : ActingUser) (r : ChangeRequest) :
    (e.answer u r).2.Fitted := by
  have hfits := he.fits_answer u r
  obtain ⟨repository, heq⟩ := answer_eq e u r
  rw [heq] at hfits ⊢
  exact ⟨he.standard, hfits⟩

theorem Fitted.run (he : e.Fitted) (rs : List (ActingUser × ChangeRequest)) :
    (e.run (requests rs)).Fitted :=
  run_requests_induction (P := Fitted) (fun _ u r h => h.answer u r) he rs

/-! ### Sound filters -/

/-- A stored filter of which no condition is ever found broken. -/
structure Sound (e : Engine) (f : Filter) : Prop where
  conditions : f.conditions ≠ []
  allowed : ∀ c ∈ f.conditions, ∃ registry,
    e.catalogs.registries.get? f.filterType = some registry ∧ registry.allows c.kind = true
  /-- A condition on a sub-filter points at a stored filter of the same types, and is that filter
  when it is evaluated. -/
  subFilter : ∀ c ∈ f.conditions, c.kind = .subFilter → ∃ g ∈ e.filters, g.id = c.reference ∧
    g.entityType = f.entityType ∧ g.filterType = f.filterType ∧
    ∀ nested, e.evaluator.conditionPredicate f nested c = nested g
  /-- A condition on a relation to what another filter selects points at a stored filter of the same
  type, whose records can be objects of the relation, and is made of that filter when it is
  evaluated. -/
  relationSubFilter : ∀ c ∈ f.conditions, c.kind = .relationSubFilter → ∃ present,
    ∃ g ∈ e.filters, c.payload = .relationSubFilter present g.id ∧ g.filterType = f.filterType ∧
    e.schema.objectCompatible c.reference g.entityType = true ∧
    ∀ nested, e.evaluator.conditionPredicate f nested c =
      (fun p => (Handler.relatedTo c.reference g.entityType p).when present) <$> nested g
  /-- Where the named ranges of the filter resolve, nothing to which it refers is missing, -/
  errors : ∀ ctx : Context, f.ResolvesOn ctx.today →
    ∀ entry ∈ (e.evaluator.conditionErrors f ctx).1, entry.2.isConfig = false
  /-- and none of its conditions is left out. -/
  parts : ∀ (ctx ctx' : Context) levels parts, f.ResolvesOn ctx.today →
    (e.evaluator.usableParts f (e.evaluator.compileWithin levels) f.conditions).runIn ctx =
      (.ok parts, ctx') → parts.length = f.conditions.length

theorem Fitted.supports (he : e.Fitted) (hf : f ∈ e.filters) : e.evaluator.Supports f := by
  refine ⟨fun c hc => (he.fits f hf c hc).supported, fun c hc id hid => ?_⟩
  obtain ⟨g, hg, hgid, -⟩ := (he.fits f hf c hc).pointsAt id hid
  exact Index.contains_iff.2 ⟨g, hg, hgid⟩

/-- **Where all conditions fit, every stored filter is sound.** -/
theorem Fitted.sound (he : e.Fitted) (hf : f ∈ e.filters) : e.Sound f := by
  have hev : e.evaluator.catalogs.HasStandard := he.standard
  refine ⟨f.conditions_ne_nil, fun c hc => (he.fits f hf c hc).allowed,
    ?subFilter, ?relationSubFilter, ?errors, ?parts⟩
  case subFilter =>
    intro c hc hkind
    have hpayload := c.payload_of_kind
    rw [hkind] at hpayload
    obtain ⟨g, hg, hid, htype, hsuits⟩ := (he.fits f hf c hc).pointsAt c.reference
      (Condition.subFilterId?_eq_some_iff.2 (Or.inl ⟨hpayload, rfl⟩))
    unfold Schema.suits at hsuits
    rw [hpayload] at hsuits
    have hentity : g.entityType = f.entityType := of_decide_eq_true hsuits
    refine ⟨g, hg, hid, hentity, htype, fun nested => ?_⟩
    exact Evaluator.conditionPredicate_subFilter hev hkind
      (Index.get?_eq_some_iff.2 ⟨hg, hid⟩) hentity
  case relationSubFilter =>
    intro c hc hkind
    have hpayload := c.payload_of_kind
    rw [hkind] at hpayload
    obtain ⟨present, id, hpayload⟩ := hpayload
    obtain ⟨g, hg, hid, htype, hsuits⟩ := (he.fits f hf c hc).pointsAt id
      (Condition.subFilterId?_eq_some_iff.2 (Or.inr ⟨present, hpayload⟩))
    unfold Schema.suits at hsuits
    rw [hpayload] at hsuits
    obtain ⟨hrelates, hobject⟩ := Bool.and_eq_true_iff.1 hsuits
    rw [← hid] at hpayload
    refine ⟨present, g, hg, hpayload, htype, hobject, fun nested => ?_⟩
    exact Evaluator.conditionPredicate_relationSubFilter hev hpayload hrelates
      (Index.get?_eq_some_iff.2 ⟨hg, rfl⟩) hobject
  case errors =>
    intro ctx hday
    exact Evaluator.isConfig_of_conditionErrors hev (he.supports hf) hday
  case parts =>
    intro ctx ctx' levels parts hday h
    exact Evaluator.length_usableParts hev (he.supports hf) hday h

/-- Where all conditions fit, a stored filter leads to filters of its own type, and a name stands for
the operand that this type has. -/
theorem Fitted.unambiguousAmong (he : e.Fitted) (hf : f ∈ e.filters) (user : Option ActingUser)
    (today : Day) : e.catalogs.registries.UnambiguousAmong (e.evaluator.typesMet f) user today := by
  refine RegistryCatalog.unambiguousAmong_of_subsingleton
    (Evaluator.subsingleton_typesMet fun g hlead g' hg' => ?_)
  obtain ⟨c, hc, hconsulted⟩ := List.mem_filterMap.1 hg'
  obtain ⟨g'', hg'', hid, htype, -⟩ := (he.fits g (hlead.mem_filters hf) c hc).pointsAt _
    (FilterSet.subFilterId?_of_consulted? hconsulted)
  obtain rfl : g'' = g' := Index.eq_of_key_eq hg'' (FilterSet.mem_of_consulted? hconsulted) hid
  exact htype

/-- **A stored filter is evaluated to what it means**, even if filter types have different operands
under one name. -/
theorem Fitted.exists_means_of_compile (he : e.Fitted) (hf : f ∈ e.filters) (records : RecordSet)
    {ctx ctx' : Context} (hmemo : ctx.memo = ∅) (hresolved : ctx.resolved = ∅) {p : Predicate}
    (h : (e.evaluator.compile f).runIn ctx = (.ok p, ctx')) :
    ∃ m, (e.evaluator.setting records ctx.user ctx.today).Means f m ∧
      ∀ r, p.holds records r = m r :=
  Evaluator.exists_means_of_compile he.standard records hmemo hresolved
    (he.unambiguousAmong hf _ _) h

/-- **Over an empty repository every filter that is ever stored is sound**, under the handlers of this
library and as long as the schema stays: from the system filters of the engine to the end of every
run of requests. -/
theorem sound_run_of_build {plan : EnginePlan} {disk : Disk} {today : Day} {r r' : Repository}
    (h : build plan disk today r = (.ok e, r')) (hr : r.filters = ∅)
    (hhandlers : e.catalogs.handlers = Catalogs.standard.handlers)
    (rs : List (ActingUser × ChangeRequest)) :
    ∀ f ∈ (e.run (requests rs)).filters, (e.run (requests rs)).Sound f :=
  fun _ hf => ((fitted_of_build h hr hhandlers).run rs).sound hf

/-- System filters of which the first is made of the second, under a schema with a date field. -/
def household : EnginePlan where
  schema := some {
    entityTypes := .ofList [⟨"person", .ofList [{ name := "born", kind := .date }]⟩]
    relationTypes := .ofList [{ id := "manages" }], propertyTypes := .ofList [{ id := "vip" }] }
  directory := some {}
  storage := some {}
  systemFilters := [
    { id := "bosses", name := "Bosses", entityType := "person"
      conditions := [.onRelationSubFilter "manages" true "vips"], conditions_ne_nil := by simp },
    { id := "vips", name := "VIPs", entityType := "person"
      conditions := [.onProperty "vip" true]
      conditions_ne_nil := Condition.onProperty_ne_nil _ _ }]

/-- A user makes a filter of a system filter and a named range. -/
def bornYesterday : List (ActingUser × ChangeRequest) :=
  [({ id := "ann" }, .create {
    id := some "mine", name := "Mine", entityType := "person"
    conditions := [.subFilter "bosses", .dateField "born" (.named .yesterday)] })]

theorem sound_run_of_build_household : ∃ e r,
    build household {} ⟨2024, 1, 1, by decide, by decide, by decide⟩ {} = (.ok e, r) ∧
      (e.run (requests bornYesterday)).filters.contains "mine" = true ∧
      ∀ f ∈ (e.run (requests bornYesterday)).filters, (e.run (requests bornYesterday)).Sound f := by
  have hok : ((build household {} ⟨2024, 1, 1, by decide, by decide, by decide⟩ {}).1.map
      fun e => (e.run (requests bornYesterday)).filters.contains "mine") = .ok true := by cbv
  rcases h : build household {} ⟨2024, 1, 1, by decide, by decide, by decide⟩ {}
    with ⟨error | e, r⟩
  · rw [h] at hok
    cases hok
  · rw [h] at hok
    have hhandlers : e.catalogs.handlers = Catalogs.standard.handlers := by
      have hcatalogs : (.ok Catalogs.standard : Except SetupFault Catalogs) = .ok e.catalogs :=
        (made_of_build h).catalogs
      rw [← Except.ok.inj hcatalogs]
    exact ⟨e, r, rfl, Except.ok.inj hok, sound_run_of_build h rfl hhandlers bornYesterday⟩

end Engine

end RecordFilters
