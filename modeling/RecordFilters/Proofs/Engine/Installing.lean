import Mathlib
import RecordFilters.Engine.Build
import RecordFilters.Proofs.Results
import RecordFilters.Proofs.Repository.Changes

/-! # What an engine starts with

When an engine is made over a repository, the filters that are stored there stay, and the system
filters that are new come in. All new ones have been checked together before, against the filters
that there are in the end, so that they may point at each other.

* `Installation.Passed`: what a new system filter has passed.
* `EnginePlan.Ready`: a plan that brings all that an engine needs.
* `Engine.Made`: an engine that has been made of a plan over a repository.
* `Engine.made_of_build`: making an engine succeeds only if it is one. -/

namespace RecordFilters

/-! ### Storing -/

namespace Repository

variable {r r' : Repository} {f g : Filter} {l : List Filter}

theorem mem_of_ofFilters (h : ofFilters l = .ok r) : g ∈ r.filters ↔ g ∈ l := by
  have general : ∀ (l : List Filter) (r₀ : Repository),
      l.foldlM (fun r f => if r.contains f.id then .error (.duplicateId f.id)
        else .ok { r with filters := r.filters.insert f }) r₀ = (.ok r : Except RepositoryError _) →
      (g ∈ r.filters ↔ g ∈ r₀.filters ∨ g ∈ l) := by
    intro l
    induction l with
    | nil =>
      intro r₀ h
      cases h
      simp
    | cons f l ih =>
      intro r₀ h
      rw [List.foldlM_cons] at h
      obtain ⟨r₁, hstep, h⟩ := bind_eq_ok_iff.1 h
      split at hstep
      next => cases hstep
      next hfresh =>
        cases hstep
        rw [ih _ h, Index.mem_insert_of_fresh hfresh, List.mem_cons, or_assoc]
  rw [general l {} h]
  simp

/-- Only filters with different ids make a repository. -/
theorem nodup_of_ofFilters (h : ofFilters l = .ok r) : (l.map Filter.id).Nodup := by
  have general : ∀ (l : List Filter) (r₀ : Repository),
      l.foldlM (fun r f => if r.contains f.id then .error (.duplicateId f.id)
        else .ok { r with filters := r.filters.insert f }) r₀ = (.ok r : Except RepositoryError _) →
      (l.map Filter.id).Nodup ∧ ∀ f ∈ l, ¬ r₀.contains f.id = true := by
    intro l
    induction l with
    | nil => exact fun _ _ => ⟨List.nodup_nil, fun f hf => nomatch hf⟩
    | cons f l ih =>
      intro r₀ h
      rw [List.foldlM_cons] at h
      obtain ⟨r₁, hstep, h⟩ := bind_eq_ok_iff.1 h
      split at hstep
      next => cases hstep
      next hfresh =>
        cases hstep
        obtain ⟨hnodup, hapart⟩ := ih _ h
        refine ⟨List.nodup_cons.2 ⟨fun hf => ?_, hnodup⟩, fun g hg hcontains => ?_⟩
        · obtain ⟨g, hg, hid⟩ := List.mem_map.1 hf
          exact hapart g hg (Index.contains_insert.2 (Or.inl hid))
        · rcases List.mem_cons.1 hg with rfl | hg
          · exact hfresh hcontains
          · exact hapart g hg (Index.contains_insert.2 (Or.inr hcontains))
  exact (general l {} h).1

/-- Filters with different ids make a repository. -/
theorem exists_ofFilters (h : (l.map Filter.id).Nodup) : ∃ r, ofFilters l = .ok r := by
  have general : ∀ (l : List Filter) (r : Repository), (l.map Filter.id).Nodup →
      (∀ f ∈ l, ¬ r.contains f.id = true) →
      ∃ r', l.foldlM (fun r f => if r.contains f.id then .error (.duplicateId f.id)
        else .ok { r with filters := r.filters.insert f }) r =
          (.ok r' : Except RepositoryError _) := by
    intro l
    induction l with
    | nil => exact fun r _ _ => ⟨r, rfl⟩
    | cons f l ih =>
      intro r hnodup hfresh
      obtain ⟨hf, hl⟩ := List.nodup_cons.1 hnodup
      obtain ⟨r', hr'⟩ := ih { r with filters := r.filters.insert f } hl (by
        intro g hg hcontains
        rcases Index.contains_insert.1 hcontains with heq | hcontains
        · exact hf (heq ▸ List.mem_map_of_mem hg)
        · exact hfresh g (List.mem_cons_of_mem _ hg) hcontains)
      refine ⟨r', ?_⟩
      rw [List.foldlM_cons, if_neg (hfresh f List.mem_cons_self)]
      exact hr'
  exact general l {} h fun f _ hcontains => by
    obtain ⟨g, hg, -⟩ := Index.contains_iff.1 hcontains
    exact Index.not_mem_empty hg

/-- The filters of a repository make one. -/
theorem exists_ofFilters_toList (s : FilterSet) : ∃ r, ofFilters s.toList = .ok r := by
  refine exists_ofFilters (List.pairwise_map.2 (s.sorted.imp ?_))
  intro f g hlt heq
  rw [heq] at hlt
  exact KeyOrder.irrefl _ hlt

/-- A repository that keeps a change holds the filters that it was given. -/
theorem filters_of_commit {α : Type} {filters : FilterSet} {a b : α}
    (h : r.commit filters a = (.ok b, r')) : r'.filters = filters := by
  have kept : (Repository.persist { r with filters := filters }).2.filters = filters :=
    filters_persist _
  unfold commit at h
  split at h
  next s hs =>
    rw [hs] at kept
    cases h
    exact kept
  next => cases h

theorem mem_of_insert (h : r.insert f = (.ok (), r')) : g ∈ r'.filters ↔ g ∈ r.filters ∨ g = f := by
  rw [insert_eq_commit] at h
  split at h
  next => cases h
  next hfresh => rw [filters_of_commit h, Index.mem_insert_of_fresh hfresh]

/-- Adding a filter takes none away, whether it can be stored or not. -/
theorem mem_insert_of_mem (hg : g ∈ r.filters) : g ∈ (r.insert f).2.filters := by
  rcases hinsert : r.insert f with ⟨error | ⟨⟩, r'⟩
  · rw [insert_eq_commit] at hinsert
    unfold commit at hinsert
    split at hinsert
    next =>
      cases hinsert
      exact hg
    next =>
      split at hinsert
      next => cases hinsert
      next =>
        cases hinsert
        exact hg
  · exact (mem_of_insert hinsert).2 (Or.inl hg)

theorem mem_insertEach_of_mem (hg : g ∈ r.filters) : g ∈ (Engine.insertEach r l).2.filters := by
  induction l generalizing r with
  | nil => exact hg
  | cons f l ih =>
    have hstep := mem_insert_of_mem (f := f) hg
    unfold Engine.insertEach
    split
    next hinsert =>
      rw [hinsert] at hstep
      exact ih hstep
    next hinsert =>
      rw [hinsert] at hstep
      exact hstep

theorem mem_of_insertEach (h : Engine.insertEach r l = (.ok (), r')) :
    g ∈ r'.filters ↔ g ∈ r.filters ∨ g ∈ l := by
  induction l generalizing r with
  | nil =>
    cases h
    simp
  | cons f l ih =>
    unfold Engine.insertEach at h
    split at h
    next r₁ hinsert => rw [ih h, mem_of_insert hinsert, List.mem_cons, or_assoc]
    next => cases h

end Repository

/-! ### Checking -/

namespace Installation

variable {i : Installation} {ctx : Context} {l : List Filter} {f : Filter} {position : Nat}

/-- What a new system filter has passed. -/
structure Passed (i : Installation) (f : Filter) : Prop where
  acyclic : (⟨i.staged, i.maxDepth⟩ : GraphWalk).checkAcyclic f = .ok ()
  conditions : ∀ c ∈ f.conditions, i.checkCondition f c = .ok ()
  evaluates : ∃ ctx, (i.evaluator.conditionErrors f ctx).1 = []

theorem checkCondition_of_checkConditions {conditions : List Condition} {c : Condition}
    (h : i.checkConditions f position conditions = .ok ()) (hc : c ∈ conditions) :
    i.checkCondition f c = .ok () := by
  induction conditions generalizing position with
  | nil => cases hc
  | cons first conditions ih =>
    unfold checkConditions at h
    split at h
    next hfirst =>
      rcases List.mem_cons.1 hc with rfl | hc
      · exact hfirst
      · exact ih h hc
    next => cases h

/-- Each of the filters that are checked together passes. -/
theorem passed_of_check (h : i.check ctx l = .ok ()) (hf : f ∈ l) : i.Passed f := by
  induction l generalizing ctx with
  | nil => cases hf
  | cons g l ih =>
    unfold check at h
    obtain ⟨⟨⟩, hacyclic, h⟩ := bind_eq_ok_iff.1 h
    obtain ⟨⟨⟩, hconditions, h⟩ := bind_eq_ok_iff.1 h
    split at h
    next => cases h
    next ctx' herrors =>
      rcases List.mem_cons.1 hf with rfl | hf
      · refine ⟨mapError_eq_ok_iff.1 hacyclic,
          fun c hc => checkCondition_of_checkConditions hconditions hc, ctx, ?_⟩
        rw [herrors]
      · exact ih h hf

end Installation

/-! ### Making -/

/-- A plan that has all that the engine needs, apart from the repository. -/
structure EnginePlan.Ready (p : EnginePlan) (disk : Disk) (e : Engine) (filters : List Filter) :
    Prop where
  depth : p.config.maxDepth ≠ 0
  config : e.config = p.config
  schema : p.schema = some e.schema
  directory : p.directory = some e.directory
  storage : p.storage = some e.storage
  references : e.references = p.references
  catalogs : p.catalogs = .ok e.catalogs
  filters : p.allSystemFilters disk = .ok filters

namespace Engine

variable {plan : EnginePlan} {disk : Disk} {catalogs : Catalogs} {schema : Schema} {maxDepth : Nat}
  {today : Day} {filters : List Filter} {r r' : Repository} {e : Engine}

/-- What is installed has been checked against the filters that are stored in the end. -/
theorem passed_of_install
    (h : install catalogs schema maxDepth today filters r = (.ok (), r')) :
    (∀ f, f ∈ r'.filters ↔ f ∈ r.filters ∨ f ∈ freshFilters r filters) ∧
      ∀ f ∈ freshFilters r filters,
        Installation.Passed ⟨catalogs, schema, r'.filters, maxDepth⟩ f := by
  unfold install at h
  dsimp only at h
  split at h
  next => cases h
  next hchecked =>
    obtain ⟨staging, hstaging, hchecked⟩ := bind_eq_ok_iff.1 hchecked
    have hstaging := mapError_eq_ok_iff.1 hstaging
    rcases hinserted : insertEach r (freshFilters r filters) with ⟨result, r₁⟩
    rw [hinserted] at h
    cases result with
    | error => cases h
    | ok =>
      cases h
      have stored : ∀ f, f ∈ r₁.filters ↔ f ∈ r.filters ∨ f ∈ freshFilters r filters :=
        fun f => Repository.mem_of_insertEach hinserted
      have same : r₁.filters = staging.filters := by
        refine Index.eq_of_mem_iff fun f => ?_
        rw [stored f, Repository.mem_of_ofFilters hstaging, List.mem_append]
        exact Iff.rfl
      refine ⟨stored, fun f hf => ?_⟩
      rw [same]
      exact Installation.passed_of_check hchecked hf

theorem given_eq_ok_iff {α : Type} {what : Collaborator} {o : Option α} {a : α} :
    given what o = .ok a ↔ o = some a := by
  cases o <;> simp [given]

/-- With a plan that brings all, making an engine comes down to the installation. -/
theorem build_of_ready (h : plan.Ready disk e filters) (today : Day) (r : Repository) :
    build plan disk today r =
      match install e.catalogs e.schema e.config.maxDepth today filters r with
      | (.error error, r') => (.error error, r')
      | (.ok (), r') => (.ok { e with repository := r' }, r') := by
  obtain ⟨config, catalogs, schema, directory, references, storage, repository⟩ := e
  obtain ⟨hdepth, rfl, hschema, hdirectory, hstorage, rfl, hcatalogs, hfilters⟩ := h
  unfold build
  simp only [if_neg hdepth, hschema, hdirectory, hstorage, hcatalogs, hfilters]
  rfl

/-- With any other plan no filter is looked at. -/
theorem ready_or_build_eq_error (plan : EnginePlan) (disk : Disk) (today : Day) (r : Repository) :
    (∃ e filters, plan.Ready disk e filters) ∨
      ∃ error, build plan disk today r = (.error error, r) := by
  unfold build
  dsimp only
  split
  next error _ => exact Or.inr ⟨error, rfl⟩
  next engine systemFilters hprepared =>
    refine Or.inl ⟨engine, systemFilters, ?_⟩
    split at hprepared
    next => cases hprepared
    next hdepth =>
      obtain ⟨schema, hschema, hprepared⟩ := bind_eq_ok_iff.1 hprepared
      obtain ⟨directory, hdirectory, hprepared⟩ := bind_eq_ok_iff.1 hprepared
      obtain ⟨storage, hstorage, hprepared⟩ := bind_eq_ok_iff.1 hprepared
      obtain ⟨catalogs, hcatalogs, hprepared⟩ := bind_eq_ok_iff.1 hprepared
      obtain ⟨filters, hfilters, hprepared⟩ := bind_eq_ok_iff.1 hprepared
      cases hprepared
      exact {
        depth := hdepth
        config := rfl
        schema := given_eq_ok_iff.1 hschema
        directory := given_eq_ok_iff.1 hdirectory
        storage := given_eq_ok_iff.1 hstorage
        references := rfl
        catalogs := mapError_eq_ok_iff.1 hcatalogs
        filters := mapError_eq_ok_iff.1 hfilters }

/-- An engine is made by a plan that brings all and by an installation that succeeds. -/
theorem exists_install_of_build (h : build plan disk today r = (.ok e, r')) :
    ∃ e₀ filters, plan.Ready disk e₀ filters ∧
      install e₀.catalogs e₀.schema e₀.config.maxDepth today filters r = (.ok (), r') ∧
      e = { e₀ with repository := r' } := by
  rcases ready_or_build_eq_error plan disk today r with ⟨e₀, filters, hready⟩ | ⟨error, hfails⟩
  · rw [build_of_ready hready] at h
    refine ⟨e₀, filters, hready, ?_⟩
    split at h
    next => cases h
    next hinstall =>
      cases h
      exact ⟨hinstall, rfl⟩
  · rw [hfails] at h
    cases h

/-- Where an engine is made, there is one. -/
theorem exists_of_build {α : Type} {part : Engine → α} {a : α}
    (h : (build plan disk today r).1.map part = .ok a) :
    ∃ e r', build plan disk today r = (.ok e, r') ∧ part e = a := by
  rcases hbuild : build plan disk today r with ⟨result, r'⟩
  rw [hbuild] at h
  obtain ⟨e, rfl, hpart⟩ := map_eq_ok_iff.1 h
  exact ⟨e, r', rfl, hpart⟩

/-- **Making an engine takes no filter away**, whether it succeeds or not. -/
theorem mem_build_of_mem (plan : EnginePlan) (disk : Disk) (today : Day) {f : Filter}
    (hf : f ∈ r.filters) : f ∈ (build plan disk today r).2.filters := by
  unfold build
  dsimp only
  split
  next => exact hf
  next engine systemFilters _ =>
    have hinstall : f ∈ (install engine.catalogs engine.schema engine.config.maxDepth today
        systemFilters r).2.filters := by
      unfold install
      dsimp only
      split
      next => exact hf
      next => exact Repository.mem_insertEach_of_mem hf
    split
    next h =>
      rw [h] at hinstall
      exact hinstall
    next h =>
      rw [h] at hinstall
      exact hinstall

/-- The installation in which the filters of an engine are what there is. -/
def installation (e : Engine) : Installation := ⟨e.catalogs, e.schema, e.filters, e.config.maxDepth⟩

/-- An engine that has been made of a plan over a repository: what was stored there is still stored,
and whatever has come in is a new system filter of the plan and has passed as such. -/
structure Made (plan : EnginePlan) (disk : Disk) (r : Repository) (e : Engine) : Prop where
  catalogs : plan.catalogs = .ok e.catalogs
  schema : plan.schema = some e.schema
  kept : ∀ f ∈ r.filters, f ∈ e.filters
  installed : ∃ filters, plan.allSystemFilters disk = .ok filters ∧
    ∀ f ∈ e.filters, f ∈ r.filters ∨ f ∈ freshFilters r filters
  passed : ∀ f ∈ e.filters, f ∈ r.filters ∨ e.installation.Passed f

/-- **An engine is made only if all that comes in has passed.** -/
theorem made_of_build (h : build plan disk today r = (.ok e, r')) : Made plan disk r e := by
  obtain ⟨e₀, filters, hready, hinstalled, rfl⟩ := exists_install_of_build h
  obtain ⟨stored, hpassed⟩ := passed_of_install hinstalled
  exact ⟨hready.catalogs, hready.schema, fun f hf => (stored f).2 (Or.inl hf),
    ⟨filters, hready.filters, fun f hf => (stored f).1 hf⟩,
    fun f hf => ((stored f).1 hf).imp_right (hpassed f)⟩

end Engine

end RecordFilters
