import RecordFilters.Proofs.Engine.InstalledOwnership

/-! # Making an engine again

All that can go wrong with new system filters is found out before the first of them is stored: two
with one id where they are put together, and the rest where they are checked. In memory nothing else
can fail, so that making an engine either fails and stores nothing or stores all that is new. Once
they are stored, system filters are not checked again, whatever has become of the schema.

* `Engine.insertEach_of_memory`: storing does not fail after the checks.
* `Engine.install_of_installed`: nothing happens where nothing is new.
* `Engine.build_of_memory`: the two together. -/

namespace RecordFilters

/-! ### What a plan brings -/

/-- The same plan for other data. -/
def EnginePlan.over (p : EnginePlan) (schema : Schema) (directory : Directory) (storage : Storage)
    (references : References) : EnginePlan :=
  { p with
    schema := some schema, directory := some directory, storage := some storage
    references := references }

theorem EnginePlan.Ready.over {p : EnginePlan} {disk : Disk} {e : Engine} {filters : List Filter}
    (h : p.Ready disk e filters) (schema : Schema) (directory : Directory) (storage : Storage)
    (references : References) :
    (p.over schema directory storage references).Ready disk
      { e with schema := schema, directory := directory, storage := storage
               references := references } filters where
  depth := h.depth
  config := h.config
  schema := rfl
  directory := rfl
  storage := rfl
  references := rfl
  catalogs := h.catalogs
  filters := h.filters

namespace Engine

variable {plan : EnginePlan} {disk : Disk} {today : Day} {r r' : Repository} {e : Engine}
  {error : EngineError} {filters : List Filter} {catalogs : Catalogs} {schema : Schema}
  {maxDepth : Nat}

/-! ### Installing -/

/-- What is stored in memory under ids that are free is stored. -/
theorem insertEach_of_memory (hmemory : r.backing = none) (hnodup : (filters.map Filter.id).Nodup)
    (hfresh : ∀ f ∈ filters, ¬ r.contains f.id = true) :
    ∃ s, insertEach r filters = (.ok (), { r with filters := s }) := by
  induction filters generalizing r with
  | nil => exact ⟨r.filters, rfl⟩
  | cons f rest ih =>
    obtain ⟨hf, hrest⟩ := List.nodup_cons.1 hnodup
    have hinsert : r.insert f = (.ok (), { r with filters := r.filters.insert f }) := by
      rw [Repository.insert_eq_commit, if_neg (hfresh f List.mem_cons_self),
        Repository.commit_of_memory hmemory]
    obtain ⟨s, hs⟩ := ih (r := { r with filters := r.filters.insert f }) hmemory hrest (by
      intro g hg hcontains
      rcases Index.contains_insert.1 hcontains with hid | hcontains
      · exact hf (hid ▸ List.mem_map_of_mem hg)
      · exact hfresh g (List.mem_cons_of_mem _ hg) hcontains)
    refine ⟨s, ?_⟩
    unfold insertEach
    rw [hinsert]
    exact hs

/-- **In memory all new filters are stored or none**, and nothing else changes. -/
theorem install_of_memory (hmemory : r.backing = none) (catalogs : Catalogs) (schema : Schema)
    (maxDepth : Nat) (today : Day) (filters : List Filter) :
    (∃ error, install catalogs schema maxDepth today filters r = (.error error, r)) ∨
      ∃ s, install catalogs schema maxDepth today filters r = (.ok (), { r with filters := s }) := by
  unfold install
  dsimp only
  split
  next error _ => exact Or.inl ⟨error, rfl⟩
  next hchecked =>
    obtain ⟨staging, hstaging, -⟩ := bind_eq_ok_iff.1 hchecked
    have hnodup := Repository.nodup_of_ofFilters (mapError_eq_ok_iff.1 hstaging)
    rw [List.map_append] at hnodup
    have hfresh : ∀ f ∈ freshFilters r filters, ¬ r.contains f.id = true :=
      fun f hf => by simpa using (List.mem_filter.1 hf).2
    obtain ⟨s, hs⟩ := insertEach_of_memory hmemory hnodup.of_append_right hfresh
    refine Or.inr ⟨s, ?_⟩
    rw [hs]
    rfl

/-- **Where nothing is new, nothing happens**, and nothing is checked. -/
theorem install_of_installed (hinstalled : ∀ f ∈ filters, r.contains f.id = true)
    (catalogs : Catalogs) (schema : Schema) (maxDepth : Nat) (today : Day) :
    install catalogs schema maxDepth today filters r = (.ok (), r) := by
  have hnone : freshFilters r filters = [] :=
    List.filter_eq_nil_iff.2 fun f hf => by simp [hinstalled f hf]
  obtain ⟨staging, hstaging⟩ := Repository.exists_ofFilters_toList r.filters
  unfold install
  simp only [hnone, List.append_nil, hstaging]
  rfl

/-- Afterwards nothing is new any more. -/
theorem contains_of_install (h : install catalogs schema maxDepth today filters r = (.ok (), r')) :
    ∀ f ∈ filters, r'.contains f.id = true := by
  obtain ⟨hstored, -⟩ := passed_of_install h
  intro f hf
  by_cases hold : r.contains f.id = true
  · obtain ⟨g, hg, hid⟩ := Index.contains_iff.1 hold
    exact Index.contains_iff.2 ⟨g, (hstored g).2 (Or.inl hg), hid⟩
  · have hfresh : f ∈ freshFilters r filters := List.mem_filter.2 ⟨hf, by simp [hold]⟩
    exact Index.contains_iff.2 ⟨f, (hstored f).2 (Or.inr hfresh), rfl⟩

/-! ### Making -/

/-- **Making an engine over a repository in memory stores nothing if it fails.** -/
theorem eq_of_build_eq_error (hmemory : r.backing = none)
    (h : build plan disk today r = (.error error, r')) : r' = r := by
  rcases ready_or_build_eq_error plan disk today r with ⟨e, filters, hready⟩ | ⟨_, hfails⟩
  · rw [build_of_ready hready] at h
    rcases install_of_memory hmemory e.catalogs e.schema e.config.maxDepth today filters with
      ⟨_, hinstall⟩ | ⟨s, hinstall⟩
    · rw [hinstall] at h
      cases h
      rfl
    · rw [hinstall] at h
      cases h
  · rw [hfails] at h
    cases h
    rfl

/-- What is stored after an engine has been made. -/
theorem mem_of_build (h : build plan disk today r = (.ok e, r')) :
    e.repository = r' ∧ ∃ filters, plan.allSystemFilters disk = .ok filters ∧
      (∀ f, f ∈ r'.filters ↔ f ∈ r.filters ∨ (f ∈ filters ∧ r.contains f.id = false)) ∧
      ∀ f ∈ filters, f.isCustom = false := by
  obtain ⟨e₀, filters, hready, hinstall, rfl⟩ := exists_install_of_build h
  refine ⟨rfl, filters, hready.filters, fun f => ?_, fun f hf => ?_⟩
  · rw [(passed_of_install hinstall).1 f]
    simp [freshFilters]
  · exact (EnginePlan.system_of_mem_allSystemFilters hready.filters hf).1

/-- **An engine can be made again**, whatever the data have become; this changes nothing. -/
theorem build_over_of_build (h : build plan disk today r = (.ok e, r')) (schema : Schema)
    (directory : Directory) (storage : Storage) (references : References) (today' : Day) :
    ∃ e', build (plan.over schema directory storage references) disk today' r' =
      (.ok e', r') := by
  obtain ⟨e₀, filters, hready, hinstall, -⟩ := exists_install_of_build h
  rw [build_of_ready (hready.over schema directory storage references),
    install_of_installed (contains_of_install hinstall)]
  exact ⟨_, rfl⟩

/-- **Making an engine is all or nothing, and making it again changes nothing.** Over a repository in
memory, a failure leaves everything as it was. Otherwise the repository has its old filters and those
system filters of the plan whose ids were not taken, and nothing else of it has changed. With the
same plan an engine can then be made again whatever the data are, its schema included, and on any
day; this leaves the repository as it is. -/
theorem build_of_memory (plan : EnginePlan) (disk : Disk) (today : Day)
    (hmemory : r.backing = none) :
    (∀ error r', build plan disk today r = (.error error, r') → r' = r) ∧
    ∀ e r', build plan disk today r = (.ok e, r') →
      (e.repository = r' ∧ ∃ filters, plan.allSystemFilters disk = .ok filters ∧
        (∀ f, f ∈ r'.filters ↔ f ∈ r.filters ∨ (f ∈ filters ∧ r.contains f.id = false)) ∧
        ∀ f ∈ filters, f.isCustom = false) ∧
      r' = { r with filters := r'.filters } ∧
      ∀ schema directory storage references today',
        ∃ e', build (plan.over schema directory storage references) disk today' r' =
          (.ok e', r') := by
  refine ⟨fun error r' h => eq_of_build_eq_error hmemory h, fun e r' h => ?_⟩
  refine ⟨mem_of_build h, ?_, fun schema directory storage references today' =>
    build_over_of_build h schema directory storage references today'⟩
  obtain ⟨e₀, filters, -, hinstall, -⟩ := exists_install_of_build h
  rcases install_of_memory hmemory e₀.catalogs e₀.schema e₀.config.maxDepth today filters with
    ⟨error, hfails⟩ | ⟨s, hstored⟩
  · rw [hinstall] at hfails
    cases hfails
  · rw [hinstall] at hstored
    cases hstored
    rfl

/-! ### Under a schema that has lost a property -/

/-- A schema without any properties. -/
def bareSchema : Schema where
  entityTypes := .ofList [⟨"person", .ofList []⟩]

/-- The plan for the two system filters, under the bare schema. -/
def barePlan : EnginePlan := (shelfPlan outerOverInner).over bareSchema diaryDesk.directory {} ∅

/-- The first time all is stored. The second time the bare schema no longer has the property that a
stored condition is about, under which nothing would have been stored. -/
theorem build_of_memory_outer :
    (∃ e r' e', build (shelfPlan outerOverInner) {} ⟨2024, 1, 1, by decide, by decide, by decide⟩
        diaryShelf = (.ok e, r') ∧
      r'.filters.keys = ["diary", "inner", "outer"] ∧
      build barePlan {} ⟨2024, 1, 2, by decide, by decide, by decide⟩ r' = (.ok e', r')) ∧
    ∃ error, build barePlan {} ⟨2024, 1, 2, by decide, by decide, by decide⟩ diaryShelf =
      (.error error, diaryShelf) := by
  constructor
  · have hbuilt : ((build (shelfPlan outerOverInner) {}
        ⟨2024, 1, 1, by decide, by decide, by decide⟩ diaryShelf).1.map
          fun e => e.filters.keys) = .ok ["diary", "inner", "outer"] := by
      cbv
    obtain ⟨e, r', h, hfilters⟩ := exists_of_build hbuilt
    obtain ⟨-, hdone⟩ := build_of_memory (shelfPlan outerOverInner) {}
      ⟨2024, 1, 1, by decide, by decide, by decide⟩ (r := diaryShelf) rfl
    obtain ⟨⟨rfl, -⟩, -, hagain⟩ := hdone e r' h
    obtain ⟨e', he'⟩ := hagain bareSchema diaryDesk.directory {} ∅
      ⟨2024, 1, 2, by decide, by decide, by decide⟩
    exact ⟨e, e.repository, e', h, hfilters, he'⟩
  · obtain ⟨hfailed, -⟩ := build_of_memory barePlan {}
      ⟨2024, 1, 2, by decide, by decide, by decide⟩ (r := diaryShelf) rfl
    have herror : (build barePlan {} ⟨2024, 1, 2, by decide, by decide, by decide⟩
        diaryShelf).1.toBool = false := by
      cbv
    rcases hbuild : build barePlan {} ⟨2024, 1, 2, by decide, by decide, by decide⟩
      diaryShelf with ⟨error | e, r'⟩
    · exact ⟨error, by rw [hfailed error r' hbuild]⟩
    · rw [hbuild] at herror
      cases herror

end Engine

end RecordFilters
