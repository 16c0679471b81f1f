import RecordFilters.Proofs.Engine.Privacy

/-! # System filters and the ownership rule

New system filters are checked before they are stored, but nobody asks whom they belong to. Files
bring public filters only, while a filter that is given to the plan directly keeps its owner; and
either kind may point at a private filter that is stored already. So the ownership rule is not
checked when an engine is made, and what is left to the plan is said here.

* `EnginePlan.system_of_mem_allSystemFilters`: what the filters of a plan are.
* `respectsOwnership_of_build`: the rule holds in the end if the new filters obey it along each edge
  of their own, and so it does if all filters of the plan are public and point at public ones.
* `not_respectsOwnership_of_build`: without this it may fail. -/

namespace RecordFilters

open Authorization

/-! ### The filters of a plan -/

namespace InstalledFilters

variable {disk : Disk} {path : Path} {f : Filter} {filters : List Filter}

/-- What is read from a file as an installed filter is a public system filter. -/
theorem system_of_install {s : StoredFilter} (h : install path s = .ok f) :
    f.isCustom = false ∧ f.isPrivate = false := by
  unfold install at h
  split at h
  next => cases h
  next g _ =>
    split at h
    next => cases h
    next hpublic =>
      cases h
      exact ⟨rfl, Bool.eq_false_iff.2 hpublic⟩

theorem system_of_ofDocument {y : Yaml} (h : ofDocument path y = .ok filters) (hf : f ∈ filters) :
    f.isCustom = false ∧ f.isPrivate = false := by
  unfold ofDocument at h
  split at h
  next =>
    obtain ⟨s, -, hs⟩ := exists_of_mem_mapM h hf
    exact system_of_install hs
  next => cases h

/-- A file brings public system filters only. -/
theorem system_of_loadFile (h : loadFile disk path = .ok filters) (hf : f ∈ filters) :
    f.isCustom = false ∧ f.isPrivate = false := by
  unfold loadFile at h
  split at h
  next =>
    split at h
    · unfold ofJson? at h
      split at h
      next => exact system_of_ofDocument h hf
      next => cases h
    · unfold ofYaml at h
      split at h
      next => exact system_of_ofDocument h hf
      next => cases h
  next => cases h

end InstalledFilters

/-- The filters of a plan are system filters. A private one has been given to the plan as such. -/
theorem EnginePlan.system_of_mem_allSystemFilters {plan : EnginePlan} {disk : Disk}
    {filters : List Filter} {f : Filter} (h : plan.allSystemFilters disk = .ok filters)
    (hf : f ∈ filters) :
    f.isCustom = false ∧ (f.isPrivate = true → ∃ g ∈ plan.systemFilters, f = g.asSystem) := by
  unfold allSystemFilters at h
  obtain ⟨loaded, hloaded, h⟩ := bind_eq_ok_iff.1 h
  cases h
  rcases List.mem_append.1 hf with hf | hf
  · obtain ⟨g, hg, rfl⟩ := List.mem_map.1 hf
    exact ⟨rfl, fun _ => ⟨g, hg, rfl⟩⟩
  · obtain ⟨file, hfile, hf⟩ := List.mem_flatten.1 hf
    obtain ⟨path, -, hpath⟩ := exists_of_mem_mapM hloaded hfile
    obtain ⟨hsystem, hpublic⟩ := InstalledFilters.system_of_loadFile hpath hf
    refine ⟨hsystem, fun hprivate => ?_⟩
    rw [hpublic] at hprivate
    cases hprivate

namespace Engine

variable {plan : EnginePlan} {disk : Disk} {today : Day} {r r' : Repository} {e : Engine}
  {f g : Filter}

/-- What was not stored before is a filter of the plan. -/
theorem Made.system_of_fresh (h : Made plan disk r e) (hf : f ∈ e.filters)
    (hfresh : r.contains f.id = false) :
    f.isCustom = false ∧ (f.isPrivate = true → ∃ g ∈ plan.systemFilters, f = g.asSystem) := by
  obtain ⟨filters, hfilters, hinstalled⟩ := h.installed
  rcases hinstalled f hf with hold | hnew
  · have hcontains : r.contains f.id = true := Index.contains_iff.2 ⟨f, hold, rfl⟩
    rw [hfresh] at hcontains
    cases hcontains
  · exact EnginePlan.system_of_mem_allSystemFilters hfilters (List.mem_filter.1 hnew).1

/-- What is stored under an id of before is what was stored there. -/
theorem Made.mem_of_contains (h : Made plan disk r e) (hf : f ∈ e.filters)
    (hold : r.contains f.id = true) : f ∈ r.filters := by
  obtain ⟨g, hg, hid⟩ := Index.contains_iff.1 hold
  rwa [← Index.eq_of_key_eq (h.kept g hg) hf hid]

/-- No filter of before points at a new one. -/
theorem Made.mem_of_mem_subFilterIds (h : Made plan disk r e) (hcomplete : r.filters.Complete)
    (hf : f ∈ r.filters) (hg : g ∈ e.filters) (hedge : g.id ∈ f.subFilterIds) : g ∈ r.filters :=
  h.mem_of_contains hg (FilterSet.complete_iff.1 hcomplete f hf g.id hedge)

/-- The rule holds in the end just if each new filter may use those that it points at. -/
theorem Made.respectsOwnership_iff (h : Made plan disk r e) (hcomplete : r.filters.Complete)
    {d : Directory} (hs : r.filters.RespectsOwnership d) :
    e.filters.RespectsOwnership d ↔ ∀ f ∈ e.filters, r.contains f.id = false →
      ∀ g ∈ e.filters, g.id ∈ f.subFilterIds → mayReference d f.ownership g.ownership = true := by
  constructor
  · intro hrule f hf _ g hg hedge
    exact hrule f hf g hg (.single (FilterSet.pointsAt_of_mem hf hedge))
  · intro hnew
    refine FilterSet.respectsOwnership_of_edges fun f hf g hg hedge => ?_
    by_cases hold : r.contains f.id = true
    · -- the edge was there before, as no reference dangled
      have hfr := h.mem_of_contains hf hold
      have hgr := h.mem_of_mem_subFilterIds hcomplete hfr hg hedge
      exact hs f hfr g hgr (.single (FilterSet.pointsAt_of_mem hfr hedge))
    · exact hnew f hf (Bool.eq_false_iff.2 hold) g hg hedge

/-- All new filters are public if none is given as private. -/
theorem Made.isPrivate_eq_false (h : Made plan disk r e)
    (hgiven : ∀ f ∈ plan.systemFilters, f.isPrivate = false) (hf : f ∈ e.filters)
    (hfresh : r.contains f.id = false) : f.isPrivate = false := by
  by_contra hprivate
  obtain ⟨g, hg, rfl⟩ := (h.system_of_fresh hf hfresh).2 (by simpa using hprivate)
  exact hprivate (hgiven g hg)

/-- **What becomes of the ownership rule when an engine is made.** What comes in are system filters,
public unless the plan was given them as private. The rule holds in the end just if each new filter
may use those that it points at. It does so, and no new filter reaches a private one, if the plan
was given public filters only and no new filter points at a private one that was stored before. -/
theorem respectsOwnership_of_build (h : build plan disk today r = (.ok e, r'))
    (hcomplete : r.filters.Complete) (hs : r.filters.RespectsOwnership e.directory) :
    (∀ f ∈ e.filters, r.contains f.id = false → f.isCustom = false ∧
      (f.isPrivate = true → ∃ g ∈ plan.systemFilters, f = g.asSystem)) ∧
    (e.filters.RespectsOwnership e.directory ↔
      ∀ f ∈ e.filters, r.contains f.id = false → ∀ g ∈ e.filters, g.id ∈ f.subFilterIds →
        mayReference e.directory f.ownership g.ownership = true) ∧
    ((∀ f ∈ plan.systemFilters, f.isPrivate = false) →
      (∀ f ∈ e.filters, r.contains f.id = false → ∀ g ∈ r.filters, g.id ∈ f.subFilterIds →
        g.isPrivate = false) →
      e.filters.RespectsOwnership e.directory ∧
        ∀ f ∈ e.filters, r.contains f.id = false → f.isPrivate = false ∧
          ∀ g ∈ e.filters, e.filters.Reaches f.id g.id → g.isPrivate = false) := by
  have hmade := made_of_build h
  have hiff := hmade.respectsOwnership_iff hcomplete hs
  refine ⟨fun f hf hfresh => hmade.system_of_fresh hf hfresh, hiff, fun hgiven hbelow => ?_⟩
  have hpublic : ∀ f ∈ e.filters, r.contains f.id = false → f.isPrivate = false :=
    fun f hf hfresh => hmade.isPrivate_eq_false hgiven hf hfresh
  have hrule : e.filters.RespectsOwnership e.directory := by
    refine hiff.2 fun f hf hfresh g hg hedge => ?_
    have hgpublic : g.isPrivate = false := by
      by_cases hold : r.contains g.id = true
      · exact hbelow f hf hfresh g (hmade.mem_of_contains hg hold) hedge
      · exact hpublic g hg (Bool.eq_false_iff.2 hold)
    have hown : g.ownership = .everyone := by
      simpa [Filter.isPrivate, Ownership.isPrivate] using hgpublic
    rw [hown]
    cases f.ownership <;> rfl
  refine ⟨hrule, fun f hf hfresh => ⟨hpublic f hf hfresh, fun g hg hway => ?_⟩⟩
  exact hrule.isPrivate_eq_false hf hg hway (hpublic f hf hfresh)

/-! ### Over a private filter -/

/-- A filter on persons with one condition, as a plan may be given it. -/
def onPersons (id : FilterId) (ownership : Ownership) (c : Condition) : Filter where
  id := id
  name := "Persons"
  entityType := "person"
  ownership := ownership
  conditions := [c]
  conditions_ne_nil := c.singleton_ne_nil

/-- A repository with a private filter of a user. -/
def diaryShelf : Repository := { filters := .ofList [diary] }

/-- A plan for the data of two users. -/
def shelfPlan (filters : List Filter) : EnginePlan where
  schema := some diaryDesk.schema
  directory := some diaryDesk.directory
  storage := some {}
  systemFilters := filters

theorem complete_diaryShelf : diaryShelf.filters.Complete := by decide

theorem respectsOwnership_diaryShelf (d : Directory) : diaryShelf.filters.RespectsOwnership d := by
  refine FilterSet.respectsOwnership_of_edges fun f hf g hg hedge => ?_
  obtain rfl := List.mem_singleton.1 hf
  cases hedge

/-- Two system filters that leave the private one alone. -/
def outerOverInner : List Filter :=
  [onPersons "outer" .everyone (.onSubFilter "inner"),
    onPersons "inner" .everyone (.onProperty "vip" true)]

theorem respectsOwnership_of_build_outer :
    ∃ e r', build (shelfPlan outerOverInner) {} ⟨2024, 1, 1, by decide, by decide, by decide⟩
        diaryShelf = (.ok e, r') ∧
      e.filters.RespectsOwnership e.directory ∧
      ∀ f ∈ e.filters, f.id ≠ "diary" → f.isCustom = false ∧ f.isPrivate = false := by
  have hbuilt : ((build (shelfPlan outerOverInner) {}
      ⟨2024, 1, 1, by decide, by decide, by decide⟩ diaryShelf).1.map fun e => e.filters.toList) =
      .ok [diary, (onPersons "inner" .everyone (.onProperty "vip" true)).asSystem,
        (onPersons "outer" .everyone (.onSubFilter "inner")).asSystem] := by
    cbv
  obtain ⟨e, r', h, hfilters⟩ := exists_of_build hbuilt
  have hmem : ∀ f, f ∈ e.filters ↔ f ∈ e.filters.toList := fun f => Iff.rfl
  rw [hfilters] at hmem
  obtain ⟨hsystem, -, hrule⟩ := respectsOwnership_of_build h complete_diaryShelf
    (respectsOwnership_diaryShelf e.directory)
  have hfresh : ∀ f ∈ e.filters, f.id ≠ "diary" → diaryShelf.contains f.id = false := by
    intro f hf hid
    rw [Bool.eq_false_iff]
    intro hcontains
    obtain ⟨g, hg, hgid⟩ := Index.contains_iff.1 hcontains
    obtain rfl := List.mem_singleton.1 hg
    exact hid hgid.symm
  obtain ⟨hrespects, hpublic⟩ := hrule (by decide) (by
    intro f hf hnew g hg hedge
    obtain rfl := List.mem_singleton.1 hg
    simp only [hmem, List.mem_cons, List.not_mem_nil, or_false] at hf
    rcases hf with rfl | rfl | rfl <;> revert hedge <;> decide)
  exact ⟨e, r', h, hrespects, fun f hf hid =>
    ⟨(hsystem f hf (hfresh f hf hid)).1, (hpublic f hf (hfresh f hf hid)).1⟩⟩

/-- A public system filter on top of the private one, and one that is private itself. -/
def overDiary : List Filter :=
  [onPersons "all" .everyone (.onSubFilter "diary"),
    onPersons "secret" (.user "ann") (.onProperty "vip" false)]

/-- **An engine is made although a system filter of it is private, and although a public one reaches
the private filter of a user.** -/
theorem not_respectsOwnership_of_build :
    diaryShelf.filters.Complete ∧
      diaryShelf.filters.RespectsOwnership diaryDesk.directory ∧
      ∃ e r', build (shelfPlan overDiary) {} ⟨2024, 1, 1, by decide, by decide, by decide⟩
          diaryShelf = (.ok e, r') ∧
        e.directory = diaryDesk.directory ∧
        (∃ f ∈ e.filters, diaryShelf.contains f.id = false ∧ f.isPrivate = true) ∧
        (∃ f ∈ e.filters, diaryShelf.contains f.id = false ∧ f.isPrivate = false ∧
          e.filters.Reaches f.id diary.id) ∧
        ¬ e.filters.RespectsOwnership e.directory := by
  have hbuilt : ((build (shelfPlan overDiary) {}
      ⟨2024, 1, 1, by decide, by decide, by decide⟩ diaryShelf).1.map
        fun e => (e.filters.toList, e.directory)) =
      .ok ([(onPersons "all" .everyone (.onSubFilter "diary")).asSystem, diary,
        (onPersons "secret" (.user "ann") (.onProperty "vip" false)).asSystem],
        diaryDesk.directory) := by
    cbv
  obtain ⟨e, r', h, hparts⟩ := exists_of_build hbuilt
  obtain ⟨hfilters, hdirectory⟩ := Prod.mk.inj hparts
  have hmem : ∀ f, f ∈ e.filters ↔ f ∈ e.filters.toList := fun f => Iff.rfl
  rw [hfilters] at hmem
  have hall : (onPersons "all" .everyone (.onSubFilter "diary")).asSystem ∈ e.filters :=
    (hmem _).2 (by simp)
  have hsecret : (onPersons "secret" (.user "ann") (.onProperty "vip" false)).asSystem ∈
      e.filters := (hmem _).2 (by simp)
  have hdiary : diary ∈ e.filters := (hmem _).2 (by simp)
  have hway : e.filters.Reaches "all" "diary" :=
    .single (FilterSet.pointsAt_of_mem hall (by decide))
  refine ⟨complete_diaryShelf, respectsOwnership_diaryShelf _, e, r', h, hdirectory,
    ⟨_, hsecret, by decide, rfl⟩, ⟨_, hall, by decide, rfl, hway⟩, ?_⟩
  intro hrule
  have := hrule _ hall _ hdiary hway
  cases this

end Engine

end RecordFilters
