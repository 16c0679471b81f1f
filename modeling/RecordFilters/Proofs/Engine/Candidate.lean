import RecordFilters.Proofs.Engine.Run

/-! # What an accepted candidate satisfies

A request that adds or replaces a filter prepares a candidate and checks it before it is stored.
`Created` and `Updated` list what holds of a candidate that has passed, part by part: what it took
from the request, what it kept, and the checks of the graph and of the owner. -/

namespace RecordFilters

namespace Engine

variable {e : Engine} {u : ActingUser} {id : FilterId} {request : FilterRequest}
  {previous f : Filter} {update : FilterUpdate}

/-- A candidate as a request for a new filter makes it. -/
structure Created (e : Engine) (u : ActingUser) (id : FilterId) (request : FilterRequest)
    (f : Filter) : Prop where
  id : f.id = id
  name : f.name = request.name
  entityType : f.entityType = request.entityType
  filterType : f.filterType = request.filterType
  isCustom : f.isCustom = true
  useOr : f.useOr = request.useOr
  ownership : f.ownership = request.ownership
  built : e.catalogs.buildAll e.schema e.filters f.filterType f.entityType request.conditions =
    .ok f.conditions
  checked : e.checkGraph u f none = .ok ()

/-- A candidate as an update makes it of a stored filter. -/
structure Updated (e : Engine) (u : ActingUser) (previous : Filter) (update : FilterUpdate)
    (f : Filter) : Prop where
  editable : (previous.canEdit u).isGranted = true
  id : f.id = previous.id
  name : f.name = update.name.getD previous.name
  renamable : f.name ≠ previous.name → (previous.canRename u).isGranted = true
  entityType : f.entityType = previous.entityType
  filterType : f.filterType = previous.filterType
  isCustom : f.isCustom = previous.isCustom
  ownership : f.ownership = update.ownership.getD previous.ownership
  kept : update.conditions = none →
    f.conditions = previous.conditions ∧ f.useOr = previous.useOr
  built : ∀ ds useOr, update.conditions = some (ds, useOr) →
    e.catalogs.buildAll e.schema e.filters f.filterType f.entityType ds = .ok f.conditions ∧
      f.useOr = useOr
  checked : e.checkGraph u f (some previous) = .ok ()

theorem created_of_prepareCreate (h : e.prepareCreate u id request = .ok f) :
    Created e u id request f := by
  unfold prepareCreate at h
  obtain ⟨conditions, hbuilt, h⟩ := bind_eq_ok_iff.1 h
  obtain ⟨f₀, hf₀, h⟩ := bind_eq_ok_iff.1 h
  obtain ⟨⟨⟩, hchecked, h⟩ := bind_eq_ok_iff.1 h
  cases h
  unfold Filter.ofConditions? Filter.ensureConditions at hf₀
  split at hf₀
  next f₁ hf₁ =>
    split at hf₁
    · cases hf₀
      cases hf₁
      exact ⟨rfl, rfl, rfl, rfl, rfl, rfl, rfl, hbuilt, hchecked⟩
    · cases hf₁
  next => cases hf₀

theorem isGranted_of_ensure {a : Access} (h : a.ensure id = .ok ()) : a.isGranted = true := by
  cases a with
  | granted => rfl
  | denied why => cases h

theorem eq_of_renamed {name : Option String} (h : renamed u previous name = .ok f) :
    f = { previous with name := name.getD previous.name } := by
  unfold renamed at h
  split at h
  next name =>
    split at h
    next hn =>
      cases h
      subst hn
      rfl
    next =>
      obtain ⟨⟨⟩, -, rfl⟩ := map_eq_ok_iff.1 h
      rfl
  next =>
    cases h
    rfl

/-- Who gives a filter another name may rename it. -/
theorem isGranted_of_renamed {name : Option String} (h : renamed u previous name = .ok f)
    (hname : f.name ≠ previous.name) : (previous.canRename u).isGranted = true := by
  unfold renamed at h
  split at h
  next name =>
    split at h
    next =>
      cases h
      exact absurd rfl hname
    next =>
      obtain ⟨⟨⟩, hensured, -⟩ := map_eq_ok_iff.1 h
      exact isGranted_of_ensure hensured
  next =>
    cases h
    exact absurd rfl hname

/-- Replacing the conditions builds all of them and leaves the rest of the filter as it is. -/
theorem eq_of_setConditions {conditions : List Condition} {useOr : Bool}
    (h : Filter.ensureConditions (previous.setConditions? conditions useOr) = .ok f) :
    ∃ hne, f = { previous with
      conditions := conditions, useOr := useOr, conditions_ne_nil := hne } := by
  unfold Filter.setConditions? Filter.ensureConditions at h
  split at h
  next hf =>
    split at hf
    next hne =>
      cases h
      cases hf
      exact ⟨hne, rfl⟩
    next => cases hf
  next => cases h

theorem updated_of_prepareUpdate (h : e.prepareUpdate u previous update = .ok f) :
    Updated e u previous update f := by
  unfold prepareUpdate at h
  obtain ⟨⟨⟩, heditable, h⟩ := bind_eq_ok_iff.1 h
  obtain ⟨f₁, hrenamed, h⟩ := bind_eq_ok_iff.1 h
  obtain ⟨f₂, hconditions, h⟩ := bind_eq_ok_iff.1 h
  obtain ⟨⟨⟩, hchecked, h⟩ := bind_eq_ok_iff.1 h
  cases h
  have renamable := isGranted_of_renamed hrenamed
  cases eq_of_renamed hrenamed
  have editable := isGranted_of_ensure heditable
  unfold withConditions at hconditions
  split at hconditions
  next ds useOr hds =>
    obtain ⟨conditions, hbuilt, hset⟩ := bind_eq_ok_iff.1 hconditions
    obtain ⟨hne, rfl⟩ := eq_of_setConditions hset
    refine ⟨editable, rfl, rfl, renamable, rfl, rfl, rfl, rfl, fun h => ?_, fun ds' useOr' h => ?_,
      hchecked⟩
    · rw [hds] at h
      cases h
    · rw [hds] at h
      cases h
      exact ⟨hbuilt, rfl⟩
  next hds =>
    cases hconditions
    refine ⟨editable, rfl, rfl, renamable, rfl, rfl, rfl, rfl, fun _ => ⟨rfl, rfl⟩,
      fun ds useOr h => ?_, hchecked⟩
    rw [hds] at h
    cases h

/-! ### Types -/

/-- Nothing is stored in the place of a new filter. -/
theorem Created.types_eq {g : Filter} (h : Created e u id request f)
    (fresh : e.filters.contains id = false) (hg : g ∈ e.filters) (hid : g.id = f.id) :
    g.entityType = f.entityType ∧ g.filterType = f.filterType := by
  have hstored := Index.contains_iff.2 ⟨g, hg, hid⟩
  rw [h.id, fresh] at hstored
  cases hstored

/-- An update keeps the types of a filter. -/
theorem Updated.types_eq {g : Filter} (h : Updated e u previous update f)
    (hprevious : previous ∈ e.filters) (hg : g ∈ e.filters) (hid : g.id = f.id) :
    g.entityType = f.entityType ∧ g.filterType = f.filterType := by
  rw [Index.eq_of_key_eq hg hprevious (hid.trans h.id)]
  exact ⟨h.entityType.symm, h.filterType.symm⟩

/-! ### The checks -/

theorem checkGraph_eq_ok_iff {previous : Option Filter} :
    e.checkGraph u f previous = .ok () ↔
      e.walk.checkAcyclic f = .ok () ∧ e.authorization.validate u f previous = .ok () := by
  unfold checkGraph
  rw [bind_eq_ok_iff]
  exact ⟨fun ⟨_, h⟩ => h, fun h => ⟨(), h⟩⟩

end Engine

end RecordFilters
