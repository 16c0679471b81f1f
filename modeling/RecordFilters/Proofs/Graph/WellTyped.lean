import RecordFilters.Proofs.Evaluation.Meaning
import RecordFilters.Proofs.Graph.Reachability

/-! # Well-typed references

A condition on another filter consults it if the filter is stored and selects records of a type that
suits the condition. A set of filters is well typed if every condition that points at another filter
consults it. Types are kept, so this survives the changes of one filter.

* `consulted?_eq_some_iff`: when a condition consults a filter.
* `WellTyped.insert`, `WellTyped.erase`: what a change of one filter keeps. -/

namespace RecordFilters

/-- Whether a condition of a filter on an entity type can be on a filter on another. -/
def Schema.suits (s : Schema) (entityType : String) (c : Condition) (subType : String) : Bool :=
  match c.payload with
  | .subFilter => subType = entityType
  | .relationSubFilter .. =>
    s.relates entityType c.reference && s.objectCompatible c.reference subType
  | _ => false

namespace FilterSet

variable {s : FilterSet} {schema : Schema} {entityType : String} {c : Condition} {f g : Filter}
  {id : FilterId}

theorem consulted?_eq_some_iff : s.consulted? schema entityType c = some g ↔
    g ∈ s ∧ c.subFilterId? = some g.id ∧ schema.suits entityType c g.entityType = true := by
  rw [Condition.subFilterId?_eq_some_iff]
  unfold consulted? Schema.suits
  cases hpayload : c.payload with
  | subFilter =>
    rw [Option.filter_eq_some_iff, Index.get?_eq_some_iff]
    constructor
    · rintro ⟨⟨hg, hid⟩, hsuits⟩
      exact ⟨hg, Or.inl ⟨rfl, hid.symm⟩, hsuits⟩
    · rintro ⟨hg, ⟨-, hid⟩ | ⟨present, hother⟩, hsuits⟩
      · exact ⟨⟨hg, hid.symm⟩, hsuits⟩
      · cases hother
  | relationSubFilter present id =>
    by_cases hrelates : schema.relates entityType c.reference = true
    · simp only [hrelates, if_true, Option.filter_eq_some_iff, Index.get?_eq_some_iff,
        Bool.true_and]
      constructor
      · rintro ⟨⟨hg, hid⟩, hsuits⟩
        exact ⟨hg, Or.inr ⟨present, by rw [hid]⟩, hsuits⟩
      · rintro ⟨hg, ⟨hother, -⟩ | ⟨present', hsame⟩, hsuits⟩
        · cases hother
        · cases hsame
          exact ⟨⟨hg, rfl⟩, hsuits⟩
    · simp [hrelates]
  | _ => simp

/-- A condition consults the filter to which it points. -/
theorem subFilterId?_of_consulted? (h : s.consulted? schema entityType c = some g) :
    c.subFilterId? = some g.id := (consulted?_eq_some_iff.1 h).2.1

/-- Every condition of a stored filter that points at another consults it. -/
def WellTyped (s : FilterSet) (schema : Schema) : Prop :=
  ∀ f ∈ s, ∀ c ∈ f.conditions, ∀ id, c.subFilterId? = some id →
    ∃ g, s.consulted? schema f.entityType c = some g ∧ g.id = id

/-- Where every reference is well typed, none dangles. -/
theorem WellTyped.complete (h : s.WellTyped schema) : s.Complete := by
  rintro a b ⟨f, hf, -, hb⟩
  obtain ⟨c, hc, hid⟩ := Filter.mem_subFilterIds.1 hb
  obtain ⟨g, hg, rfl⟩ := h f hf c hc b hid
  exact Index.contains_iff.2 ⟨g, (consulted?_eq_some_iff.1 hg).1, rfl⟩

/-- A filter that takes the place of one on the same records is consulted in its place. -/
theorem consulted?_insert (h : s.consulted? schema entityType c = some g)
    (hf : g.id = f.id → g.entityType = f.entityType) :
    ∃ g', FilterSet.consulted? (s.insert f) schema entityType c = some g' ∧ g'.id = g.id := by
  obtain ⟨hg, hid, hsuits⟩ := consulted?_eq_some_iff.1 h
  by_cases hgf : g.id = f.id
  · refine ⟨f, consulted?_eq_some_iff.2 ⟨Index.mem_insert.2 (Or.inl rfl), ?_, ?_⟩, hgf.symm⟩
    · rw [← hgf]
      exact hid
    · rw [← hf hgf]
      exact hsuits
  · exact ⟨g, consulted?_eq_some_iff.2 ⟨Index.mem_insert.2 (Or.inr ⟨hg, hgf⟩), hid, hsuits⟩, rfl⟩

theorem WellTyped.insert (hs : s.WellTyped schema)
    (hf : ∀ c ∈ f.conditions, ∀ id, c.subFilterId? = some id →
      ∃ g, s.consulted? schema f.entityType c = some g ∧ g.id = id)
    (same : ∀ g ∈ s, g.id = f.id → g.entityType = f.entityType) :
    FilterSet.WellTyped (s.insert f) schema := by
  intro f' hf' c hc id hid
  have hold : ∃ g, s.consulted? schema f'.entityType c = some g ∧ g.id = id := by
    rcases Index.mem_insert.1 hf' with rfl | ⟨hf', -⟩
    · exact hf c hc id hid
    · exact hs f' hf' c hc id hid
  obtain ⟨g, hg, rfl⟩ := hold
  exact consulted?_insert hg (same g (consulted?_eq_some_iff.1 hg).1)

theorem WellTyped.erase (hs : s.WellTyped schema) (hid : s.parentsOf id = []) :
    FilterSet.WellTyped (s.erase id) schema := by
  intro f hf c hc sub hsub
  obtain ⟨hf, -⟩ := Index.mem_erase.1 hf
  have hedge : s.PointsAt f.id sub :=
    pointsAt_of_mem hf (Filter.mem_subFilterIds.2 ⟨c, hc, hsub⟩)
  obtain ⟨g, hg, rfl⟩ := hs f hf c hc sub hsub
  obtain ⟨hmem, hpoints, hsuits⟩ := consulted?_eq_some_iff.1 hg
  have hne : g.id ≠ id := by
    intro heq
    rw [heq] at hedge
    exact not_pointsAt_of_parentsOf_eq_nil hid hedge
  exact ⟨g, consulted?_eq_some_iff.2 ⟨Index.mem_erase.2 ⟨hmem, hne⟩, hpoints, hsuits⟩, rfl⟩

end FilterSet

end RecordFilters
