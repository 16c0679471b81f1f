import RecordFilters.Proofs.Graph.CycleSearch

/-! # The order of conditions

The bound on the depth is one on the search for a cycle and not on the ways: of two ways to a filter
the search follows the one that it meets first, and which one that is depends on the order of
conditions. So where some way is longer than the bound, the order has a say in whether the search
goes too deep; it never has one in whether there is a cycle.

* `verdict_of_reorders`: what another order of conditions can change of the verdict.
* `verdict_ne_of_reorders`: that it can. -/

namespace RecordFilters

namespace GraphWalk

/-- What the search for a cycle comes to. -/
inductive Verdict
  | acyclic
  | cycle
  | tooDeep
  deriving DecidableEq

/-- The verdict of the search on a candidate, without what an error names. -/
def verdict (g : GraphWalk) (candidate : Filter) : Verdict :=
  match g.checkAcyclic candidate with
  | .ok () => .acyclic
  | .error (.validation .cycle _) => .cycle
  | .error _ => .tooDeep

end GraphWalk

/-- The same filter, as far as the search can see, with its conditions in another order. -/
structure Filter.Reorders (f f' : Filter) : Prop where
  id : f'.id = f.id
  conditions : f'.conditions.Perm f.conditions

theorem Filter.Reorders.refl (f : Filter) : f.Reorders f := ⟨rfl, .refl _⟩

/-- The same filters, each with its conditions in some order. -/
structure FilterSet.Reorders (s s' : FilterSet) : Prop where
  left : ∀ f ∈ s, ∃ f' ∈ s', f.Reorders f'
  right : ∀ f' ∈ s', ∃ f ∈ s, f.Reorders f'

namespace FilterSet

variable {s s' : FilterSet} {f f' candidate candidate' : Filter} {a b id : FilterId} {n : Nat}

theorem Reorders.refl (s : FilterSet) : s.Reorders s :=
  ⟨fun f hf => ⟨f, hf, .refl f⟩, fun f hf => ⟨f, hf, .refl f⟩⟩

theorem Reorders.insert (h : s.Reorders s') (hf : f.Reorders f') :
    FilterSet.Reorders (s.insert f) (s'.insert f') where
  left g hg := by
    rcases Index.mem_insert.1 hg with rfl | ⟨hg, hne⟩
    · exact ⟨f', Index.mem_insert.2 (Or.inl rfl), hf⟩
    · obtain ⟨g', hg', hsame⟩ := h.left g hg
      refine ⟨g', Index.mem_insert.2 (Or.inr ⟨hg', ?_⟩), hsame⟩
      rwa [hsame.id, hf.id]
  right g' hg' := by
    rcases Index.mem_insert.1 hg' with rfl | ⟨hg', hne⟩
    · exact ⟨f, Index.mem_insert.2 (Or.inl rfl), hf⟩
    · obtain ⟨g, hg, hsame⟩ := h.right g' hg'
      refine ⟨g, Index.mem_insert.2 (Or.inr ⟨hg, ?_⟩), hsame⟩
      rwa [← hsame.id, ← hf.id]

theorem mem_subFilterIds_of_reorders (h : f.Reorders f') :
    id ∈ f'.subFilterIds ↔ id ∈ f.subFilterIds := by
  rw [Filter.mem_subFilterIds, Filter.mem_subFilterIds]
  simp only [h.conditions.mem_iff]

theorem pointsAt_of_reorders (h : s.Reorders s') : s'.PointsAt a b ↔ s.PointsAt a b := by
  constructor
  · rintro ⟨f', hf', rfl, hb⟩
    obtain ⟨f, hf, hsame⟩ := h.right f' hf'
    exact ⟨f, hf, hsame.id.symm, (mem_subFilterIds_of_reorders hsame).1 hb⟩
  · rintro ⟨f, hf, rfl, hb⟩
    obtain ⟨f', hf', hsame⟩ := h.left f hf
    exact ⟨f', hf', hsame.id, (mem_subFilterIds_of_reorders hsame).2 hb⟩

/-- The order of conditions makes no difference to the ways. -/
theorem way_of_reorders (hs : s.Reorders s') (hc : candidate.Reorders candidate') :
    s'.Way candidate' n id ↔ s.Way candidate n id := by
  constructor
  · intro h
    induction h with
    | first h => exact .first ((mem_subFilterIds_of_reorders hc).1 h)
    | next _ hab ih => exact ih.next ((pointsAt_of_reorders hs).1 hab)
  · intro h
    induction h with
    | first h => exact .first ((mem_subFilterIds_of_reorders hc).2 h)
    | next _ hab ih => exact ih.next ((pointsAt_of_reorders hs).2 hab)

end FilterSet

namespace GraphWalk

/-- What a verdict says about the ways from a candidate. -/
def Verdict.Says (s : FilterSet) (maxDepth : Nat) (candidate : Filter) : Verdict → Prop
  | .acyclic => (∀ n, ¬ s.Way candidate n candidate.id) ∧
      ∀ n id, s.Way candidate n id → ∃ m ≤ maxDepth, s.Way candidate m id
  | .cycle => ∃ n ≤ maxDepth + 1, s.Way candidate n candidate.id
  | .tooDeep => candidate.id ∉ candidate.subFilterIds ∧
      ∃ n id, maxDepth < n ∧ s.Way candidate n id

variable {s s' : FilterSet} {candidate candidate' : Filter} {maxDepth : Nat} {v v' : Verdict}

theorem says_verdict (g : GraphWalk) (candidate : Filter) :
    (g.verdict candidate).Says g.filters g.maxDepth candidate := by
  have hanswers := g.answers_checkAcyclic candidate
  unfold verdict
  generalize g.checkAcyclic candidate = answer at hanswers
  cases hanswers with
  | acyclic apart within =>
    rw [FilterSet.below_iff_exists_way, not_exists] at apart
    exact ⟨apart, fun n id hway => within id (FilterSet.below_iff_exists_way.2 ⟨n, hway⟩)⟩
  | cycle _ _ way => exact way
  | tooDeep apart long => exact ⟨apart, long⟩

/-- It says this whatever the order of conditions. -/
theorem Verdict.Says.of_reorders (h : v.Says s' maxDepth candidate') (hs : s.Reorders s')
    (hc : candidate.Reorders candidate') : v.Says s maxDepth candidate := by
  unfold Says at h ⊢
  simp only [FilterSet.way_of_reorders hs hc, FilterSet.mem_subFilterIds_of_reorders hc,
    hc.id] at h
  exact h

/-- Two verdicts on the same ways: they are the same, or one of them is about the depth. -/
theorem Verdict.Says.compare (h : v.Says s maxDepth candidate)
    (h' : v'.Says s maxDepth candidate) :
    v' = v ∨ candidate.id ∉ candidate.subFilterIds ∧
      (∃ n id, maxDepth < n ∧ s.Way candidate n id) ∧
      ((s(v, v') = s(.acyclic, .tooDeep) ∧
          ∀ n id, s.Way candidate n id → ∃ m ≤ maxDepth, s.Way candidate m id) ∨
        (s(v, v') = s(.cycle, .tooDeep) ∧
          ∃ n ≤ maxDepth + 1, s.Way candidate n candidate.id)) := by
  cases v with
  | acyclic =>
    obtain ⟨hapart, hwithin⟩ := h
    cases v' with
    | acyclic => exact Or.inl rfl
    | cycle =>
      obtain ⟨n, -, hway⟩ := h'
      exact absurd hway (hapart n)
    | tooDeep => exact Or.inr ⟨h'.1, h'.2, Or.inl ⟨rfl, hwithin⟩⟩
  | cycle =>
    cases v' with
    | acyclic =>
      obtain ⟨n, -, hway⟩ := h
      exact absurd hway (h'.1 n)
    | cycle => exact Or.inl rfl
    | tooDeep => exact Or.inr ⟨h'.1, h'.2, Or.inr ⟨rfl, h⟩⟩
  | tooDeep =>
    cases v' with
    | acyclic => exact Or.inr ⟨h.1, h.2, Or.inl ⟨Sym2.eq_swap, h'.2⟩⟩
    | cycle => exact Or.inr ⟨h.1, h.2, Or.inr ⟨Sym2.eq_swap, h'⟩⟩
    | tooDeep => exact Or.inl rfl

/-- **What the order of conditions can change.** With the conditions of the candidate and of the
stored filters in another order the verdict is the same, or one of the two is about the depth. Then
some way is longer than the bound and the candidate is none of its own sub-filters. If the other
verdict is that there is no cycle, everything below is also reached within the bound; if it is a
cycle, the candidate is. -/
theorem verdict_of_reorders (hs : s.Reorders s') (hc : candidate.Reorders candidate')
    (maxDepth : Nat) :
    let v := (⟨s, maxDepth⟩ : GraphWalk).verdict candidate
    let v' := (⟨s', maxDepth⟩ : GraphWalk).verdict candidate'
    v' = v ∨ candidate.id ∉ candidate.subFilterIds ∧
      (∃ n id, maxDepth < n ∧ s.Way candidate n id) ∧
      ((s(v, v') = s(.acyclic, .tooDeep) ∧
          ∀ n id, s.Way candidate n id → ∃ m ≤ maxDepth, s.Way candidate m id) ∨
        (s(v, v') = s(.cycle, .tooDeep) ∧
          ∃ n ≤ maxDepth + 1, s.Way candidate n candidate.id)) := by
  have h := says_verdict ⟨s, maxDepth⟩ candidate
  have h' := (says_verdict ⟨s', maxDepth⟩ candidate').of_reorders hs hc
  exact h.compare h'

/-- Filters on persons, one below the other. -/
def onShared : FilterSet :=
  .ofList [
    { id := "vips", name := "VIPs", entityType := "person"
      conditions := [.onProperty "vip" true], conditions_ne_nil := Condition.onProperty_ne_nil _ _ },
    { id := "shared", name := "Shared", entityType := "person"
      conditions := [.onSubFilter "vips"], conditions_ne_nil := Condition.onSubFilter_ne_nil _ },
    { id := "detour", name := "Detour", entityType := "person"
      conditions := [.onSubFilter "shared"], conditions_ne_nil := Condition.onSubFilter_ne_nil _ }]

/-- A filter on two others. -/
def onBoth (id first last : FilterId) : Filter where
  id := id
  name := "Both"
  entityType := "person"
  conditions := [.onSubFilter first, .onSubFilter last]
  conditions_ne_nil := by simp

theorem reorders_onBoth (id first last : FilterId) :
    (onBoth id first last).Reorders (onBoth id last first) := ⟨rfl, .swap ..⟩

/-- The detour is not seen where the filter has been reached before without it. -/
theorem verdict_detour_shared :
    (⟨onShared, 2⟩ : GraphWalk).verdict (onBoth "top" "detour" "shared") = .acyclic := by cbv

theorem verdict_shared_detour :
    (⟨onShared, 2⟩ : GraphWalk).verdict (onBoth "top" "shared" "detour") = .tooDeep := by cbv

theorem verdict_of_reorders_detour :
    onShared.Reorders onShared ∧
      (onBoth "top" "detour" "shared").Reorders (onBoth "top" "shared" "detour") ∧
      (∃ n id, 2 < n ∧ onShared.Way (onBoth "top" "detour" "shared") n id) ∧
      ∀ n id, onShared.Way (onBoth "top" "detour" "shared") n id →
        ∃ m ≤ 2, onShared.Way (onBoth "top" "detour" "shared") m id := by
  have hs := FilterSet.Reorders.refl onShared
  have hc := reorders_onBoth "top" "detour" "shared"
  have h := verdict_of_reorders hs hc 2
  dsimp only at h
  rw [verdict_detour_shared, verdict_shared_detour] at h
  rcases h with heq | ⟨-, hlong, ⟨-, hwithin⟩ | ⟨hother, -⟩⟩
  · cases heq
  · exact ⟨hs, hc, hlong, hwithin⟩
  · exact absurd hother (by decide)

/-- A filter that leads back to the candidate. -/
def backFilter : Filter where
  id := "back"
  name := "Back"
  entityType := "person"
  conditions := [.onSubFilter "top"]
  conditions_ne_nil := Condition.onSubFilter_ne_nil _

/-- A candidate on a filter on two others. -/
def overBoth : Filter where
  id := "top"
  name := "Top"
  entityType := "person"
  conditions := [.onSubFilter "both"]
  conditions_ne_nil := Condition.onSubFilter_ne_nil _

/-- The filters with the one that leads back, and one on it. -/
def aroundShared (both : Filter) : FilterSet := (onShared.insert backFilter).insert both

/-- **The order of conditions can change the verdict**: that of the candidate's, between no cycle and
too deep, and that of a stored filter's, between a cycle and too deep. -/
theorem verdict_ne_of_reorders :
    ((onBoth "top" "detour" "shared").Reorders (onBoth "top" "shared" "detour") ∧
      (⟨onShared, 2⟩ : GraphWalk).verdict (onBoth "top" "detour" "shared") = .acyclic ∧
      (⟨onShared, 2⟩ : GraphWalk).verdict (onBoth "top" "shared" "detour") = .tooDeep) ∧
    ((aroundShared (onBoth "both" "shared" "back")).Reorders
        (aroundShared (onBoth "both" "back" "shared")) ∧
      (⟨aroundShared (onBoth "both" "shared" "back"), 2⟩ : GraphWalk).verdict overBoth = .cycle ∧
      (⟨aroundShared (onBoth "both" "back" "shared"), 2⟩ : GraphWalk).verdict overBoth =
        .tooDeep) := by
  refine ⟨⟨reorders_onBoth .., verdict_detour_shared, verdict_shared_detour⟩, ?_, ?_, ?_⟩
  · exact (FilterSet.Reorders.refl _).insert (reorders_onBoth ..)
  · cbv
  · cbv

end GraphWalk

end RecordFilters
