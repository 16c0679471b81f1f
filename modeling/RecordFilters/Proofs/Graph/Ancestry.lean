import RecordFilters.Authorization
import RecordFilters.Proofs.Graph.CycleSearch
import RecordFilters.Proofs.Graph.Preorder

/-! # What the walk upwards finds

The walk upwards asks every stored filter for its edges, marks a filter when it is pushed and looks at
the depth before it looks at what it has seen; the walk downwards does neither. Both are compared with
the ways of the graph, and through these with each other.

* `mem_ancestors_iff`: the ancestors of an id are the other stored filters that reach it.
* `exists_way_of_ancestors_eq_error`: an error tells of a way up that is longer than the bound.
* `mem_ancestors_iff_mem_descendants`: the two walks agree on every pair of stored filters.
* `checkDependents_eq_error_iff`: what stands against a new owner.
* `ancestors_and_conflicts`: all of this in one. -/

namespace RecordFilters

open Relation

namespace FilterSet

variable {s : FilterSet} {candidate f : Filter} {a id origin : FilterId} {n : Nat}

theorem pairwise_parentsOf (s : FilterSet) (id : FilterId) : (s.parentsOf id).Pairwise (· < ·) :=
  List.pairwise_map.2 (s.sorted.filter _)

theorem nodup_parentsOf (s : FilterSet) (id : FilterId) : (s.parentsOf id).Nodup :=
  (pairwise_parentsOf s id).imp ne_of_lt

/-- A way is made longer by a first edge. -/
theorem Way.cons (hf : f ∈ s) (hsub : f.id ∈ candidate.subFilterIds) (h : s.Way f n id) :
    s.Way candidate (n + 1) id := by
  induction h with
  | first hid => exact .next (.first hsub) (pointsAt_of_mem hf hid)
  | next _ hab ih => exact .next ih hab

/-- A place of the walk upwards: the origin, or a stored filter from which a way of that many edges
leads to the origin. -/
def IsAbove (s : FilterSet) (origin : FilterId) (p : FilterId × Nat) : Prop :=
  p = (origin, 0) ∨ ∃ f ∈ s, f.id = p.1 ∧ s.Way f p.2 origin

/-- From a parent the way is one edge longer. -/
theorem IsAbove.parent {p : FilterId × Nat} (h : s.IsAbove origin p) (hedge : s.PointsAt a p.1) :
    ∃ f ∈ s, f.id = a ∧ s.Way f (p.2 + 1) origin := by
  obtain ⟨f, hf, rfl, hsub⟩ := hedge
  rcases h with rfl | ⟨g, hg, hid, hway⟩
  · exact ⟨f, hf, rfl, .first hsub⟩
  · exact ⟨f, hf, rfl, .cons hg (hid ▸ hsub) hway⟩

/-- What the ids of a list stand for, as ids again: those that are stored. -/
theorem map_id_filterMap_get? (s : FilterSet) (ids : List FilterId) :
    (ids.filterMap s.get?).map Filter.id = ids.filter s.contains := by
  induction ids with
  | nil => rfl
  | cons id ids ih =>
    rw [List.filterMap_cons, List.filter_cons, Index.contains]
    cases hf : s.get? id with
    | none => exact ih
    | some f =>
      rw [List.map_cons, ih, Index.key_of_get? hf]
      rfl

end FilterSet

namespace GraphWalk

variable {g : GraphWalk} {f f' : Filter} {origin id a : FilterId} {seen above : List FilterId}
  {below : List Filter} {e : FilterError}

/-! ### Ancestors -/

theorem nodup_unseenParents (s : FilterSet) (seen : List FilterId) (id : FilterId) :
    (s.unseenParents seen id).Nodup :=
  (FilterSet.nodup_parentsOf s id).filter _

/-- What is collected upwards from a stack has not been seen before and reaches a place of the stack.
No id is collected twice. -/
theorem reaches_of_collectAbove {stack : List (FilterId × Nat)} {found : List FilterId}
    (h : g.collectAbove origin seen stack = .ok found) :
    (∀ a ∈ found, a ∉ seen ∧ ∃ p ∈ stack, g.filters.Reaches a p.1) ∧ found.Nodup := by
  fun_induction collectAbove g origin seen stack generalizing found with
  | case1 =>
    cases h
    exact ⟨fun a ha => absurd ha List.not_mem_nil, List.nodup_nil⟩
  | case2 => cases h
  | case3 seen id depth stack _ ih =>
    obtain ⟨rest, hrest, rfl⟩ := map_eq_ok_iff.1 h
    obtain ⟨hfound, hnodup⟩ := ih hrest
    constructor
    · intro a ha
      rcases List.mem_append.1 ha with ha | ha
      · obtain ⟨hedge, hs⟩ := mem_unseenParents.1 ha
        exact ⟨hs, (id, depth), List.mem_cons_self, .single hedge⟩
      · obtain ⟨hnew, p, hp, hway⟩ := hfound a ha
        refine ⟨fun hs => hnew (List.mem_append_right _ hs), ?_⟩
        rcases List.mem_append.1 hp with hp | hp
        · obtain ⟨parent, hparent, rfl⟩ := List.mem_map.1 (List.mem_reverse.1 hp)
          have hedge : g.filters.PointsAt parent id := (mem_unseenParents.1 hparent).1
          exact ⟨(id, depth), List.mem_cons_self, hway.tail hedge⟩
        · exact ⟨p, List.mem_cons_of_mem _ hp, hway⟩
    · refine List.nodup_append'.2 ⟨nodup_unseenParents _ _ _, hnodup, fun a hnew ha => ?_⟩
      exact (hfound a ha).1 (List.mem_append_left _ hnew)

/-- The list of ancestors is sorted, and it is what the walk has found: the walk finds no filter
twice, so that nothing is lost when its list is sorted. -/
theorem ancestors_perm (h : g.ancestors id = .ok above) :
    above.Pairwise (· < ·) ∧
      ∃ found, g.collectAbove id [id] [(id, 0)] = .ok found ∧ above.Perm found := by
  obtain ⟨found, hfound, rfl⟩ := map_eq_ok_iff.1 h
  have hsorted : (Index.ofList found : NameSet).toList.Pairwise (· < ·) := Index.sorted _
  have hnodup : (Index.ofList found : NameSet).toList.Nodup := hsorted.imp ne_of_lt
  refine ⟨hsorted, found, hfound, ?_⟩
  exact (List.perm_ext_iff_of_nodup hnodup (reaches_of_collectAbove hfound).2).2
    fun a => NameSet.mem_ofList

/-- **The ancestors of an id are the other stored filters that reach it.** -/
theorem mem_ancestors_iff (h : g.ancestors id = .ok above) :
    a ∈ above ↔ a ≠ id ∧ g.filters.Reaches a id := by
  constructor
  · intro ha
    obtain ⟨-, found, hfound, hperm⟩ := ancestors_perm h
    obtain ⟨hnew, p, hp, hway⟩ := (reaches_of_collectAbove hfound).1 a (hperm.mem_iff.1 ha)
    obtain rfl := List.mem_singleton.1 hp
    exact ⟨fun hid => hnew (List.mem_singleton.2 hid), hway⟩
  · rintro ⟨hne, hway⟩
    exact mem_of_ancestors h hne hway

/-- An error of the walk upwards tells of a way that is longer than the bound. -/
theorem exists_way_of_collectAbove_eq_error {stack : List (FilterId × Nat)}
    (h : g.collectAbove origin seen stack = .error e)
    (hstack : ∀ p ∈ stack, g.filters.IsAbove origin p) :
    e = g.tooDeep origin ∧
      ∃ f ∈ g.filters, ∃ n, g.maxDepth < n ∧ g.filters.Way f n origin := by
  fun_induction collectAbove g origin seen stack with
  | case1 => cases h
  | case2 seen id depth stack hdeep =>
    obtain ⟨hp, -⟩ := List.forall_mem_cons.1 hstack
    obtain ⟨parent, hparent⟩ := List.exists_mem_of_ne_nil _ hdeep.1
    obtain ⟨f, hf, -, hway⟩ := hp.parent (FilterSet.mem_parentsOf.1 hparent)
    cases h
    exact ⟨rfl, f, hf, depth + 1, hdeep.2, hway⟩
  | case3 seen id depth stack _ ih =>
    obtain ⟨hp, hstack⟩ := List.forall_mem_cons.1 hstack
    refine ih (map_eq_error_iff.1 h) (List.forall_mem_append.2 ⟨fun q hq => ?_, hstack⟩)
    obtain ⟨parent, hparent, rfl⟩ := List.mem_map.1 (List.mem_reverse.1 hq)
    exact .inr (hp.parent (mem_unseenParents.1 hparent).1)

theorem exists_way_of_ancestors_eq_error (h : g.ancestors id = .error e) :
    e = g.tooDeep id ∧ ∃ f ∈ g.filters, ∃ n, g.maxDepth < n ∧ g.filters.Way f n id :=
  exists_way_of_collectAbove_eq_error (map_eq_error_iff.1 h)
    fun _ hp => .inl (List.mem_singleton.1 hp)

/-- **A stored filter is an ancestor of another exactly if that one is among its descendants.** -/
theorem mem_ancestors_iff_mem_descendants (hf : f ∈ g.filters) (hf' : f' ∈ g.filters)
    (hne : f.id ≠ f'.id) (habove : g.ancestors f'.id = .ok above)
    (hbelow : g.descendants f = .ok below) : f.id ∈ above ↔ f' ∈ below := by
  have hown : g.filters.Below f f.id → ∀ b, g.filters.PointsAt f.id b → b ∈ f.subFilterIds :=
    fun _ b hedge => FilterSet.mem_subFilterIds_of_pointsAt hf hedge
  calc f.id ∈ above
      ↔ f.id ≠ f'.id ∧ g.filters.Reaches f.id f'.id := mem_ancestors_iff habove
    _ ↔ (f' ∈ g.filters ∧ f'.id ≠ f.id) ∧ g.filters.Below f f'.id := by
        rw [FilterSet.below_iff_reaches hf]
        exact ⟨fun h => ⟨⟨hf', hne.symm⟩, h.2⟩, fun h => ⟨hne, h.2⟩⟩
    _ ↔ f' ∈ below := by
        rw [mem_descendants_iff hbelow, Index.mem_erase, FilterSet.below_erase_iff hown]

end GraphWalk

/-! ### What stands against a new owner -/

namespace Authorization

variable {a : Authorization} {candidate : Filter} {above ids : List FilterId} {id : FilterId}

/-- Those that are blocked stand in the order of the ancestors. -/
theorem blocked_sublist (a : Authorization) (candidate : Filter) (above : List FilterId) :
    (a.blocked candidate above).Sublist above := by
  have hstored : ((above.filterMap a.filters.get?).map Filter.id).Sublist above := by
    rw [FilterSet.map_id_filterMap_get?]
    exact List.filter_sublist
  exact (List.filter_sublist.map _).trans hstored

theorem mem_blocked : id ∈ a.blocked candidate above ↔
    ∃ f ∈ a.filters, f.id = id ∧ id ∈ above ∧
      mayReference a.directory f.ownership candidate.ownership = false := by
  simp only [blocked, List.mem_map, List.mem_filter, List.mem_filterMap, Bool.not_eq_true']
  constructor
  · rintro ⟨f, ⟨⟨id, hid, hget⟩, hmay⟩, rfl⟩
    obtain ⟨hf, rfl⟩ := Index.get?_eq_some_iff.1 hget
    exact ⟨f, hf, rfl, hid, hmay⟩
  · rintro ⟨f, hf, rfl, hid, hmay⟩
    exact ⟨f, ⟨⟨f.id, hid, Index.get?_eq_some_iff.2 ⟨hf, rfl⟩⟩, hmay⟩, rfl⟩

/-- With the ancestors at hand the third rule fails for those of them that are blocked, and for
nothing else. -/
theorem checkDependents_eq_error_iff {e : FilterError}
    (h : a.walk.ancestors candidate.id = .ok above) :
    a.checkDependents candidate = .error e ↔
      a.blocked candidate above ≠ [] ∧
        e = .conflict (.ownershipInUse candidate.id candidate.ownership)
          (a.blocked candidate above) := by
  unfold checkDependents
  simp only [h, bind, Except.bind]
  split
  next hnone => exact ⟨nofun, fun hblocked => absurd hnone hblocked.1⟩
  next hsome => exact ⟨fun herror => ⟨hsome, by cases herror; rfl⟩, fun ⟨_, he⟩ => he ▸ rfl⟩

/-- **The ancestors of an id and what stands against a new owner**, whatever is stored. Without an
error the list of ancestors is what the walk has found, strictly sorted: the other ids that reach the
id by stored edges. So two different stored filters are ancestor and descendant of each other or
neither. An error tells of a way up that is longer than the bound. When there is none, an owner that
some ancestor may not use is a conflict, which lists those ancestors in order, and there is no other
error. -/
theorem ancestors_and_conflicts (a : Authorization) :
    (∀ id above, a.walk.ancestors id = .ok above →
      (∃ found, a.walk.collectAbove id [id] [(id, 0)] = .ok found ∧ above.Perm found) ∧
      above.Pairwise (· < ·) ∧
      ∀ other, other ∈ above ↔ other ≠ id ∧ a.filters.Reaches other id) ∧
    (∀ f ∈ a.filters, ∀ f' ∈ a.filters, f.id ≠ f'.id → ∀ above below,
      a.walk.ancestors f'.id = .ok above → a.walk.descendants f = .ok below →
        (f.id ∈ above ↔ f' ∈ below)) ∧
    (∀ id e, a.walk.ancestors id = .error e →
      e = a.walk.tooDeep id ∧ ∃ f ∈ a.filters, ∃ n, a.maxDepth < n ∧ a.filters.Way f n id) ∧
    ∀ candidate above, a.walk.ancestors candidate.id = .ok above →
      ((∃ e, a.checkDependents candidate = .error e) ↔
        ∃ f ∈ a.filters, f.id ∈ above ∧
          mayReference a.directory f.ownership candidate.ownership = false) ∧
      ∀ e, a.checkDependents candidate = .error e →
        ∃ ids, e = .conflict (.ownershipInUse candidate.id candidate.ownership) ids ∧
          ids.Pairwise (· < ·) ∧
          ∀ id, id ∈ ids ↔ ∃ f ∈ a.filters, f.id = id ∧ id ∈ above ∧
            mayReference a.directory f.ownership candidate.ownership = false := by
  refine ⟨fun id above h => ?_, fun f hf f' hf' hne above below => ?_, fun id e h => ?_,
    fun candidate above h => ⟨?_, fun e he => ?_⟩⟩
  · obtain ⟨hsorted, hfound⟩ := GraphWalk.ancestors_perm h
    exact ⟨hfound, hsorted, fun other => GraphWalk.mem_ancestors_iff h⟩
  · exact GraphWalk.mem_ancestors_iff_mem_descendants hf hf' hne
  · exact GraphWalk.exists_way_of_ancestors_eq_error h
  · simp only [checkDependents_eq_error_iff h, exists_and_left, exists_eq, and_true]
    constructor
    · intro hne
      obtain ⟨id, hid⟩ := List.exists_mem_of_ne_nil _ hne
      obtain ⟨f, hf, rfl, habove, hmay⟩ := mem_blocked.1 hid
      exact ⟨f, hf, habove, hmay⟩
    · rintro ⟨f, hf, habove, hmay⟩
      exact List.ne_nil_of_mem (mem_blocked.2 ⟨f, hf, rfl, habove, hmay⟩)
  · obtain ⟨-, rfl⟩ := (checkDependents_eq_error_iff h).1 he
    have hsorted : above.Pairwise (· < ·) := (GraphWalk.ancestors_perm h).1
    exact ⟨_, rfl, hsorted.sublist (blocked_sublist a candidate above), fun id => mem_blocked⟩

end Authorization

end RecordFilters
