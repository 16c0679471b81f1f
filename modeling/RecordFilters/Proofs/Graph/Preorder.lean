import RecordFilters.Proofs.Graph.Walks

/-! # The order in which descendants are found

The list of descendants is collected with a stack, which holds an id once for every edge that has led
there. What comes out is what a recursion gives that goes down from each condition in turn and hands
on what it has seen: the same filters in the same order, and the same error.

* `tour`, `preorder`: the recursion, and the list that it makes.
* `descendants_eq_preorder`: the stack does what the recursion does.
* `mem_descendants_iff`: which filters these are.
* `descendants_preorder`: both, and what follows where no other version of the candidate is in the
  way; `descendants_ne_below`: one can be. -/

namespace RecordFilters

open Relation

/-! ### Filters other than one -/

namespace FilterSet

variable {s : FilterSet} {candidate f : Filter} {a id : FilterId}

/-- What lies below a candidate lies below it without its own stored version too, where that version
adds nothing to what a way back to the candidate has found. -/
theorem below_erase_iff
    (h : s.Below candidate candidate.id →
      ∀ b, s.PointsAt candidate.id b → b ∈ candidate.subFilterIds) :
    FilterSet.Below (s.erase candidate.id) candidate id ↔ s.Below candidate id := by
  constructor
  · rintro ⟨sub, hsub, hway⟩
    exact ⟨sub, hsub, ReflTransGen.mono (fun _ _ hab => (pointsAt_erase.1 hab).2) _ _ hway⟩
  · rintro ⟨sub, hsub, hway⟩
    induction hway with
    | refl => exact ⟨sub, hsub, .refl⟩
    | @tail a b hway hab ih =>
      by_cases ha : a = candidate.id
      · -- from the candidate on the way starts anew
        subst ha
        exact ⟨b, h ⟨sub, hsub, hway⟩ b hab, .refl⟩
      · exact ih.tail (pointsAt_erase.2 ⟨ha, hab⟩)

end FilterSet

namespace GraphWalk

variable {g : GraphWalk} {candidate f : Filter} {origin id : FilterId} {seen : List FilterId}
  {below : List Filter}

/-! ### The recursion -/

/-- How far a tour has come: what it has seen and what it has listed. -/
structure Tour where
  seen : List FilterId
  listed : List Filter

/-- The tour of an id at a depth. An id that has been seen is passed over; a stored filter is listed,
and then the tour goes through its sub-filters, one level deeper. -/
def tour (g : GraphWalk) (origin : FilterId) (depth : Nat) (t : Tour) (id : FilterId) :
    Except FilterError Tour :=
  if _hdepth : g.maxDepth < depth then .error (g.tooDeep origin)
  else if id ∈ t.seen then .ok t
  else match g.filters.get? id with
    | none => .ok ⟨id :: t.seen, t.listed⟩
    | some f => f.subFilterIds.foldlM (g.tour origin (depth + 1)) ⟨id :: t.seen, t.listed ++ [f]⟩
termination_by g.maxDepth + 1 - depth

/-- What a tour through the sub-filters of a candidate lists. The candidate itself counts as seen. -/
def preorder (g : GraphWalk) (candidate : Filter) : Except FilterError (List Filter) :=
  (candidate.subFilterIds.foldlM (g.tour candidate.id 1) ⟨[candidate.id], []⟩).map Tour.listed

/-- **A stack is a tour of its places**, from the top: what lies below a place stands on the stack
before the next place. -/
theorem map_collectBelow (stack : List (FilterId × Nat)) (listed : List Filter) :
    (g.collectBelow origin seen stack).map (listed ++ ·) =
      (stack.foldlM (fun t (p : FilterId × Nat) => g.tour origin p.2 t p.1) ⟨seen, listed⟩).map
        Tour.listed := by
  fun_induction collectBelow g origin seen stack generalizing listed with
  | case1 seen =>
    rw [List.foldlM_nil]
    exact congrArg Except.ok (List.append_nil listed)
  | case2 seen id depth stack hdeep =>
    rw [List.foldlM_cons, tour, dif_pos hdeep]
    rfl
  | case3 seen id depth stack hdepth hs ih =>
    rw [List.foldlM_cons, tour, dif_neg hdepth, if_pos hs]
    exact ih listed
  | case4 seen id depth stack hdepth hs hf ih =>
    rw [List.foldlM_cons, tour, dif_neg hdepth, if_neg hs, hf]
    exact ih listed
  | case5 seen id depth stack hdepth hs f hf ih =>
    have hrest := ih (listed ++ [f])
    rw [List.foldlM_append, List.foldlM_map] at hrest
    rw [List.foldlM_cons, tour, dif_neg hdepth, if_neg hs, hf, ← hrest]
    rcases g.collectBelow origin (id :: seen)
      (f.subFilterIds.map (fun sub => (sub, depth + 1)) ++ stack) with e | found
    · rfl
    · exact congrArg Except.ok (List.append_cons ..)

/-- **The list of descendants is the one that the recursion makes**, and fails where it fails. -/
theorem descendants_eq_preorder (g : GraphWalk) (candidate : Filter) :
    g.descendants candidate = g.preorder candidate := by
  have h := @map_collectBelow g candidate.id [candidate.id]
    (candidate.subFilterIds.map fun id => (id, 1)) []
  rw [List.foldlM_map] at h
  unfold descendants preorder
  rw [← h]
  cases g.collectBelow candidate.id [candidate.id] (candidate.subFilterIds.map fun id => (id, 1)) <;>
    rfl

/-! ### What is listed -/

/-- A way by edges that start outside a list is one by edges that start outside its tail. -/
theorem reflTransGen_of_cons {a b : FilterId}
    (h : ReflTransGen (fun a b => a ∉ id :: seen ∧ g.filters.PointsAt a b) a b) :
    ReflTransGen (fun a b => a ∉ seen ∧ g.filters.PointsAt a b) a b :=
  ReflTransGen.mono (fun _ _ hab => ⟨fun hs => hab.1 (List.mem_cons_of_mem _ hs), hab.2⟩) _ _ h

/-- What is collected from a stack is stored, has not been seen before and is reached from a place of
the stack, by edges of filters that have not been seen either. No id is collected twice. -/
theorem reached_of_collectBelow {stack : List (FilterId × Nat)}
    (h : g.collectBelow origin seen stack = .ok below) :
    (∀ f ∈ below, f ∈ g.filters ∧ f.id ∉ seen ∧
      ∃ p ∈ stack, ReflTransGen (fun a b => a ∉ seen ∧ g.filters.PointsAt a b) p.1 f.id) ∧
    (below.map Filter.id).Nodup := by
  fun_induction collectBelow g origin seen stack generalizing below with
  | case1 seen =>
    cases h
    exact ⟨fun f hf => absurd hf List.not_mem_nil, List.nodup_nil⟩
  | case2 => cases h
  | case3 seen id depth stack _ _ ih =>
    obtain ⟨hfound, hnodup⟩ := ih h
    refine ⟨fun f hf => ?_, hnodup⟩
    obtain ⟨hmem, hnew, p, hp, hway⟩ := hfound f hf
    exact ⟨hmem, hnew, p, List.mem_cons_of_mem _ hp, hway⟩
  | case4 seen id depth stack _ _ _ ih =>
    obtain ⟨hfound, hnodup⟩ := ih h
    refine ⟨fun f hf => ?_, hnodup⟩
    obtain ⟨hmem, hnew, p, hp, hway⟩ := hfound f hf
    exact ⟨hmem, fun hs => hnew (List.mem_cons_of_mem _ hs), p, List.mem_cons_of_mem _ hp,
      reflTransGen_of_cons hway⟩
  | case5 seen id depth stack _ hs f hf ih =>
    obtain ⟨rest, hrest, rfl⟩ := map_eq_ok_iff.1 h
    obtain ⟨hfound, hnodup⟩ := ih hrest
    obtain ⟨hstored, rfl⟩ := Index.get?_eq_some_iff.1 hf
    constructor
    · intro f' hf'
      rcases List.mem_cons.1 hf' with rfl | hf'
      · exact ⟨hstored, hs, (f'.id, depth), List.mem_cons_self, .refl⟩
      · obtain ⟨hmem, hnew, p, hp, hway⟩ := hfound f' hf'
        have hway := reflTransGen_of_cons hway
        refine ⟨hmem, fun hs => hnew (List.mem_cons_of_mem _ hs), ?_⟩
        rcases List.mem_append.1 hp with hp | hp
        · obtain ⟨sub, hsub, rfl⟩ := List.mem_map.1 hp
          have hedge : g.filters.PointsAt f.id sub := FilterSet.pointsAt_of_mem hstored hsub
          exact ⟨(f.id, depth), List.mem_cons_self, .head ⟨hs, hedge⟩ hway⟩
        · exact ⟨p, List.mem_cons_of_mem _ hp, hway⟩
    · rw [List.map_cons, List.nodup_cons]
      refine ⟨fun hmem => ?_, hnodup⟩
      obtain ⟨f', hf', hid⟩ := List.mem_map.1 hmem
      exact (hfound f' hf').2.1 (hid ▸ List.mem_cons_self)

theorem nodup_of_descendants (h : g.descendants candidate = .ok below) :
    (below.map Filter.id).Nodup :=
  (reached_of_collectBelow h).2

/-- **The descendants of a candidate are the other stored filters that lie below it among the other
stored filters.** -/
theorem mem_descendants_iff (h : g.descendants candidate = .ok below) :
    f ∈ below ↔ f ∈ g.filters.erase candidate.id ∧
      FilterSet.Below (g.filters.erase candidate.id) candidate f.id := by
  have hedges : (fun a b => a ∉ [candidate.id] ∧ g.filters.PointsAt a b) =
      FilterSet.PointsAt (g.filters.erase candidate.id) := by
    funext a b
    rw [List.mem_singleton, eq_iff_iff]
    exact FilterSet.pointsAt_erase.symm
  rw [Index.mem_erase]
  constructor
  · intro hf
    obtain ⟨hmem, hnew, p, hp, hway⟩ := (reached_of_collectBelow h).1 f hf
    obtain ⟨sub, hsub, rfl⟩ := List.mem_map.1 hp
    rw [hedges] at hway
    exact ⟨⟨hmem, fun hid => hnew (List.mem_singleton.2 hid)⟩, sub, hsub, hway⟩
  · rintro ⟨⟨hmem, hne⟩, sub, hsub, hway⟩
    obtain ⟨C, -, hstack, hclosed, hfound⟩ := exists_closed_of_collectBelow h
    have hC : ∀ id, ReflTransGen (FilterSet.PointsAt (g.filters.erase candidate.id)) sub id →
        C id := by
      intro id hway
      rw [← hedges] at hway
      induction hway with
      | refl => exact hstack (sub, 1) (List.mem_map.2 ⟨sub, hsub, rfl⟩)
      | tail _ hab ih => exact hclosed _ _ ih hab.1 hab.2
    exact hfound f hmem (hC f.id hway) fun hs => hne (List.mem_singleton.1 hs)

/-- The descendants of a candidate that does not lead back to itself are all that lies below it. -/
theorem mem_of_descendants (h : g.descendants candidate = .ok below)
    (hc : ¬ g.filters.Below candidate candidate.id) (hf : f ∈ g.filters)
    (hb : g.filters.Below candidate f.id) : f ∈ below := by
  have hne : f.id ≠ candidate.id := fun hid => hc (hid ▸ hb)
  have hbelow : FilterSet.Below (g.filters.erase candidate.id) candidate f.id :=
    (FilterSet.below_erase_iff fun hback => absurd hback hc).2 hb
  exact (mem_descendants_iff h).2 ⟨Index.mem_erase.2 ⟨hf, hne⟩, hbelow⟩

/-- **The list of descendants** is the one that the recursion makes, the error about the depth
included. It holds no filter twice, and it holds the other stored filters that lie below the
candidate among the other stored filters. These are all other stored filters that lie below it,
unless a way leads back to the candidate and a stored version of it has sub-filters that it has not:
the walk goes on from the conditions of the candidate and never from those of its stored version. -/
theorem descendants_preorder (g : GraphWalk) (candidate : Filter) :
    g.descendants candidate = g.preorder candidate ∧
    ∀ below, g.descendants candidate = .ok below →
      (below.map Filter.id).Nodup ∧
      (∀ f, f ∈ below ↔ f ∈ g.filters.erase candidate.id ∧
        FilterSet.Below (g.filters.erase candidate.id) candidate f.id) ∧
      ((g.filters.Below candidate candidate.id →
          ∀ id, g.filters.PointsAt candidate.id id → id ∈ candidate.subFilterIds) →
        ∀ f, f ∈ below ↔
          f ∈ g.filters ∧ f.id ≠ candidate.id ∧ g.filters.Below candidate f.id) := by
  refine ⟨descendants_eq_preorder g candidate, fun below h =>
    ⟨nodup_of_descendants h, fun f => mem_descendants_iff h, fun hversion f => ?_⟩⟩
  rw [mem_descendants_iff h, Index.mem_erase, FilterSet.below_erase_iff hversion, and_assoc]

/-- A filter on persons. -/
def onPerson (id : FilterId) (c : Condition) : Filter where
  id := id
  name := id
  entityType := "person"
  conditions := [c]
  conditions_ne_nil := c.singleton_ne_nil

/-- A filter on one that points at a property, and a filter that points back at it. -/
def aroundTop : FilterSet :=
  .ofList [onPerson "vips" (.onProperty "vip" true), onPerson "top" (.onSubFilter "vips"),
    onPerson "inner" (.onSubFilter "top")]

/-- **What lies below an older version of the candidate is no descendant**, though stored edges lead
there: from the new version to the filter that points back, and from the old version on. -/
theorem descendants_ne_below :
    (⟨aroundTop, 10⟩ : GraphWalk).descendants (onPerson "top" (.onSubFilter "inner")) =
        .ok [onPerson "inner" (.onSubFilter "top")] ∧
      onPerson "vips" (.onProperty "vip" true) ∈ aroundTop ∧
      aroundTop.Below (onPerson "top" (.onSubFilter "inner")) "vips" := by
  have hvips : onPerson "vips" (.onProperty "vip" true) ∈ aroundTop :=
    Index.mem_of_get? (k := "vips") rfl
  have htop : onPerson "top" (.onSubFilter "vips") ∈ aroundTop :=
    Index.mem_of_get? (k := "top") rfl
  have hinner : onPerson "inner" (.onSubFilter "top") ∈ aroundTop :=
    Index.mem_of_get? (k := "inner") rfl
  have hback : aroundTop.PointsAt "inner" "top" :=
    FilterSet.pointsAt_of_mem hinner (by decide)
  have hold : aroundTop.PointsAt "top" "vips" := FilterSet.pointsAt_of_mem htop (by decide)
  exact ⟨by cbv, hvips, "inner", by decide, .head hback (.single hold)⟩

end GraphWalk

end RecordFilters
