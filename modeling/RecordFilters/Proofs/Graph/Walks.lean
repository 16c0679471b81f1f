import RecordFilters.Graph
import RecordFilters.Proofs.Graph.Reachability
import RecordFilters.Proofs.Results

/-! # What a walk that succeeds has seen

A walk succeeds when its stack runs empty. By then what it has seen is closed: no edge leads out of
it, other than from ids that were marked as seen before the walk began. The three walks differ in
what they do on the way, so each has its own lemma, by induction over its steps.

* `not_below_of_checkAcyclic`: the search for a cycle succeeds only if the candidate does not lead
  back to itself.
* `exists_closed_of_collectBelow`: a list of descendants holds all stored filters of a closed set.
* `mem_of_ancestors`: the list of ancestors holds all that reaches the id. -/

namespace RecordFilters

open Relation

namespace GraphWalk

variable {g : GraphWalk} {candidate f : Filter} {origin id : FilterId} {seen : List FilterId}

/-- No edge leads out of `C`, other than from the ids in `seen`. -/
def ClosedFrom (s : FilterSet) (seen : List FilterId) (C : FilterId → Prop) : Prop :=
  ∀ a b, C a → a ∉ seen → s.PointsAt a b → C b

/-- A set that is closed but for an id without edges in the stored filters is closed. -/
theorem ClosedFrom.of_get?_eq_none {s : FilterSet} {C : FilterId → Prop}
    (hC : ClosedFrom s (id :: seen) C) (hid : s.get? id = none) : ClosedFrom s seen C := by
  intro a b ha hs hab
  refine hC a b ha (fun h => ?_) hab
  rcases List.mem_cons.1 h with rfl | h
  · obtain ⟨f, hf, he, -⟩ := hab
    exact Index.get?_eq_none_iff.1 hid f hf he
  · exact hs h

/-- A set that is closed but for a stored filter, and holds what that filter points at, is closed. -/
theorem ClosedFrom.of_get?_eq_some {s : FilterSet} {C : FilterId → Prop}
    (hC : ClosedFrom s (id :: seen) C) (hid : s.get? id = some f)
    (hsub : ∀ sub ∈ f.subFilterIds, C sub) : ClosedFrom s seen C := by
  intro a b ha hs hab
  by_cases h : a = id
  · obtain ⟨hf, rfl⟩ := Index.get?_eq_some_iff.1 hid
    subst h
    exact hsub b (FilterSet.mem_subFilterIds_of_pointsAt hf hab)
  · exact hC a b ha (by simp [h, hs]) hab

/-- From a member of a closed set only members are reached. -/
theorem ClosedFrom.of_reflTransGen {s : FilterSet} {C : FilterId → Prop} {a b : FilterId}
    (hC : ClosedFrom s [] C) (ha : C a) (h : ReflTransGen s.PointsAt a b) : C b := by
  induction h with
  | refl => exact ha
  | tail _ hbc ih => exact hC _ _ ih List.not_mem_nil hbc

/-! ### The search for a cycle -/

theorem Place.mem_below {p q : Place} :
    q ∈ p.below f ↔ ∃ sub ∈ f.subFilterIds, ⟨sub, p.depth + 1, p.root⟩ = q := by
  simp [Place.below]

/-- An id that has been found within the bound is so wherever it is looked for. -/
theorem mem_or_within_of_cons {P : Nat → FilterId → Prop} {a : FilterId} {n bound : Nat}
    (hid : P n id) (hn : n ≤ bound) (h : a ∈ id :: seen ∨ ∃ m ≤ bound, P m a) :
    a ∈ seen ∨ ∃ m ≤ bound, P m a := by
  rcases h with hs | hwithin
  · rcases List.mem_cons.1 hs with rfl | hs
    · exact Or.inr ⟨n, hn, hid⟩
    · exact Or.inl hs
  · exact Or.inr hwithin

/-- What a search without an error has seen is closed, does not hold the origin, and has been found
within the bound: whatever is passed on from the places of the stack along the edges, counting them,
holds of each id that has come in, at some depth within the bound. -/
theorem exists_closed_of_searchCycle {stack : List Place}
    (h : g.searchCycle origin seen stack = .ok ()) (ho : origin ∉ seen) :
    ∃ C : FilterId → Prop, (∀ a ∈ seen, C a) ∧ (∀ p ∈ stack, C p.id) ∧ ¬ C origin ∧
      ClosedFrom g.filters seen C ∧
      ∀ P : Nat → FilterId → Prop, (∀ p ∈ stack, P p.depth p.id) →
        (∀ n a b, P n a → g.filters.PointsAt a b → P (n + 1) b) →
          ∀ a, C a → a ∈ seen ∨ ∃ n ≤ g.maxDepth, P n a := by
  fun_induction searchCycle g origin seen stack with
  | case1 seen =>
    exact ⟨(· ∈ seen), fun _ => id, by simp, ho, fun a b ha hs => absurd ha hs,
      fun _ _ _ a ha => Or.inl ha⟩
  | case2 => cases h
  | case3 => cases h
  | case4 seen p stack _ _ hs ih =>
    obtain ⟨C, hseen, hstack, hC, hclosed, hfound⟩ := ih h ho
    exact ⟨C, hseen, List.forall_mem_cons.2 ⟨hseen _ hs, hstack⟩, hC, hclosed,
      fun P hP => hfound P (List.forall_mem_cons.1 hP).2⟩
  | case5 seen p stack hne hdepth _ hf ih =>
    obtain ⟨C, hseen, hstack, hC, hclosed, hfound⟩ := ih h (by simp [Ne.symm hne, ho])
    obtain ⟨hid, hseen⟩ := List.forall_mem_cons.1 hseen
    refine ⟨C, hseen, List.forall_mem_cons.2 ⟨hid, hstack⟩, hC, hclosed.of_get?_eq_none hf, ?_⟩
    intro P hP hnext a ha
    obtain ⟨hp, hP⟩ := List.forall_mem_cons.1 hP
    exact mem_or_within_of_cons hp (Nat.le_of_not_lt hdepth) (hfound P hP hnext a ha)
  | case6 seen p stack hne hdepth _ f hf ih =>
    obtain ⟨C, hseen, hstack, hC, hclosed, hfound⟩ := ih h (by simp [Ne.symm hne, ho])
    obtain ⟨hid, hseen⟩ := List.forall_mem_cons.1 hseen
    obtain ⟨hbelow, hstack⟩ := List.forall_mem_append.1 hstack
    refine ⟨C, hseen, List.forall_mem_cons.2 ⟨hid, hstack⟩, hC, hclosed.of_get?_eq_some hf ?_, ?_⟩
    · intro sub hsub
      exact hbelow ⟨sub, p.depth + 1, p.root⟩ (by simp [Place.below, hsub])
    · intro P hP hnext a ha
      obtain ⟨hp, hP⟩ := List.forall_mem_cons.1 hP
      have hP' : ∀ q ∈ p.below f ++ stack, P q.depth q.id := by
        refine List.forall_mem_append.2 ⟨fun q hq => ?_, hP⟩
        obtain ⟨hmem, hi⟩ := Index.get?_eq_some_iff.1 hf
        obtain ⟨sub, hsub, rfl⟩ := Place.mem_below.1 hq
        exact hnext _ _ _ hp (hi ▸ FilterSet.pointsAt_of_mem hmem hsub)
      exact mem_or_within_of_cons hp (Nat.le_of_not_lt hdepth) (hfound P hP' hnext a ha)

/-- **A candidate that passes the search for a cycle does not lead back to itself.** -/
theorem not_below_of_checkAcyclic (h : g.checkAcyclic candidate = .ok ()) :
    ¬ g.filters.Below candidate candidate.id := by
  unfold checkAcyclic at h
  simp only at h
  split at h
  · cases h
  · obtain ⟨C, -, hstack, hC, hclosed, -⟩ := exists_closed_of_searchCycle h List.not_mem_nil
    rintro ⟨sub, hsub, hway⟩
    have hroot : C sub := hstack ⟨sub, 1, sub⟩ (by simp [hsub])
    exact hC (hclosed.of_reflTransGen hroot hway)

/-! ### Descendants -/

theorem exists_closed_of_collectBelow {stack : List (FilterId × Nat)} {found : List Filter}
    (h : g.collectBelow origin seen stack = .ok found) :
    ∃ C : FilterId → Prop, (∀ a ∈ seen, C a) ∧ (∀ p ∈ stack, C p.1) ∧
      ClosedFrom g.filters seen C ∧ ∀ f ∈ g.filters, C f.id → f.id ∉ seen → f ∈ found := by
  fun_induction collectBelow g origin seen stack generalizing found with
  | case1 seen =>
    exact ⟨(· ∈ seen), fun _ => id, by simp, fun a b ha hs => absurd ha hs,
      fun f _ hf hs => absurd hf hs⟩
  | case2 => cases h
  | case3 seen id depth stack _ hs ih =>
    obtain ⟨C, hseen, hstack, hC⟩ := ih h
    exact ⟨C, hseen, List.forall_mem_cons.2 ⟨hseen _ hs, hstack⟩, hC⟩
  | case4 seen id depth stack _ _ hf ih =>
    obtain ⟨C, hseen, hstack, hclosed, hfound⟩ := ih h
    obtain ⟨hid, hseen⟩ := List.forall_mem_cons.1 hseen
    refine ⟨C, hseen, List.forall_mem_cons.2 ⟨hid, hstack⟩, hclosed.of_get?_eq_none hf, ?_⟩
    intro f hfs hCf hs
    have hne : f.id ≠ id := Index.get?_eq_none_iff.1 hf f hfs
    exact hfound f hfs hCf (by simp [hne, hs])
  | case5 seen id depth stack _ _ f hf ih =>
    obtain ⟨rest, hrest, rfl⟩ := map_eq_ok_iff.1 h
    obtain ⟨C, hseen, hstack, hclosed, hfound⟩ := ih hrest
    obtain ⟨hid, hseen⟩ := List.forall_mem_cons.1 hseen
    obtain ⟨hbelow, hstack⟩ := List.forall_mem_append.1 hstack
    refine ⟨C, hseen, List.forall_mem_cons.2 ⟨hid, hstack⟩, hclosed.of_get?_eq_some hf ?_, ?_⟩
    · intro sub hsub
      exact hbelow (sub, depth + 1) (List.mem_map.2 ⟨sub, hsub, rfl⟩)
    · intro f' hfs hCf hs
      by_cases hne : f'.id = id
      · obtain ⟨hmem, hi⟩ := Index.get?_eq_some_iff.1 hf
        rw [Index.eq_of_key_eq hfs hmem (hne.trans hi.symm)]
        exact List.mem_cons_self
      · exact List.mem_cons_of_mem _ (hfound f' hfs hCf (by simp [hne, hs]))

/-! ### Ancestors -/

theorem mem_unseenParents {s : FilterSet} {a : FilterId} :
    a ∈ s.unseenParents seen id ↔ s.PointsAt a id ∧ a ∉ seen := by
  simp only [FilterSet.unseenParents, List.mem_filter, FilterSet.mem_parentsOf, decide_not,
    Bool.not_eq_true', decide_eq_false_iff_not]
  exact Iff.rfl

theorem exists_closed_of_collectAbove {stack : List (FilterId × Nat)} {found : List FilterId}
    (h : g.collectAbove origin seen stack = .ok found) :
    ∃ C : FilterId → Prop, (∀ a ∈ seen, C a) ∧
      (∀ p ∈ stack, ∀ a, g.filters.PointsAt a p.1 → C a) ∧
      (∀ a b, C b → b ∉ seen → g.filters.PointsAt a b → C a) ∧
      ∀ a, C a → a ∉ seen → a ∈ found := by
  fun_induction collectAbove g origin seen stack generalizing found with
  | case1 seen =>
    exact ⟨(· ∈ seen), fun _ => id, by simp, fun a b hb hs => absurd hb hs,
      fun a ha hs => absurd ha hs⟩
  | case2 => cases h
  | case3 seen id depth stack _ ih =>
    obtain ⟨rest, hrest, rfl⟩ := map_eq_ok_iff.1 h
    obtain ⟨C, hseen, hstack, hclosed, hfound⟩ := ih hrest
    obtain ⟨hnew, hseen⟩ := List.forall_mem_append.1 hseen
    obtain ⟨hpushed, hstack⟩ := List.forall_mem_append.1 hstack
    refine ⟨C, hseen, List.forall_mem_cons.2 ⟨fun a ha => ?_, hstack⟩, fun a b hb hs hab => ?_,
      fun a ha hs => ?_⟩
    · -- a parent has been seen before or is new
      by_cases hs : a ∈ seen
      · exact hseen a hs
      · exact hnew a (mem_unseenParents.2 ⟨ha, hs⟩)
    · by_cases hn : b ∈ g.filters.unseenParents seen id
      · exact hpushed (b, depth + 1) (by simp [hn]) a hab
      · exact hclosed a b hb (by simp [hn, hs]) hab
    · by_cases hn : a ∈ g.filters.unseenParents seen id
      · exact List.mem_append_left _ hn
      · exact List.mem_append_right _ (hfound a ha (by simp [hn, hs]))

/-- **The ancestors of an id are all other filters that reach it.** -/
theorem mem_of_ancestors {a : FilterId} {above : List FilterId} (h : g.ancestors id = .ok above)
    (hne : a ≠ id) (ha : g.filters.Reaches a id) : a ∈ above := by
  obtain ⟨found, hfound, rfl⟩ := map_eq_ok_iff.1 h
  obtain ⟨C, -, hstack, hclosed, hC⟩ := exists_closed_of_collectAbove hfound
  have hup : C a := by
    clear hne
    induction ha using TransGen.head_induction_on with
    | single hab => exact hstack (id, 0) List.mem_cons_self _ hab
    | @head a b hab _ ih =>
      by_cases hb : b = id
      · exact hstack (id, 0) List.mem_cons_self _ (hb ▸ hab)
      · exact hclosed _ _ ih (by simpa using hb) hab
  exact NameSet.mem_ofList.2 (hC a hup (by simpa using hne))

end GraphWalk

end RecordFilters
