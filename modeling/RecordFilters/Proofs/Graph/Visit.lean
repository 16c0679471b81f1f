import RecordFilters.Graph
import RecordFilters.Proofs.Graph.Reachability
import RecordFilters.Proofs.Results

/-! # Visits within a depth

A visit goes down from a filter, sees every filter below it once and gives up where it would have to
go deeper than a bound. The list of descendants is such a visit. What a visit does depends on nothing
but what lies below the filter at which it starts, and one that gives up has come down a way as long
as the bound.

* `isOk_descendants`: descendants are listed if the visit does not give up.
* `visit_congr`: what a visit depends on, and with it which changes of one filter it does not see.
* `exists_way_of_visit_eq_none`: a visit that gives up has found a long way. -/

namespace RecordFilters

open Relation

namespace FilterSet

/-- What has been seen after a filter has been visited, with so many levels left for it and what lies
below it; nothing if it goes deeper. -/
def visit (s : FilterSet) : Nat → List FilterId → FilterId → Option (List FilterId)
  | 0, _, _ => none
  | levels + 1, seen, id =>
    if id ∈ seen then some seen
    else match s.get? id with
      | none => some (id :: seen)
      | some f => f.subFilterIds.foldlM (s.visit levels) (id :: seen)

/-- A filter nests no deeper than a bound, as far as a visit sees. -/
def WithinDepth (s : FilterSet) (maxDepth : Nat) (id : FilterId) : Prop :=
  (s.visit (maxDepth + 1) [] id).isSome = true

variable {s t : FilterSet} {f : Filter} {levels : Nat} {seen seen' l : List FilterId}
  {a id : FilterId}

/-! ### What has been seen -/

theorem visit_of_mem (h : id ∈ seen) : s.visit (levels + 1) seen id = some seen := by
  rw [visit, if_pos h]

theorem visit_of_get?_eq_some (h : id ∉ seen) (hf : s.get? id = some f) :
    s.visit (levels + 1) seen id = f.subFilterIds.foldlM (s.visit levels) (id :: seen) := by
  rw [visit, if_neg h, hf]

/-- What has been seen stays so, and what is visited has been seen then. -/
theorem mem_of_visit (h : s.visit levels seen id = some seen') :
    (∀ a ∈ seen, a ∈ seen') ∧ id ∈ seen' := by
  induction levels generalizing seen seen' id with
  | zero => cases h
  | succ levels ih =>
    have fold : ∀ (l : List FilterId) (seen : List FilterId),
        l.foldlM (s.visit levels) seen = some seen' → ∀ a ∈ seen, a ∈ seen' := by
      intro l
      induction l with
      | nil =>
        intro seen h a ha
        cases h
        exact ha
      | cons b l ihl =>
        intro seen h a ha
        rw [List.foldlM_cons] at h
        obtain ⟨seen₁, hb, hl⟩ := Option.bind_eq_some_iff.1 h
        exact ihl seen₁ hl a ((ih hb).1 a ha)
    rw [visit] at h
    split at h
    next hid =>
      cases h
      exact ⟨fun _ ha => ha, hid⟩
    next =>
      split at h
      next =>
        cases h
        exact ⟨fun a ha => List.mem_cons_of_mem _ ha, List.mem_cons_self⟩
      next f _ =>
        have kept := fold _ _ h
        exact ⟨fun a ha => kept a (List.mem_cons_of_mem _ ha), kept id List.mem_cons_self⟩

/-- What has been seen is not visited again. -/
theorem foldlM_visit_filter (ha : a ∈ seen) :
    (l.filter (· ≠ a)).foldlM (s.visit (levels + 1)) seen =
      l.foldlM (s.visit (levels + 1)) seen := by
  induction l generalizing seen with
  | nil => rfl
  | cons b l ih =>
    by_cases h : b = a
    · rw [List.filter_cons_of_neg (by simpa using h), List.foldlM_cons, ih ha, h,
        visit_of_mem ha]
      rfl
    · rw [List.filter_cons_of_pos (by simpa using h), List.foldlM_cons, List.foldlM_cons]
      cases hb : s.visit (levels + 1) seen b with
      | none => rfl
      | some seen₁ => exact ih ((mem_of_visit hb).1 a ha)

/-- Visiting a filter more than once makes no difference. -/
theorem foldlM_visit_distinct (l : List FilterId) (seen : List FilterId) :
    (distinct l).foldlM (s.visit levels) seen = l.foldlM (s.visit levels) seen := by
  cases levels with
  | zero => cases l <;> rfl
  | succ levels =>
    induction l generalizing seen with
    | nil => rfl
    | cons a l ih =>
      rw [distinct, List.foldlM_cons, List.foldlM_cons]
      cases ha : s.visit (levels + 1) seen a with
      | none => rfl
      | some seen₁ =>
        show ((distinct l).filter (· ≠ a)).foldlM (s.visit (levels + 1)) seen₁ =
          l.foldlM (s.visit (levels + 1)) seen₁
        rw [foldlM_visit_filter (mem_of_visit ha).2, ih]

/-! ### What a visit depends on -/

theorem foldlM_congr {g g' : List FilterId → FilterId → Option (List FilterId)}
    (h : ∀ b ∈ l, ∀ seen, g seen b = g' seen b) (seen : List FilterId) :
    l.foldlM g seen = l.foldlM g' seen := by
  induction l generalizing seen with
  | nil => rfl
  | cons b l ih =>
    rw [List.foldlM_cons, List.foldlM_cons, h b List.mem_cons_self]
    cases g' seen b with
    | none => rfl
    | some seen₁ => exact ih (fun b hb => h b (List.mem_cons_of_mem _ hb)) seen₁

/-- **A visit depends only on the edges of what lies below.** -/
theorem visit_congr (h : ∀ a, ReflTransGen s.PointsAt id a →
      (s.get? a).map Filter.subFilterIds = (t.get? a).map Filter.subFilterIds)
    (levels : Nat) (seen : List FilterId) : s.visit levels seen id = t.visit levels seen id := by
  induction levels generalizing seen id with
  | zero => rfl
  | succ levels ih =>
    have here := h id ReflTransGen.refl
    rw [visit, visit]
    split
    next => rfl
    next =>
      cases hs : s.get? id with
      | none =>
        rw [hs] at here
        rw [Option.map_eq_none_iff.1 here.symm]
      | some f =>
        rw [hs] at here
        obtain ⟨g, ht, hfg⟩ := Option.map_eq_some_iff.1 here.symm
        rw [ht]
        dsimp only
        rw [hfg]
        refine foldlM_congr (fun sub hsub seen => ih (fun a ha => h a ?_) seen) _
        obtain ⟨hf, rfl⟩ := Index.get?_eq_some_iff.1 hs
        exact ReflTransGen.head (pointsAt_of_mem hf hsub) ha

theorem visit_insert_of_not_reached (h : ∀ a, ReflTransGen s.PointsAt id a → a ≠ f.id) :
    FilterSet.visit (s.insert f) levels seen id = s.visit levels seen id := by
  refine (visit_congr (fun a ha => ?_) levels seen).symm
  rw [Index.get?_insert, if_neg (h a ha)]

theorem visit_insert_of_subFilterIds_eq {g : Filter} (hg : s.get? f.id = some g)
    (h : f.subFilterIds = g.subFilterIds) :
    FilterSet.visit (s.insert f) levels seen id = s.visit levels seen id := by
  refine (visit_congr (fun a _ => ?_) levels seen).symm
  rw [Index.get?_insert]
  split
  next heq =>
    rw [heq, hg]
    exact congrArg some h.symm
  next => rfl

theorem visit_erase_of_not_reached (h : ∀ b, ReflTransGen s.PointsAt id b → b ≠ a) :
    FilterSet.visit (s.erase a) levels seen id = s.visit levels seen id := by
  refine (visit_congr (fun b hb => ?_) levels seen).symm
  rw [Index.get?_erase, if_neg (h b hb)]

/-- The visit of a filter that is put in place goes down from its conditions, if they do not lead
back to it. -/
theorem visit_insert_self (h : ¬ s.Below f f.id) (hseen : f.id ∉ seen) :
    FilterSet.visit (s.insert f) (levels + 1) seen f.id =
      f.subFilterIds.foldlM (s.visit levels) (f.id :: seen) := by
  have hget : Index.get? (s.insert f) f.id = some f := by rw [Index.get?_insert, if_pos rfl]
  rw [visit_of_get?_eq_some hseen hget]
  refine foldlM_congr (fun sub hsub seen => visit_insert_of_not_reached fun a ha heq => ?_) _
  rw [heq] at ha
  exact h ⟨sub, hsub, ha⟩

/-! ### Visits that give up -/

theorem exists_of_foldlM_eq_none {g : List FilterId → FilterId → Option (List FilterId)}
    (h : l.foldlM g seen = none) : ∃ b ∈ l, ∃ seen', g seen' b = none := by
  induction l generalizing seen with
  | nil => cases h
  | cons b l ih =>
    rw [List.foldlM_cons] at h
    cases hb : g seen b with
    | none => exact ⟨b, List.mem_cons_self, seen, hb⟩
    | some seen₁ =>
      rw [hb] at h
      obtain ⟨b', hb', hnone⟩ := ih h
      exact ⟨b', List.mem_cons_of_mem _ hb', hnone⟩

/-- **A visit that gives up has found a way of as many edges as there are levels.** -/
theorem exists_way_of_visit_eq_none (h : s.visit levels seen id = none) :
    ∃ way : List FilterId, way.length = levels ∧ List.IsChain s.PointsAt (id :: way) := by
  induction levels generalizing seen id with
  | zero => exact ⟨[], rfl, List.IsChain.singleton id⟩
  | succ levels ih =>
    rw [visit] at h
    split at h
    next => cases h
    next =>
      split at h
      next => cases h
      next f hf =>
        obtain ⟨sub, hsub, seen', hnone⟩ := exists_of_foldlM_eq_none h
        obtain ⟨way, hlength, hchain⟩ := ih hnone
        obtain ⟨hmem, rfl⟩ := Index.get?_eq_some_iff.1 hf
        exact ⟨sub :: way, congrArg (· + 1) hlength,
          List.IsChain.cons_cons (pointsAt_of_mem hmem hsub) hchain⟩

end FilterSet

/-! ### The list of descendants -/

namespace GraphWalk

variable {g : GraphWalk} {origin : FilterId} {seen : List FilterId}

theorem isOk_collectBelow (stack : List (FilterId × Nat)) :
    (g.collectBelow origin seen stack).isOk =
      (stack.foldlM (fun seen (p : FilterId × Nat) =>
        g.filters.visit (g.maxDepth + 1 - p.2) seen p.1) seen).isSome := by
  fun_induction collectBelow g origin seen stack with
  | case1 seen => rfl
  | case2 seen id depth stack hdeep =>
    have hlevels : g.maxDepth + 1 - depth = 0 := by omega
    rw [List.foldlM_cons, hlevels]
    rfl
  | case3 seen id depth stack hdepth hs ih =>
    have hlevels : g.maxDepth + 1 - depth = (g.maxDepth - depth) + 1 := by omega
    rw [List.foldlM_cons, hlevels, FilterSet.visit_of_mem hs]
    exact ih
  | case4 seen id depth stack hdepth hs hf ih =>
    have hlevels : g.maxDepth + 1 - depth = (g.maxDepth - depth) + 1 := by omega
    rw [List.foldlM_cons, hlevels, FilterSet.visit, if_neg hs, hf]
    exact ih
  | case5 seen id depth stack hdepth hs f hf ih =>
    have hlevels : g.maxDepth + 1 - depth = (g.maxDepth - depth) + 1 := by omega
    have hbelow : g.maxDepth + 1 - (depth + 1) = g.maxDepth - depth := by omega
    rw [List.foldlM_append, List.foldlM_map] at ih
    dsimp only at ih
    rw [hbelow] at ih
    rw [List.foldlM_cons, hlevels, FilterSet.visit_of_get?_eq_some hs hf, ← ih]
    cases g.collectBelow origin (id :: seen)
      (f.subFilterIds.map (fun sub => (sub, depth + 1)) ++ stack) <;> rfl

/-- **Descendants are listed if the visit of the sub-filters does not give up.** -/
theorem isOk_descendants (f : Filter) :
    (g.descendants f).isOk =
      (f.subFilterIds.foldlM (g.filters.visit g.maxDepth) [f.id]).isSome := by
  unfold descendants
  rw [isOk_collectBelow, List.foldlM_map]
  rfl

/-- Descendants are listed but for the depth. -/
theorem eq_tooDeep_of_collectBelow {e : FilterError} {stack : List (FilterId × Nat)}
    (h : g.collectBelow origin seen stack = .error e) : e = g.tooDeep origin := by
  fun_induction collectBelow g origin seen stack with
  | case1 => cases h
  | case2 =>
    cases h
    rfl
  | case3 seen id depth stack _ _ ih => exact ih h
  | case4 seen id depth stack _ _ _ ih => exact ih h
  | case5 seen id depth stack _ _ f _ ih => exact ih (map_eq_error_iff.1 h)

theorem eq_tooDeep_of_descendants {f : Filter} {e : FilterError} (h : g.descendants f = .error e) :
    e = g.tooDeep f.id :=
  eq_tooDeep_of_collectBelow h

end GraphWalk

end RecordFilters
