import RecordFilters.Error

/-! # The graph of filters

A filter points at the filters that its conditions name, whether these are stored or not. Three
walks follow these edges, each from one filter and to a bounded depth: the search for a cycle, the
list of everything below a filter, and the list of everything above one. The edges of the filter at
which a walk starts are its own, which need not be stored; all others are those of stored filters.

Every walk keeps the ids it has seen and a stack of places to go. It ends because a step either sees
a stored filter for the first time or takes a place from the stack. -/

namespace RecordFilters

namespace FilterSet

/-- How many stored filters have not been seen. -/
def unseen (s : FilterSet) (seen : List FilterId) : Nat :=
  (s.toList.filter fun f => f.id ∉ seen).length

theorem length_filter_lt {α : Type} {p q : α → Bool} {a : α} {l : List α} (ha : a ∈ l)
    (hp : p a = false) (hq : q a = true) (h : ∀ b, p b = true → q b = true) :
    (l.filter p).length < (l.filter q).length := by
  induction l with
  | nil => cases ha
  | cons b r ih =>
    have le : (r.filter p).length ≤ (r.filter q).length := by
      rw [← List.countP_eq_length_filter, ← List.countP_eq_length_filter]
      exact List.countP_mono_left fun x _ => h x
    rcases List.mem_cons.1 ha with rfl | ha
    · simp only [List.filter_cons, hp, hq, Bool.false_eq_true, if_false, if_true, List.length_cons]
      omega
    · have := ih ha
      cases hb : p b with
      | true => simp only [List.filter_cons, hb, h b hb, if_true, List.length_cons]; omega
      | false =>
        simp only [List.filter_cons, hb, Bool.false_eq_true, if_false]
        split
        · simp only [List.length_cons]; omega
        · exact this

theorem unseen_append_lt {s : FilterSet} {seen new : List FilterId} {f : Filter} (hf : f ∈ s)
    (hn : f.id ∈ new) (hs : f.id ∉ seen) : s.unseen (new ++ seen) < s.unseen seen :=
  length_filter_lt hf (by simp [hn]) (by simpa using hs) fun b hb => by simp at hb ⊢; exact hb.2

theorem unseen_cons_lt {s : FilterSet} {seen : List FilterId} {f : Filter} (hf : f ∈ s)
    (hs : f.id ∉ seen) : s.unseen (f.id :: seen) < s.unseen seen :=
  @unseen_append_lt s seen [f.id] f hf (List.mem_singleton_self _) hs

theorem unseen_cons_le (s : FilterSet) (seen : List FilterId) (id : FilterId) :
    s.unseen (id :: seen) ≤ s.unseen seen := by
  unfold unseen
  rw [← List.countP_eq_length_filter, ← List.countP_eq_length_filter]
  exact List.countP_mono_left fun f _ h => by simp at h ⊢; exact h.2

/-- The filters that point at `id` and have not been seen. -/
def unseenParents (s : FilterSet) (seen : List FilterId) (id : FilterId) : List FilterId :=
  (s.parentsOf id).filter fun parent => parent ∉ seen

end FilterSet

/-- Pairs go down if the first number does, or if it stays and the second does. -/
theorem lex_of_le_of_lt {a b a' b' : Nat} (h : a ≤ a') (h' : b < b') :
    Prod.Lex (· < ·) (· < ·) (a, b) (a', b') := by
  rcases Nat.lt_or_eq_of_le h with h | rfl
  · exact .left _ _ h
  · exact .right _ h'

/-- A bound on how deep filters may be nested, and the walks within it. -/
structure GraphWalk where
  filters : FilterSet
  maxDepth : Nat

namespace GraphWalk

/-- The rejection of a filter whose walk goes too deep. -/
def tooDeep (g : GraphWalk) (origin : FilterId) : FilterError :=
  .validation (.tooDeep g.maxDepth) [origin]

/-- The rejection of a filter that one of its sub-filters leads back to. -/
def cycle (origin sub : FilterId) : FilterError :=
  .validation .cycle (if sub = origin then [origin] else [origin, sub])

/-! ### Cycles -/

/-- A place to go: a filter, its depth, and the sub-filter of the start through which it is
reached. -/
structure Place where
  id : FilterId
  depth : Nat
  root : FilterId

/-- The places below a filter, the last of its sub-filters on top. -/
def Place.below (p : Place) (f : Filter) : List Place :=
  (f.subFilterIds.map fun id => ⟨id, p.depth + 1, p.root⟩).reverse

/-- Goes on until a place is the origin, lies too deep, or none is left. -/
def searchCycle (g : GraphWalk) (origin : FilterId) (seen : List FilterId) :
    List Place → Except FilterError Unit
  | [] => .ok ()
  | p :: stack =>
    if p.id = origin then .error (cycle origin p.root)
    else if g.maxDepth < p.depth then .error (g.tooDeep origin)
    else if _hs : p.id ∈ seen then g.searchCycle origin seen stack
    else match _hf : g.filters.get? p.id with
      | none => g.searchCycle origin (p.id :: seen) stack
      | some f => g.searchCycle origin (p.id :: seen) (p.below f ++ stack)
termination_by stack => (g.filters.unseen seen, stack.length)
decreasing_by
  · exact Prod.Lex.right _ (Nat.lt_succ_self _)
  · exact lex_of_le_of_lt (FilterSet.unseen_cons_le ..) (Nat.lt_succ_self _)
  · obtain ⟨hf, hi⟩ := Index.get?_eq_some_iff.1 _hf
    exact Prod.Lex.left _ _ (hi ▸ FilterSet.unseen_cons_lt hf (hi ▸ _hs))

/-- Rejects a filter that one of its sub-filters leads back to, or that nests too deep. -/
def checkAcyclic (g : GraphWalk) (candidate : Filter) : Except FilterError Unit :=
  let roots := candidate.subFilterIds
  if candidate.id ∈ roots then .error (cycle candidate.id candidate.id)
  else g.searchCycle candidate.id [] (roots.map fun id => ⟨id, 1, id⟩).reverse

/-! ### Everything below -/

/-- Collects the stored filters below the places of a stack, each when it is first seen. -/
def collectBelow (g : GraphWalk) (origin : FilterId) (seen : List FilterId) :
    List (FilterId × Nat) → Except FilterError (List Filter)
  | [] => .ok []
  | (id, depth) :: stack =>
    if g.maxDepth < depth then .error (g.tooDeep origin)
    else if _hs : id ∈ seen then g.collectBelow origin seen stack
    else match _hf : g.filters.get? id with
      | none => g.collectBelow origin (id :: seen) stack
      | some f =>
        (g.collectBelow origin (id :: seen)
          ((f.subFilterIds.map fun sub => (sub, depth + 1)) ++ stack)).map (f :: ·)
termination_by stack => (g.filters.unseen seen, stack.length)
decreasing_by
  · exact Prod.Lex.right _ (Nat.lt_succ_self _)
  · exact lex_of_le_of_lt (FilterSet.unseen_cons_le ..) (Nat.lt_succ_self _)
  · obtain ⟨hf, hi⟩ := Index.get?_eq_some_iff.1 _hf
    exact Prod.Lex.left _ _ (hi ▸ FilterSet.unseen_cons_lt hf (hi ▸ _hs))

/-- The stored filters that a filter reaches, in the order in which they are found: a filter before
what lies below it, and all of that before the next condition. -/
def descendants (g : GraphWalk) (candidate : Filter) : Except FilterError (List Filter) :=
  g.collectBelow candidate.id [candidate.id] (candidate.subFilterIds.map fun id => (id, 1))

/-! ### Everything above -/

theorem lex_unseenParents (s : FilterSet) (seen : List FilterId) (id : FilterId) (depth : Nat)
    (stack : List (FilterId × Nat)) :
    Prod.Lex (· < ·) (· < ·)
      (s.unseen (s.unseenParents seen id ++ seen),
        (((s.unseenParents seen id).map fun parent => (parent, depth + 1)).reverse ++ stack).length)
      (s.unseen seen, ((id, depth) :: stack).length) := by
  rcases hn : s.unseenParents seen id with _ | ⟨parent, rest⟩
  · exact .right _ (Nat.lt_succ_self _)
  · have mem : parent ∈ s.unseenParents seen id := hn ▸ List.mem_cons_self ..
    obtain ⟨hp, hs⟩ := List.mem_filter.1 mem
    obtain ⟨f, hf, rfl, -⟩ := FilterSet.mem_parentsOf.1 hp
    exact .left _ _ (FilterSet.unseen_append_lt hf (List.mem_cons_self ..) (by simpa using hs))

/-- Collects the filters above the places of a stack. -/
def collectAbove (g : GraphWalk) (origin : FilterId) (seen : List FilterId) :
    List (FilterId × Nat) → Except FilterError (List FilterId)
  | [] => .ok []
  | (id, depth) :: stack =>
    if g.filters.parentsOf id ≠ [] ∧ g.maxDepth < depth + 1 then .error (g.tooDeep origin)
    else
      (g.collectAbove origin (g.filters.unseenParents seen id ++ seen)
        (((g.filters.unseenParents seen id).map fun parent => (parent, depth + 1)).reverse
          ++ stack)).map (g.filters.unseenParents seen id ++ ·)
termination_by stack => (g.filters.unseen seen, stack.length)
decreasing_by exact lex_unseenParents ..

/-- The stored filters that reach a filter, in order. -/
def ancestors (g : GraphWalk) (id : FilterId) : Except FilterError (List FilterId) :=
  (g.collectAbove id [id] [(id, 0)]).map fun found => (Index.ofList found : NameSet).toList

end GraphWalk

end RecordFilters
