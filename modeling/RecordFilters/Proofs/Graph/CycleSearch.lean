import RecordFilters.Proofs.Graph.Walks

/-! # What the search for a cycle finds

The search for a cycle is compared with the ways that lead down from a candidate: the first edge of a
way is one of the candidate's own conditions, and stored edges follow. An error tells of a way, and a
search without an error has found everything that lies below.

* `FilterSet.Way`: the ways down from a candidate, by their length.
* `answers_checkAcyclic`: what each answer of the search says about them, from the places of the
  search by induction over its steps.
* `checkAcyclic_iff_ways`: the same, answer by answer. -/

namespace RecordFilters

open Relation

namespace FilterSet

/-- A way of so many edges leads from a candidate to an id: the first edge is a condition of the
candidate, all others are stored. -/
inductive Way (s : FilterSet) (candidate : Filter) : Nat → FilterId → Prop
  | first {id : FilterId} (h : id ∈ candidate.subFilterIds) : Way s candidate 1 id
  | next {n : Nat} {a b : FilterId} (h : Way s candidate n a) (hab : s.PointsAt a b) :
      Way s candidate (n + 1) b

variable {s : FilterSet} {candidate : Filter} {id : FilterId}

/-- What lies below a candidate is what some way leads to. -/
theorem below_iff_exists_way : s.Below candidate id ↔ ∃ n, s.Way candidate n id := by
  constructor
  · rintro ⟨sub, hsub, hway⟩
    induction hway with
    | refl => exact ⟨1, .first hsub⟩
    | tail _ hab ih =>
      obtain ⟨n, hn⟩ := ih
      exact ⟨n + 1, .next hn hab⟩
  · rintro ⟨n, hway⟩
    induction hway with
    | first h => exact ⟨_, h, .refl⟩
    | next _ hab ih => exact ih.tail hab

end FilterSet

namespace GraphWalk

variable {g : GraphWalk} {candidate f : Filter} {origin : FilterId} {seen : List FilterId}
  {e : FilterError}

/-! ### The places of the search -/

/-- A place at which the search for a cycle gets: a way of its depth leads there, and stored edges do
so from its root. -/
structure Gets (g : GraphWalk) (candidate : Filter) (p : Place) : Prop where
  way : g.filters.Way candidate p.depth p.id
  root : p.root ∈ candidate.subFilterIds
  fromRoot : ReflTransGen g.filters.PointsAt p.root p.id
  depth : p.depth ≤ g.maxDepth + 1

theorem gets_root (h : origin ∈ candidate.subFilterIds) : g.Gets candidate ⟨origin, 1, origin⟩ :=
  ⟨.first h, h, .refl, Nat.le_add_left ..⟩

/-- From a place within the bound the search gets to the places below. -/
theorem Gets.below {p q : Place} (h : g.Gets candidate p) (hdepth : ¬ g.maxDepth < p.depth)
    (hf : g.filters.get? p.id = some f) (hq : q ∈ p.below f) : g.Gets candidate q := by
  obtain ⟨hmem, hid⟩ := Index.get?_eq_some_iff.1 hf
  obtain ⟨sub, hsub, rfl⟩ := Place.mem_below.1 hq
  have hedge : g.filters.PointsAt p.id sub := hid ▸ FilterSet.pointsAt_of_mem hmem hsub
  exact ⟨h.way.next hedge, h.root, h.fromRoot.tail hedge, by dsimp only; omega⟩

/-! ### Answers -/

/-- What an answer of the search for a cycle says about the ways from the candidate. -/
inductive Answers (g : GraphWalk) (candidate : Filter) : Except FilterError Unit → Prop
  /-- No way leads back, and some way within the bound leads to everything below. -/
  | acyclic (apart : ¬ g.filters.Below candidate candidate.id)
      (within : ∀ id, g.filters.Below candidate id →
        ∃ n ≤ g.maxDepth, g.filters.Way candidate n id) : Answers g candidate (.ok ())
  /-- A sub-filter leads back. -/
  | cycle {root : FilterId} (sub : root ∈ candidate.subFilterIds)
      (fromRoot : ReflTransGen g.filters.PointsAt root candidate.id)
      (way : ∃ n ≤ g.maxDepth + 1, g.filters.Way candidate n candidate.id) :
      Answers g candidate (.error (GraphWalk.cycle candidate.id root))
  /-- Some way is longer than the bound, and the candidate is none of its own sub-filters. -/
  | tooDeep (apart : candidate.id ∉ candidate.subFilterIds)
      (long : ∃ n id, g.maxDepth < n ∧ g.filters.Way candidate n id) :
      Answers g candidate (.error (g.tooDeep candidate.id))

/-- An error of the search tells of a way to the place where it arose. -/
theorem answers_of_searchCycle_eq_error {stack : List Place}
    (h : g.searchCycle candidate.id seen stack = .error e)
    (hstack : ∀ p ∈ stack, g.Gets candidate p) (hself : candidate.id ∉ candidate.subFilterIds) :
    g.Answers candidate (.error e) := by
  fun_induction searchCycle g candidate.id seen stack with
  | case1 => cases h
  | case2 seen p stack hid =>
    obtain ⟨hp, -⟩ := List.forall_mem_cons.1 hstack
    cases h
    exact .cycle hp.root (hid ▸ hp.fromRoot) ⟨p.depth, hp.depth, hid ▸ hp.way⟩
  | case3 seen p stack _ hdeep =>
    obtain ⟨hp, -⟩ := List.forall_mem_cons.1 hstack
    cases h
    exact .tooDeep hself ⟨p.depth, p.id, hdeep, hp.way⟩
  | case4 seen p stack _ _ _ ih => exact ih h (List.forall_mem_cons.1 hstack).2
  | case5 seen p stack _ _ _ _ ih => exact ih h (List.forall_mem_cons.1 hstack).2
  | case6 seen p stack _ hdepth _ f hf ih =>
    obtain ⟨hp, hstack⟩ := List.forall_mem_cons.1 hstack
    exact ih h (List.forall_mem_append.2 ⟨fun q hq => hp.below hdepth hf hq, hstack⟩)

/-- **Each answer of the search says what it is to say.** -/
theorem answers_checkAcyclic (g : GraphWalk) (candidate : Filter) :
    g.Answers candidate (g.checkAcyclic candidate) := by
  have hroots : ∀ p ∈ (candidate.subFilterIds.map fun id => (⟨id, 1, id⟩ : Place)).reverse,
      g.Gets candidate p := by
    intro p hp
    obtain ⟨id, hid, rfl⟩ := List.mem_map.1 (List.mem_reverse.1 hp)
    exact gets_root hid
  unfold checkAcyclic
  dsimp only
  split
  next hself => exact .cycle hself .refl ⟨1, Nat.le_add_left .., .first hself⟩
  next hself =>
    cases h : g.searchCycle candidate.id []
        (candidate.subFilterIds.map fun id => (⟨id, 1, id⟩ : Place)).reverse with
    | error e => exact answers_of_searchCycle_eq_error h hroots hself
    | ok =>
      obtain ⟨C, -, hstack, hC, hclosed, hfound⟩ :=
        exists_closed_of_searchCycle h List.not_mem_nil
      have hbelow : ∀ id, g.filters.Below candidate id → C id := by
        rintro id ⟨sub, hsub, hway⟩
        have hroot : C sub := hstack ⟨sub, 1, sub⟩ (by simp [hsub])
        exact hclosed.of_reflTransGen hroot hway
      refine .acyclic (fun h => hC (hbelow _ h)) fun id hid => ?_
      exact (hfound (g.filters.Way candidate) (fun p hp => (hroots p hp).way)
        (fun _ _ _ => .next) id (hbelow id hid)).resolve_left List.not_mem_nil

/-- A candidate that is one of its own sub-filters is rejected at once, and this is what an error
with that one element tells. -/
theorem checkAcyclic_eq_error_self_iff :
    g.checkAcyclic candidate = .error (.validation .cycle [candidate.id]) ↔
      candidate.id ∈ candidate.subFilterIds := by
  constructor
  · intro h
    have hanswers := g.answers_checkAcyclic candidate
    rw [h] at hanswers
    generalize herror : FilterError.validation .cycle [candidate.id] = e at hanswers
    cases hanswers with
    | @cycle root sub _ _ =>
      by_cases hroot : root = candidate.id
      · exact hroot ▸ sub
      · simp [cycle, hroot] at herror
    | tooDeep => cases herror
  · intro hself
    unfold checkAcyclic
    dsimp only
    rw [if_pos hself, cycle, if_pos rfl]

/-- An error with another element tells which sub-filter leads back. -/
theorem of_checkAcyclic_eq_error_root {root : FilterId}
    (h : g.checkAcyclic candidate = .error (.validation .cycle [candidate.id, root])) :
    root ∈ candidate.subFilterIds ∧ g.filters.Reaches root candidate.id := by
  have hanswers := g.answers_checkAcyclic candidate
  rw [h] at hanswers
  generalize herror : FilterError.validation .cycle [candidate.id, root] = e at hanswers
  cases hanswers with
  | @cycle root' sub fromRoot _ =>
    by_cases hroot : root' = candidate.id
    · simp [cycle, hroot] at herror
    · obtain rfl : root = root' := by simpa [cycle, hroot] using herror
      exact ⟨sub, (reflTransGen_iff_eq_or_transGen.1 fromRoot).resolve_left (Ne.symm hroot)⟩
  | tooDeep => cases herror

/-- The search fails for no other reason than a cycle or a way that is too long. -/
theorem checkAcyclic_cases (g : GraphWalk) (candidate : Filter) :
    g.checkAcyclic candidate = .ok () ∨
      g.checkAcyclic candidate = .error (.validation .cycle [candidate.id]) ∨
      (∃ root, g.checkAcyclic candidate = .error (.validation .cycle [candidate.id, root])) ∨
      g.checkAcyclic candidate = .error (g.tooDeep candidate.id) := by
  have hanswers := g.answers_checkAcyclic candidate
  generalize g.checkAcyclic candidate = answer at hanswers
  cases hanswers with
  | acyclic => exact Or.inl rfl
  | @cycle root =>
    by_cases hroot : root = candidate.id
    · exact Or.inr (Or.inl (by rw [cycle, if_pos hroot]))
    · exact Or.inr (Or.inr (Or.inl ⟨root, by rw [cycle, if_neg hroot]⟩))
  | tooDeep => exact Or.inr (Or.inr (Or.inr rfl))

theorem exists_way_of_checkAcyclic_eq_tooDeep
    (h : g.checkAcyclic candidate = .error (g.tooDeep candidate.id)) :
    ∃ n id, g.maxDepth < n ∧ g.filters.Way candidate n id := by
  have hanswers := g.answers_checkAcyclic candidate
  rw [h] at hanswers
  generalize herror : g.tooDeep candidate.id = e at hanswers
  cases hanswers with
  | cycle => cases herror
  | tooDeep _ long => exact long

/-- Where no way is longer than the bound, the search finds the cycles and nothing else. -/
theorem checkAcyclic_eq_ok_iff (h : ∀ n id, g.filters.Way candidate n id → n ≤ g.maxDepth) :
    g.checkAcyclic candidate = .ok () ↔ ¬ g.filters.Below candidate candidate.id := by
  constructor
  · exact not_below_of_checkAcyclic
  · intro hapart
    have hanswers := g.answers_checkAcyclic candidate
    generalize g.checkAcyclic candidate = answer at hanswers
    cases hanswers with
    | acyclic => rfl
    | cycle _ _ way =>
      obtain ⟨n, -, hway⟩ := way
      exact absurd (FilterSet.below_iff_exists_way.2 ⟨n, hway⟩) hapart
    | tooDeep _ long =>
      obtain ⟨n, id, hlong, hway⟩ := long
      exact absurd (h n id hway) (Nat.not_le_of_lt hlong)

/-- **What the search for a cycle says about the ways from a candidate**, whatever filters are stored
and however deep it may go. It gives one of four answers. Without an error no way leads back; an
error with one element is a reference to itself, and with two it names the sub-filter that leads
back; the error about the depth tells of a way that is longer than the bound. Where there is none,
the search succeeds exactly if no way leads back. -/
theorem checkAcyclic_iff_ways (g : GraphWalk) (candidate : Filter) :
    (g.checkAcyclic candidate = .ok () ∨
      g.checkAcyclic candidate = .error (.validation .cycle [candidate.id]) ∨
      (∃ root, g.checkAcyclic candidate = .error (.validation .cycle [candidate.id, root])) ∨
      g.checkAcyclic candidate = .error (g.tooDeep candidate.id)) ∧
    (g.checkAcyclic candidate = .ok () → ∀ n, ¬ g.filters.Way candidate n candidate.id) ∧
    (g.checkAcyclic candidate = .error (.validation .cycle [candidate.id]) ↔
      candidate.id ∈ candidate.subFilterIds) ∧
    (∀ root, g.checkAcyclic candidate = .error (.validation .cycle [candidate.id, root]) →
      root ∈ candidate.subFilterIds ∧ g.filters.Reaches root candidate.id) ∧
    (g.checkAcyclic candidate = .error (g.tooDeep candidate.id) →
      ∃ n id, g.maxDepth < n ∧ g.filters.Way candidate n id) ∧
    ((∀ n id, g.filters.Way candidate n id → n ≤ g.maxDepth) →
      (g.checkAcyclic candidate = .ok () ↔ ∀ n, ¬ g.filters.Way candidate n candidate.id)) := by
  have hapart : ¬ g.filters.Below candidate candidate.id ↔
      ∀ n, ¬ g.filters.Way candidate n candidate.id := by
    rw [FilterSet.below_iff_exists_way, not_exists]
  refine ⟨g.checkAcyclic_cases candidate, fun hok => hapart.1 (not_below_of_checkAcyclic hok),
    checkAcyclic_eq_error_self_iff, fun root => of_checkAcyclic_eq_error_root,
    exists_way_of_checkAcyclic_eq_tooDeep, fun hshort => ?_⟩
  rw [checkAcyclic_eq_ok_iff hshort, hapart]

end GraphWalk

end RecordFilters
