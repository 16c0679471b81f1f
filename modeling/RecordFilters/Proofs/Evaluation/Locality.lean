import RecordFilters.Evaluation.Compile
import RecordFilters.Proofs.Evaluation.Steps
import RecordFilters.Proofs.Graph.Reachability

/-! # Evaluation reads only what lies below

A handler consults of the stored filters only the one at which its condition points. So the predicate
of a filter depends on what lies below the filter and on no other stored filter.

* `Handler.IsLocal`: a handler consults only that one filter; those of this library do.
* `usableParts_congr`: the conditions of a filter, one after the other.
* `compileWithin_congr`: sets of filters that agree below a filter give it the same predicate. -/

namespace RecordFilters

variable {scope : PredicateScope} {s : FilterSet} {nested : Filter → Evaluation Predicate}
  {c : Condition}

/-! ### Handlers -/

/-- Other filters, with other predicates, show a condition the same as those of a scope: the filter
at which it points, if any, with its predicate. -/
def PredicateScope.ShowsAlike (scope : PredicateScope) (s : FilterSet)
    (nested : Filter → Evaluation Predicate) (c : Condition) : Prop :=
  ∀ id, c.subFilterId? = some id → s.get? id = scope.filters.get? id ∧
    ∀ g, scope.filters.get? id = some g → nested g = scope.nested g

/-- A handler consults of the stored filters only the one at which a condition points. -/
def Handler.IsLocal (handler : Handler) : Prop :=
  ∀ scope s nested c, PredicateScope.ShowsAlike scope s nested c →
    handler.predicate { scope with filters := s, nested := nested } c = handler.predicate scope c

/-- All handlers do so. -/
def Catalogs.IsLocal (c : Catalogs) : Prop := ∀ handler ∈ c.handlers, handler.IsLocal

theorem PredicateScope.resolveValues_congr (values : List Value) :
    PredicateScope.resolveValues { scope with filters := s, nested := nested } values =
      scope.resolveValues values := by
  induction values with
  | nil => rfl
  | cons v values ih =>
    unfold resolveValues
    rw [ih]
    rfl

namespace Handler

theorem subFilterPredicate_congr (h : scope.ShowsAlike s nested c) :
    subFilterPredicate { scope with filters := s, nested := nested } c =
      subFilterPredicate scope c := by
  unfold subFilterPredicate PredicateScope.subFilter
  split
  next hpayload =>
    obtain ⟨hsame, hnested⟩ :=
      h c.reference (Condition.subFilterId?_eq_some_iff.2 (Or.inl ⟨hpayload, rfl⟩))
    dsimp only
    rw [hsame]
    cases hg : scope.filters.get? c.reference with
    | none => rfl
    | some g => simp only [Evaluation.ofExcept_ok_bind, hnested g hg]
  next => rfl

theorem relationSubFilterPredicate_congr (h : scope.ShowsAlike s nested c) :
    relationSubFilterPredicate { scope with filters := s, nested := nested } c =
      relationSubFilterPredicate scope c := by
  unfold relationSubFilterPredicate PredicateScope.subFilter
  split
  next present id hpayload =>
    obtain ⟨hsame, hnested⟩ :=
      h id (Condition.subFilterId?_eq_some_iff.2 (Or.inr ⟨present, hpayload⟩))
    dsimp only
    rw [hsame]
    cases hg : scope.filters.get? id with
    | none => rfl
    | some g => simp only [Evaluation.ofExcept_ok_bind, hnested g hg]
  next => rfl

/-- **The handlers of this library are local.** -/
theorem isLocal_of_mem_builtin {handler : Handler} (h : handler ∈ builtin) : handler.IsLocal := by
  simp only [builtin, List.mem_cons, List.not_mem_nil, or_false] at h
  intro scope s nested c hshows
  rcases h with rfl | rfl | rfl | rfl | rfl | rfl | rfl | rfl
  case inl =>
    dsimp only
    unfold fieldPredicate
    simp only [PredicateScope.resolveValues_congr]
    rfl
  case inr.inr.inl =>
    dsimp only
    unfold customFieldPredicate
    simp only [PredicateScope.resolveValues_congr]
    rfl
  case inr.inr.inr.inr.inr.inl => exact relationSubFilterPredicate_congr hshows
  case inr.inr.inr.inr.inr.inr.inr => exact subFilterPredicate_congr hshows
  all_goals rfl

end Handler

/-- So are the standard catalogs. -/
theorem Catalogs.isLocal_of_handlers_eq {c : Catalogs}
    (h : c.handlers = Catalogs.standard.handlers) : c.IsLocal := by
  intro handler hmem
  rw [h] at hmem
  exact Handler.isLocal_of_mem_builtin (Index.mem_of_mem_ofList hmem)

namespace Evaluator

variable {ev : Evaluator} {f : Filter} {nested' : Filter → Evaluation Predicate}

/-! ### Filters -/

theorem conditionPredicate_congr (hev : ev.catalogs.IsLocal)
    (h : (ev.scope f nested).ShowsAlike s nested' c) :
    Evaluator.conditionPredicate { ev with filters := s } f nested' c =
      ev.conditionPredicate f nested c := by
  unfold conditionPredicate Catalogs.handler
  cases hhandler : ev.catalogs.handlers.get? c.kind with
  | none => rfl
  | some handler => exact hev handler (Index.mem_of_get? hhandler) _ _ _ _ h

theorem usableParts_congr (hev : ev.catalogs.IsLocal) {l : List Condition}
    (h : ∀ c ∈ l, (ev.scope f nested).ShowsAlike s nested' c) :
    Evaluator.usableParts { ev with filters := s } f nested' l = ev.usableParts f nested l := by
  induction l with
  | nil => rfl
  | cons c l ih =>
    unfold usableParts
    rw [conditionPredicate_congr hev (h c List.mem_cons_self),
      ih fun c hc => h c (List.mem_cons_of_mem _ hc)]

/-- **The predicate of a filter depends only on what lies below it**, however many levels are
left. -/
theorem compileWithin_congr (hev : ev.catalogs.IsLocal) (levels : Nat)
    (h : ∀ id, ev.filters.Below f id → s.get? id = ev.filters.get? id) :
    Evaluator.compileWithin { ev with filters := s } levels f = ev.compileWithin levels f := by
  induction levels generalizing f with
  | zero => rfl
  | succ levels ih =>
    have hparts : ∀ c ∈ f.conditions, (ev.scope f (ev.compileWithin levels)).ShowsAlike s
        (Evaluator.compileWithin { ev with filters := s } levels) c := by
      intro c hc id hid
      have hsub : id ∈ f.subFilterIds := Filter.mem_subFilterIds.2 ⟨c, hc, hid⟩
      refine ⟨h id ⟨id, hsub, .refl⟩, fun g hg => ih fun a ha => ?_⟩
      obtain ⟨hmem, rfl⟩ := Index.get?_eq_some_iff.1 hg
      have hway := (FilterSet.below_iff_reaches hmem).1 ha
      exact h a ⟨g.id, hsub, hway.to_reflTransGen⟩
    unfold compileWithin
    rw [usableParts_congr hev hparts]

theorem compile_congr (hev : ev.catalogs.IsLocal)
    (h : ∀ id, ev.filters.Below f id → s.get? id = ev.filters.get? id) :
    Evaluator.compile { ev with filters := s } f = ev.compile f :=
  compileWithin_congr hev _ h

/-- So do the records that it selects. -/
theorem apply_congr (hev : ev.catalogs.IsLocal)
    (h : ∀ id, ev.filters.Below f id → s.get? id = ev.filters.get? id) (ctx : Context)
    (storage : Storage) :
    Evaluator.apply { ev with filters := s } f ctx storage = ev.apply f ctx storage := by
  unfold apply
  rw [compile_congr hev h]

end Evaluator

end RecordFilters
