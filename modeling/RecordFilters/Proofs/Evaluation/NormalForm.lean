import RecordFilters.Proofs.Evaluation.Transparency
import RecordFilters.Proofs.Predicate.NormalForm

/-! # Filters are compiled to normal forms

The predicate of a filter is in normal form, provided that what the context remembers is; and an
evaluation leaves nothing else there, not even if it fails. So a storage is never handed a constant
inside of a predicate, and it is not read for the predicate that nothing satisfies.

* `Evaluation.Ensures`: what a step results in, and that it remembers normal forms only.
* `Handler.ensures_of_mem_builtin`: the predicates of conditions.
* `Evaluator.compileWithin_ensures`: the predicates of filters.
* `Context.Used`: contexts in which nothing but evaluations has taken place.
* `Evaluator.isNormal_of_used`: what is compiled in them, and what a storage is asked for. -/

namespace RecordFilters

open Predicate (IsNormal)

/-- All predicates that are remembered are in normal form. -/
def Context.IsNormal (ctx : Context) : Prop := ∀ entry ∈ ctx.memo, entry.2.IsNormal

theorem Context.isNormal_fresh (user : Option ActingUser) (today : Day) :
    IsNormal { user := user, today := today } :=
  fun _ h => absurd h Index.not_mem_empty

/-! ### Steps -/

namespace Evaluation

variable {α β : Type} {Q : α → Prop} {R : β → Prop} {x : Evaluation α} {k : α → Evaluation β}

/-- Where normal forms are remembered, a step leaves it so whether it succeeds or not, and if it
succeeds, its result has a property. -/
def Ensures (x : Evaluation α) (Q : α → Prop) : Prop :=
  ∀ ctx : Context, ctx.IsNormal →
    (x.runIn ctx).2.IsNormal ∧ ∀ a, (x.runIn ctx).1 = .ok a → Q a

namespace Ensures

theorem pure {a : α} (h : Q a) : Ensures (Pure.pure a) Q :=
  fun _ hctx => ⟨hctx, fun _ ha => Except.ok.inj ha ▸ h⟩

theorem throw (e : FilterError) : Ensures (throwThe FilterError e) Q :=
  fun _ hctx => ⟨hctx, nofun⟩

theorem bind (hx : Ensures x Q) (hk : ∀ a, Q a → Ensures (k a) R) : Ensures (x >>= k) R := by
  intro ctx hctx
  have hfirst := hx ctx hctx
  rw [runIn_bind]
  rcases hrun : x.runIn ctx with ⟨e | a, ctx'⟩
  · rw [hrun] at hfirst
    exact ⟨hfirst.1, nofun⟩
  · rw [hrun] at hfirst
    exact hk a (hfirst.2 a rfl) ctx' hfirst.1

theorem map {k : α → β} (hx : Ensures x Q) (hk : ∀ a, Q a → R (k a)) : Ensures (k <$> x) R := by
  rw [map_eq_pure_bind]
  exact hx.bind fun a ha => .pure (hk a ha)

theorem tryCatch {handle : FilterError → Evaluation α} (hx : Ensures x Q)
    (hhandle : ∀ e, Ensures (handle e) Q) : Ensures (tryCatch x handle) Q := by
  intro ctx hctx
  have hfirst := hx ctx hctx
  rw [runIn_tryCatch]
  rcases hrun : x.runIn ctx with ⟨e | a, ctx'⟩
  · rw [hrun] at hfirst
    exact hhandle e ctx' hfirst.1
  · rw [hrun] at hfirst
    exact hfirst

/-- What fails at once changes nothing. -/
theorem ofExcept_bind {y : Except FilterError α} (h : ∀ a, y = .ok a → Ensures (k a) R) :
    Ensures (ofExcept y >>= k) R := by
  cases y with
  | error e => exact throw e
  | ok a =>
    rw [ofExcept_ok_bind]
    exact h a rfl

theorem get_bind {k : Context → Evaluation β}
    (h : ∀ ctx : Context, ctx.IsNormal → Ensures (k ctx) R) : Ensures (get >>= k) R := by
  intro ctx hctx
  rw [runIn_bind_ok runIn_get]
  exact h ctx hctx ctx hctx

theorem set {ctx : Context} (h : ctx.IsNormal) :
    Ensures (MonadStateOf.set ctx : Evaluation PUnit) fun _ => True :=
  fun _ _ => ⟨h, fun _ _ => trivial⟩

end Ensures

/-- Operands are remembered apart from predicates. -/
theorem resolve_ensures (o : Operand) : Ensures (resolve o) fun _ => True := by
  unfold resolve
  refine .get_bind fun ctx hctx => ?_
  split
  next => exact .pure trivial
  next => exact (Ensures.set hctx).bind fun _ _ => .pure trivial

theorem remembered?_ensures (id : FilterId) :
    Ensures (remembered? id) fun p? => ∀ p ∈ p?, p.IsNormal := by
  intro ctx hctx
  refine ⟨hctx, fun p? hp? p hp => ?_⟩
  cases hp?
  obtain ⟨entry, hentry, rfl⟩ := Option.map_eq_some_iff.1 hp
  exact hctx entry (Index.mem_of_get? hentry)

theorem remember_ensures (id : FilterId) {p : Predicate} (h : p.IsNormal) :
    Ensures (remember id p) fun _ => True := by
  refine fun ctx hctx => ⟨fun entry hentry => ?_, fun _ _ => trivial⟩
  rcases Index.mem_insert.1 hentry with rfl | ⟨hentry, -⟩
  · exact h
  · exact hctx entry hentry

end Evaluation

open Evaluation

theorem PredicateScope.resolveValues_ensures (scope : PredicateScope) (values : List Value) :
    Ensures (scope.resolveValues values) fun _ => True := by
  induction values with
  | nil => exact .pure trivial
  | cons v values ih =>
    unfold resolveValues
    have hrest : ∀ here : List Value,
        Ensures (do return here ++ (← scope.resolveValues values)) fun _ => True :=
      fun _ => ih.bind fun _ _ => .pure trivial
    dsimp only
    split
    next o _ => exact (resolve_ensures o).bind fun here _ => hrest here
    next => exact hrest [v]

/-! ### Conditions -/

namespace Handler

variable {scope : PredicateScope} {c : Condition}

theorem ensures_comparison (hoperators : scope.operators = .standard) (target : Target)
    (id : OperatorId) (values : List Value) :
    Ensures (do
      let o ← Evaluation.ofExcept (storedOperator scope c id)
      return o.build target (← scope.resolveValues values)) IsNormal := by
  refine .ofExcept_bind fun o ho => (scope.resolveValues_ensures values).bind fun _ _ => .pure ?_
  refine Operator.isNormal_build ?_ target _
  unfold storedOperator at ho
  split at ho
  next hfound =>
    cases ho
    rw [hoperators] at hfound
    exact Index.mem_of_get? hfound
  next => cases ho

theorem fieldPredicate_ensures (hoperators : scope.operators = .standard) :
    Ensures (fieldPredicate scope c) IsNormal := by
  unfold fieldPredicate
  split
  next => exact .ofExcept_bind fun _ _ => ensures_comparison hoperators _ _ _
  next => exact .throw _

theorem customFieldPredicate_ensures (hoperators : scope.operators = .standard) :
    Ensures (customFieldPredicate scope c) IsNormal := by
  unfold customFieldPredicate
  split
  next => exact .ofExcept_bind fun _ _ => ensures_comparison hoperators _ _ _
  next => exact .throw _

theorem rangePredicate_ensures (target : Target) (range : DateRange) :
    Ensures (rangePredicate c target range) IsNormal := by
  unfold rangePredicate
  refine .get_bind fun ctx _ => ?_
  split
  next => exact .throw _
  next start stop _ => exact .pure (Predicate.Folded.dateRange target start stop).isNormal
  next required _ =>
    exact .pure ((Predicate.Folded.compare target .isEmpty []).isNormal.when required)

theorem dateFieldPredicate_ensures : Ensures (dateFieldPredicate scope c) IsNormal := by
  unfold dateFieldPredicate
  split
  next => exact .ofExcept_bind fun _ _ => rangePredicate_ensures _ _
  next => exact .throw _

theorem dateCustomFieldPredicate_ensures :
    Ensures (dateCustomFieldPredicate scope c) IsNormal := by
  unfold dateCustomFieldPredicate
  split
  next => exact .ofExcept_bind fun _ _ => rangePredicate_ensures _ _
  next => exact .throw _

theorem relationPredicate_ensures : Ensures (relationPredicate scope c) IsNormal := by
  unfold relationPredicate
  split
  next present _ _ _ =>
    exact .ofExcept_bind fun _ _ =>
      .pure ((Predicate.Folded.related c.reference _).isNormal.when present)
  next => exact .throw _

theorem propertyPredicate_ensures : Ensures (propertyPredicate scope c) IsNormal := by
  unfold propertyPredicate
  split
  next present _ =>
    exact .ofExcept_bind fun _ _ =>
      .pure ((Predicate.Folded.hasProperty c.reference).isNormal.when present)
  next => exact .throw _

section

variable (hnested : ∀ g, Ensures (scope.nested g) IsNormal)
include hnested

theorem relationSubFilterPredicate_ensures :
    Ensures (relationSubFilterPredicate scope c) IsNormal := by
  unfold relationSubFilterPredicate
  split
  next present id _ =>
    refine .ofExcept_bind fun _ _ => .ofExcept_bind fun sub _ => ?_
    split
    next => exact .pure Predicate.isNormal_never
    next =>
      exact (hnested sub).bind fun p hp =>
        .pure ((isNormal_relatedTo c.reference sub.entityType hp).when present)
  next => exact .throw _

theorem subFilterPredicate_ensures : Ensures (subFilterPredicate scope c) IsNormal := by
  unfold subFilterPredicate
  split
  next =>
    refine .ofExcept_bind fun sub _ => ?_
    split
    next => exact .pure Predicate.isNormal_never
    next => exact hnested sub
  next => exact .throw _

/-- **The predicates of conditions are in normal form**, if those of the filters are to which they
point. -/
theorem ensures_of_mem_builtin {handler : Handler} (h : handler ∈ builtin)
    (hoperators : scope.operators = .standard) : Ensures (handler.predicate scope c) IsNormal := by
  simp only [builtin, List.mem_cons, List.not_mem_nil, or_false] at h
  rcases h with rfl | rfl | rfl | rfl | rfl | rfl | rfl | rfl
  · exact fieldPredicate_ensures hoperators
  · exact dateFieldPredicate_ensures
  · exact customFieldPredicate_ensures hoperators
  · exact dateCustomFieldPredicate_ensures
  · exact relationPredicate_ensures
  · exact relationSubFilterPredicate_ensures hnested
  · exact propertyPredicate_ensures
  · exact subFilterPredicate_ensures hnested

end

end Handler

/-! ### Filters -/

namespace Evaluator

variable {ev : Evaluator} {f : Filter} {nested : Filter → Evaluation Predicate} {ctx : Context}
  {parts : List Predicate}

theorem isNormal_combine (useOr : Bool) (h : ∀ p ∈ parts, p.IsNormal) :
    (combine useOr parts).IsNormal := by
  unfold combine
  split
  next => exact Predicate.isNormal_always
  next =>
    split
    next => exact Predicate.isNormal_either h
    next => exact Predicate.isNormal_both h

section

variable (hev : ev.catalogs.HasStandard)
include hev

theorem conditionPredicate_ensures (hnested : ∀ g, Ensures (nested g) IsNormal) (c : Condition) :
    Ensures (ev.conditionPredicate f nested c) IsNormal := by
  unfold conditionPredicate
  refine .ofExcept_bind fun handler hhandler => ?_
  refine Handler.ensures_of_mem_builtin hnested ?_ hev.operators
  unfold Catalogs.handler at hhandler
  split at hhandler
  next hfound =>
    cases hhandler
    rw [hev.handlers] at hfound
    exact Index.mem_of_mem_ofList (Index.mem_of_get? hfound)
  next => cases hhandler

theorem usableParts_ensures (hnested : ∀ g, Ensures (nested g) IsNormal) (l : List Condition) :
    Ensures (ev.usableParts f nested l) fun parts => ∀ p ∈ parts, p.IsNormal := by
  induction l with
  | nil => exact .pure fun p hp => absurd hp List.not_mem_nil
  | cons c l ih =>
    unfold usableParts
    refine .bind (Q := fun part => ∀ p ∈ part, p.IsNormal) (.tryCatch ?_ fun e => ?_)
      fun part hpart => ih.bind fun rest hrest => .pure ?_
    · exact (conditionPredicate_ensures hev hnested c).map fun p hp q hq => by
        cases hq
        exact hp
    · split
      next => exact .pure fun p hp => absurd hp (Option.not_mem_none p)
      next => exact .throw e
    · intro p hp
      rcases List.mem_append.1 hp with hp | hp
      · exact hpart p (Option.mem_toList.1 hp)
      · exact hrest p hp

/-- **The predicate of a filter is in normal form**, however many levels are left. -/
theorem compileWithin_ensures (levels : Nat) (f : Filter) :
    Ensures (ev.compileWithin levels f) IsNormal := by
  induction levels generalizing f with
  | zero => exact .throw _
  | succ levels ih =>
    unfold compileWithin
    refine (remembered?_ensures f.id).bind fun known hknown => ?_
    split
    next p => exact .pure (hknown p rfl)
    next =>
      refine (usableParts_ensures hev ih f.conditions).bind fun parts hparts => ?_
      have hp := isNormal_combine f.useOr hparts
      exact (remember_ensures f.id hp).bind fun _ _ => .pure hp

/-! ### Used contexts -/

theorem isNormal_errorsFrom (position : Nat) (l : List Condition) (h : ctx.IsNormal) :
    (ev.errorsFrom f position ctx l).2.IsNormal := by
  induction l generalizing position ctx with
  | nil => exact h
  | cons c l ih =>
    have hc := conditionPredicate_ensures (f := f) hev (compileWithin_ensures hev ev.maxDepth) c
    have hrest := ih (position + 1) (hc ctx h).1
    unfold errorsFrom
    dsimp only
    split <;> exact hrest

/-- A question about any filter leaves normal forms. -/
theorem isNormal_ask (question : Question) (h : ctx.IsNormal) :
    (ev.ask ctx question).IsNormal := by
  cases question with
  | predicate f => exact (compileWithin_ensures hev _ f ctx h).1
  | apply f storage =>
    show (ev.apply f ctx storage).2.1.IsNormal
    rw [apply_snd]
    exact (compileWithin_ensures hev _ f ctx h).1
  | conditionErrors f => exact isNormal_errorsFrom hev 0 f.conditions h

end

end Evaluator

/-- A context in which nothing has taken place but evaluations, of whatever stores. -/
inductive Context.Used : Context → Prop
  | fresh (user : Option ActingUser) (today : Day) : Used { user := user, today := today }
  | ask {ev : Evaluator} {ctx : Context} (hev : ev.catalogs.HasStandard) (h : Used ctx)
    (question : Evaluator.Question) : Used (ev.ask ctx question)

theorem Context.Used.isNormal {ctx : Context} (h : ctx.Used) : ctx.IsNormal := by
  induction h with
  | fresh user today => exact isNormal_fresh user today
  | ask hev _ question ih => exact Evaluator.isNormal_ask hev question ih

namespace Evaluator

variable {ev : Evaluator} {ctx : Context}

/-- A storage is read for all predicates but the one that nothing satisfies. -/
theorem apply_storage (ev : Evaluator) (ctx : Context) (f : Filter) (storage : Storage) :
    ((ev.apply f ctx storage).2.2 = storage ↔
      ∀ p, ((ev.compile f).runIn ctx).1 = .ok p → p = .never) ∧
    ∀ p, ((ev.compile f).runIn ctx).1 = .ok p → p ≠ .never →
      ((ev.apply f ctx storage).1, (ev.apply f ctx storage).2.2) =
        storage.fetch f.entityType p := by
  unfold apply
  rcases (ev.compile f).runIn ctx with ⟨e | p, ctx'⟩
  · exact ⟨iff_of_true rfl nofun, nofun⟩
  · dsimp only
    split
    next hnever =>
      have hp : p = .never := Predicate.isNever_iff.1 hnever
      refine ⟨iff_of_true rfl fun q hq => ?_, fun q hq hne => absurd ?_ hne⟩ <;>
      · cases hq
        exact hp
    next hnever =>
      have hp : p ≠ .never := fun hp => hnever (Predicate.isNever_iff.2 hp)
      have hread : (storage.fetch f.entityType p).2 ≠ storage := fun h =>
        absurd (congrArg Storage.reads h) (Nat.succ_ne_self storage.reads)
      refine ⟨iff_of_false hread fun h => hp (h p rfl), fun q hq _ => ?_⟩
      cases hq
      rfl

/-- **Filters are compiled to normal forms** in a fresh context and in one in which there have been
evaluations before. A storage is read unless the predicate is the one that nothing satisfies, and is
handed a constant or a predicate without one. -/
theorem isNormal_of_used (hev : ev.catalogs.HasStandard) (hctx : ctx.Used) (f : Filter)
    (storage : Storage) :
    (∀ p, ((ev.compile f).runIn ctx).1 = .ok p → p.IsNormal) ∧
    ((ev.apply f ctx storage).2.2 = storage ↔
      ∀ p, ((ev.compile f).runIn ctx).1 = .ok p → p = .never) ∧
    ∀ p, ((ev.compile f).runIn ctx).1 = .ok p → p ≠ .never →
      ((ev.apply f ctx storage).1, (ev.apply f ctx storage).2.2) =
        storage.fetch f.entityType p ∧ (p = .always ∨ p.Folded) := by
  have hnormal := (compileWithin_ensures hev (ev.maxDepth + 1) f ctx hctx.isNormal).2
  obtain ⟨hreads, hhanded⟩ := apply_storage ev ctx f storage
  refine ⟨hnormal, hreads, fun p hp hne => ⟨hhanded p hp hne, ?_⟩⟩
  rcases hnormal p hp with h | h | h
  · exact Or.inl h
  · exact absurd h hne
  · exact Or.inr h

/-- A context in which the filter has been evaluated that another one consults. -/
theorem isNormal_of_used_office :
    let used := office.ask newYear (.predicate vips)
    let p : Predicate := .not (.relatedMatching "manages" "person" (.hasProperty "vip"))
    used.Used ∧ used.memo.contains "vips" = true ∧
      ((office.compile withoutVips).runIn used).1 = .ok p ∧ p.IsNormal ∧
      (office.apply withoutVips used staff).2.2 ≠ staff ∧
      (office.apply withoutVips used staff).1 = (staff.fetch "person" p).1 := by
  intro used p
  have hoffice : office.catalogs.HasStandard := ⟨rfl, rfl⟩
  have hused : used.Used := .ask hoffice (.fresh none newYear.today) (.predicate vips)
  have hp : ((office.compile withoutVips).runIn used).1 = .ok p := rfl
  obtain ⟨hnormal, hreads, hhanded⟩ := isNormal_of_used hoffice hused withoutVips staff
  have hne : p ≠ .never := nofun
  exact ⟨hused, rfl, hp, hnormal p hp, fun h => hne (hreads.1 h p hp),
    congrArg Prod.fst (hhanded p hp hne).1⟩

end Evaluator

end RecordFilters
