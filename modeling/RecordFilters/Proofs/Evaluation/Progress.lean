import RecordFilters.Proofs.Evaluation.Agreement
import RecordFilters.Proofs.Handler.Supported

/-! # Supported conditions are evaluated

A condition that is supported, of which the target is stored and the range resolves, does not fail
with an error of configuration. So none of the conditions of a filter is left out, and each that is
on another filter hands on what is found for that.

* `compileWithin_keepsDay`: an evaluation goes on on the day on which it has started.
* `conditionPredicate_subFilter`, `conditionPredicate_relationSubFilter`: conditions on other filters.
* `isConfig_of_conditionErrors`, `length_usableParts`: the conditions of a filter, together. -/

namespace RecordFilters

/-- A step leaves the day of a context as it is, whether it succeeds or not. -/
def Evaluation.KeepsDay {α : Type} (x : Evaluation α) : Prop :=
  ∀ ctx : Context, (x.runIn ctx).2.today = ctx.today

/-- The named ranges of a filter resolve on a day. -/
def Filter.ResolvesOn (f : Filter) (today : Day) : Prop :=
  ∀ c ∈ f.conditions, ∀ range, c.payload = .dates (.named range) →
    (range.resolve? today).isSome = true

namespace Evaluator

open Evaluation Handler

variable {ev : Evaluator} {f g : Filter} {c : Condition} {ctx ctx' : Context}
  {nested : Filter → Evaluation Predicate}

/-! ### The day -/

theorem conditionPredicate_keepsDay (hev : ev.catalogs.HasStandard)
    (hnested : ∀ g, KeepsDay (nested g)) (f : Filter) (c : Condition) :
    KeepsDay (ev.conditionPredicate f nested c) := by
  intro ctx
  have hday : ctx.today = ctx.today := rfl
  have hc := conditionPredicate_spec hev hday ∅ none nested (fun _ _ => true) f c
  cases hconsulted : (ev.setting ∅ none ctx.today).consulted? f c with
  | none =>
    rw [hconsulted] at hc
    cases htest : (ev.setting ∅ none ctx.today).test? (fun _ _ => true) f c with
    | none =>
      rw [htest] at hc
      obtain ⟨e, hrun, -⟩ := hc
      rw [hrun]
    | some test =>
      rw [htest] at hc
      obtain ⟨p, ctx', hrun, -, hgrows, -⟩ := hc
      rw [hrun]
      exact hgrows.today
  | some g =>
    rw [hconsulted] at hc
    obtain ⟨wrap, heq, -⟩ := hc
    rw [heq, runIn_map]
    exact hnested g ctx

theorem usableParts_keepsDay (hev : ev.catalogs.HasStandard)
    (hnested : ∀ g, KeepsDay (nested g)) (f : Filter) (l : List Condition) :
    KeepsDay (ev.usableParts f nested l) := by
  induction l with
  | nil => exact fun _ => rfl
  | cons c l ih =>
    intro ctx
    have hday := conditionPredicate_keepsDay hev hnested f c ctx
    rw [runIn_usableParts_cons]
    rcases hrun : (ev.conditionPredicate f nested c).runIn ctx with ⟨e | p, ctx₁⟩
    · rw [hrun] at hday
      dsimp only
      split
      next => exact (ih ctx₁).trans hday
      next => exact hday
    · rw [hrun] at hday
      exact (ih ctx₁).trans hday

/-- **The evaluation of a filter keeps the day**, even when it fails. -/
theorem compileWithin_keepsDay (hev : ev.catalogs.HasStandard) (levels : Nat) (f : Filter) :
    KeepsDay (ev.compileWithin levels f) := by
  induction levels generalizing f with
  | zero => exact fun _ => rfl
  | succ levels ih =>
    intro ctx
    cases hknown : ctx.memo.get? f.id with
    | some entry => rw [runIn_compileWithin_known hknown]
    | none =>
      have hday := usableParts_keepsDay hev ih f f.conditions ctx
      rw [runIn_compileWithin_new hknown]
      rcases hrun : (ev.usableParts f (ev.compileWithin levels) f.conditions).runIn ctx with
        ⟨e | parts, ctx₁⟩ <;>
      · rw [hrun] at hday
        exact hday

/-! ### Single conditions -/

/-- A condition on a sub-filter that selects the right records is that filter. -/
theorem conditionPredicate_subFilter (hev : ev.catalogs.HasStandard) (hkind : c.kind = .subFilter)
    (hg : ev.filters.get? c.reference = some g) (htype : g.entityType = f.entityType) :
    ev.conditionPredicate f nested c = nested g := by
  have hpayload := c.payload_of_kind
  rw [hkind] at hpayload
  have hscope : (ev.scope f nested).subFilter c.reference = .ok g := by
    unfold PredicateScope.subFilter
    dsimp only [scope]
    rw [hg]
  rw [conditionPredicate_eq hev ⟨.subFilter, validateSubFilter, subFilterPredicate⟩
    (by simp [builtin]) hkind]
  dsimp only
  unfold subFilterPredicate
  rw [hpayload]
  dsimp only
  rw [hscope, ofExcept_ok_bind]
  exact if_neg (not_not.2 htype)

/-- A condition on a relation to what another filter selects, which can be objects of the relation,
is made of that filter. -/
theorem conditionPredicate_relationSubFilter (hev : ev.catalogs.HasStandard) {present : Bool}
    {id : FilterId} (hpayload : c.payload = .relationSubFilter present id)
    (hrelates : ev.schema.relates f.entityType c.reference = true)
    (hg : ev.filters.get? id = some g)
    (hobject : ev.schema.objectCompatible c.reference g.entityType = true) :
    ev.conditionPredicate f nested c =
      (fun p => (relatedTo c.reference g.entityType p).when present) <$> nested g := by
  have hscope : (ev.scope f nested).subFilter id = .ok g := by
    unfold PredicateScope.subFilter
    dsimp only [scope]
    rw [hg]
  have hrelation := relationType_spec ev.schema f.entityType c.reference
  rw [conditionPredicate_eq hev ⟨.relationSubFilter, validateRelationSubFilter,
    relationSubFilterPredicate⟩ (by simp [builtin]) (Condition.kind_of_payload_relationSubFilter hpayload)]
  dsimp only
  unfold relationSubFilterPredicate
  rw [hpayload]
  dsimp only [scope] at hscope ⊢
  cases h : relationType ev.schema f.entityType c.reference with
  | error e =>
    rw [h, hrelates] at hrelation
    cases hrelation.2
  | ok r =>
    rw [ofExcept_ok_bind, hscope, ofExcept_ok_bind]
    exact if_neg (by simp [hobject])

/-- **A condition fails for what it refers to exactly if something of that is not there.** -/
theorem isConfig_iff (hev : ev.catalogs.HasStandard) (levels : Nat) (f : Filter) (c : Condition)
    (ctx : Context) :
    (∃ e ctx', (ev.conditionPredicate f (ev.compileWithin levels) c).runIn ctx = (.error e, ctx') ∧
      e.isConfig = true) ↔ ¬ (ev.schema.supports f.entityType c = true ∧
        (∀ id, c.subFilterId? = some id → ev.filters.contains id = true) ∧
        ∀ range, c.payload = .dates range → (range.resolve? ctx.today).isSome = true) := by
  let s := ev.setting ∅ none ctx.today
  have hday : ctx.today = s.today := rfl
  have hfails : _ ↔ s.test? (fun _ _ => true) f c = none :=
    isConfig_iff_test?_eq_none hev hday (fun _ _ => true) levels c
  rw [hfails, ← Option.not_isSome_iff_eq_none, s.isSome_test?_iff]
  exact Iff.rfl

/-- A condition that was evaluated once is supported. -/
theorem supports_of_runIn_eq_ok (hev : ev.catalogs.HasStandard) {levels : Nat} {p : Predicate}
    (h : (ev.conditionPredicate f (ev.compileWithin levels) c).runIn ctx = (.ok p, ctx')) :
    ev.schema.supports f.entityType c = true := by
  by_contra hnot
  obtain ⟨e, ctx₁, hrun, -⟩ := (isConfig_iff hev levels f c ctx).2 fun hthere => hnot hthere.1
  rw [h] at hrun
  cases hrun

/-- **A supported condition does not fail for what it refers to**, if its target is stored and its
range resolves. -/
theorem isConfig_of_supports (hev : ev.catalogs.HasStandard)
    (hsupports : ev.schema.supports f.entityType c = true)
    (hstored : ∀ id, c.subFilterId? = some id → ev.filters.contains id = true)
    (hrange : ∀ range, c.payload = .dates (.named range) →
      (range.resolve? ctx.today).isSome = true) {levels : Nat} {e : FilterError}
    (h : (ev.conditionPredicate f (ev.compileWithin levels) c).runIn ctx = (.error e, ctx')) :
    e.isConfig = false := by
  have hranges : ∀ range, c.payload = .dates range → (range.resolve? ctx.today).isSome = true := by
    intro range hpayload
    cases range with
    | named range => exact hrange range hpayload
    | custom start stop => rfl
  refine Bool.eq_false_iff.2 fun he => ?_
  exact (isConfig_iff hev levels f c ctx).1 ⟨e, ctx', h, he⟩ ⟨hsupports, hstored, hranges⟩

/-! ### The conditions of a filter -/

theorem runIn_of_errorsFrom_eq_nil {position : Nat} {l : List Condition}
    (h : (ev.errorsFrom f position ctx l).1 = []) (hc : c ∈ l) :
    ∃ ctx p ctx', (ev.conditionPredicate f (ev.compileWithin ev.maxDepth) c).runIn ctx =
      (.ok p, ctx') := by
  induction l generalizing position ctx with
  | nil => cases hc
  | cons first l ih =>
    unfold errorsFrom at h
    rcases hrun : (ev.conditionPredicate f (ev.compileWithin ev.maxDepth) first).runIn ctx with
      ⟨e | p, ctx₁⟩
    · rw [hrun] at h
      cases h
    · rw [hrun] at h
      rcases List.mem_cons.1 hc with rfl | hc
      · exact ⟨ctx, p, ctx₁, hrun⟩
      · exact ih h hc

/-- A filter of which all conditions were evaluated once is supported. -/
theorem supports_of_conditionErrors_eq_nil (hev : ev.catalogs.HasStandard)
    (h : (ev.conditionErrors f ctx).1 = []) (hc : c ∈ f.conditions) :
    ev.schema.supports f.entityType c = true := by
  obtain ⟨ctx₁, p, ctx₂, hrun⟩ := runIn_of_errorsFrom_eq_nil h hc
  exact supports_of_runIn_eq_ok hev hrun

/-- All that the conditions of a filter refer to is there. -/
structure Supports (ev : Evaluator) (f : Filter) : Prop where
  schema : ∀ c ∈ f.conditions, ev.schema.supports f.entityType c = true
  filters : ∀ c ∈ f.conditions, ∀ id, c.subFilterId? = some id → ev.filters.contains id = true

/-- On a day, no condition of a list fails for what it refers to. -/
def Sturdy (ev : Evaluator) (f : Filter) (levels : Nat) (today : Day) (l : List Condition) : Prop :=
  ∀ c ∈ l, ∀ ctx e ctx', ctx.today = today →
    (ev.conditionPredicate f (ev.compileWithin levels) c).runIn ctx = (.error e, ctx') →
      e.isConfig = false

theorem Supports.sturdy (hf : ev.Supports f) (hev : ev.catalogs.HasStandard) {today : Day}
    (hday : f.ResolvesOn today) (levels : Nat) : ev.Sturdy f levels today f.conditions := by
  intro c hc ctx e ctx' hsame hrun
  refine isConfig_of_supports hev (hf.schema c hc) (hf.filters c hc) ?_ hrun
  rw [hsame]
  exact hday c hc

theorem isConfig_of_errorsFrom (hev : ev.catalogs.HasStandard) {today : Day} {l : List Condition}
    (hl : ev.Sturdy f ev.maxDepth today l) (position : Nat) (hday : ctx.today = today) :
    ∀ entry ∈ (ev.errorsFrom f position ctx l).1, entry.2.isConfig = false := by
  induction l generalizing position ctx with
  | nil =>
    intro entry hentry
    cases hentry
  | cons c l ih =>
    intro entry hentry
    have hrest : ev.Sturdy f ev.maxDepth today l := fun c hc => hl c (List.mem_cons_of_mem _ hc)
    have hkeeps := conditionPredicate_keepsDay hev (compileWithin_keepsDay hev ev.maxDepth) f c ctx
    unfold errorsFrom at hentry
    rcases hrun : (ev.conditionPredicate f (ev.compileWithin ev.maxDepth) c).runIn ctx with
      ⟨e | p, ctx₁⟩
    · rw [hrun] at hentry hkeeps
      rcases List.mem_cons.1 hentry with rfl | hentry
      · exact hl c List.mem_cons_self ctx e ctx₁ hday hrun
      · exact ih hrest _ (hkeeps.trans hday) entry hentry
    · rw [hrun] at hentry hkeeps
      exact ih hrest _ (hkeeps.trans hday) entry hentry

theorem length_of_usableParts (hev : ev.catalogs.HasStandard) {levels : Nat} {today : Day}
    {l : List Condition} (hl : ev.Sturdy f levels today l) (hday : ctx.today = today)
    {parts : List Predicate}
    (h : (ev.usableParts f (ev.compileWithin levels) l).runIn ctx = (.ok parts, ctx')) :
    parts.length = l.length := by
  induction l generalizing ctx parts with
  | nil =>
    cases h
    rfl
  | cons c l ih =>
    have hrest : ev.Sturdy f levels today l := fun c hc => hl c (List.mem_cons_of_mem _ hc)
    have hkeeps := conditionPredicate_keepsDay hev (compileWithin_keepsDay hev levels) f c ctx
    rw [runIn_usableParts_cons] at h
    rcases hrun : (ev.conditionPredicate f (ev.compileWithin levels) c).runIn ctx with
      ⟨e | p, ctx₁⟩
    · rw [hrun] at h
      dsimp only at h
      rw [if_neg (by simp [hl c List.mem_cons_self ctx e ctx₁ hday hrun])] at h
      cases h
    · rw [hrun] at h hkeeps
      obtain ⟨rest, hrest', rfl⟩ := runIn_map_eq_ok h
      rw [List.length_cons, List.length_cons, ih hrest (hkeeps.trans hday) hrest']

/-- **No condition of a supported filter fails for what it refers to**, on a day on which its named
ranges resolve. -/
theorem isConfig_of_conditionErrors (hev : ev.catalogs.HasStandard) (hf : ev.Supports f)
    (hday : f.ResolvesOn ctx.today) :
    ∀ entry ∈ (ev.conditionErrors f ctx).1, entry.2.isConfig = false :=
  isConfig_of_errorsFrom hev (hf.sturdy hev hday _) 0 rfl

/-- **So none of them is left out** when the filter is evaluated. -/
theorem length_usableParts (hev : ev.catalogs.HasStandard) (hf : ev.Supports f)
    (hday : f.ResolvesOn ctx.today) {levels : Nat} {parts : List Predicate}
    (h : (ev.usableParts f (ev.compileWithin levels) f.conditions).runIn ctx = (.ok parts, ctx')) :
    parts.length = f.conditions.length :=
  length_of_usableParts hev (hf.sturdy hev hday _) rfl h

end Evaluator

end RecordFilters
