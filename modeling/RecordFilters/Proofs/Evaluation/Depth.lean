import RecordFilters.Proofs.Evaluation.Agreement
import RecordFilters.Proofs.Evaluation.Settled
import RecordFilters.Proofs.Graph.Visit
import RecordFilters.Proofs.Graph.Walks
import RecordFilters.Proofs.Graph.WellTyped

/-! # Evaluation is a visit

Where every reference below a filter is followed and none leads back, the evaluation of the filter
goes the way of a visit: what a visit has seen are the filters that are remembered and those at which
the evaluation is busy. So it fails exactly where the visit gives up, with the error that filters are
nested too deep. The list of descendants is a visit as well, and fails with it.

* `FilterSet.Clear`: every reference below a filter is followed and none leads back.
* `compileWithin_follows`: an evaluation follows the visit.
* `compile_spec`: a stored filter can be evaluated exactly if it nests no deeper than the bound.
* `compile_tooDeep_iff`: any filter is too deep to be evaluated exactly if it is too deep for its
  descendants to be listed. -/

namespace RecordFilters

open Relation

/-! ### Filters below which nothing is in the way -/

namespace FilterSet

variable {s : FilterSet} {schema : Schema} {f g : Filter} {c : Condition}

/-- Every condition of a filter that points at another consults it: that one is stored, and it suits
the condition. -/
def Consults (s : FilterSet) (schema : Schema) (f : Filter) : Prop :=
  ∀ c ∈ f.conditions, ∀ id, c.subFilterId? = some id →
    ∃ g, s.consulted? schema f.entityType c = some g ∧ g.id = id

theorem consults_iff : s.Consults schema f ↔
    ∀ c ∈ f.conditions, c.subFilterId? = (s.consulted? schema f.entityType c).map Filter.id := by
  constructor
  · intro h c hc
    cases hid : c.subFilterId? with
    | some id =>
      obtain ⟨g, hg, rfl⟩ := h c hc id hid
      rw [hg]
      rfl
    | none =>
      cases hg : s.consulted? schema f.entityType c with
      | none => rfl
      | some g =>
        rw [subFilterId?_of_consulted? hg] at hid
        cases hid
  · intro h c hc id hid
    rw [h c hc] at hid
    exact Option.map_eq_some_iff.1 hid

instance : Decidable (s.Consults schema f) := decidable_of_iff _ consults_iff.symm

/-- No walk from a filter comes to a filter twice, and all references on the way are followed. -/
structure Clear (s : FilterSet) (schema : Schema) (f : Filter) : Prop where
  apart : ¬ s.Below f f.id
  acyclic : ∀ id, s.Below f id → ¬ s.Reaches id id
  consults : s.Consults schema f
  consultsBelow : ∀ g ∈ s, s.Below f g.id → s.Consults schema g

/-- What is consulted lies below. -/
theorem below_of_consulted? (hc : c ∈ f.conditions)
    (hg : s.consulted? schema f.entityType c = some g) : s.Below f g.id :=
  ⟨g.id, Filter.mem_subFilterIds.2 ⟨c, hc, subFilterId?_of_consulted? hg⟩, .refl⟩

/-- Among stored filters that are in order, a filter that is in order is clear. -/
theorem Clear.of_wellTyped (htyped : s.WellTyped schema) (hacyclic : s.Acyclic)
    (hf : s.Consults schema f) (hapart : ¬ s.Below f f.id) : s.Clear schema f :=
  ⟨hapart, fun id _ => hacyclic id, hf, fun g hg _ => htyped g hg⟩

/-- What a clear filter consults is clear. -/
theorem Clear.of_consulted? (h : s.Clear schema f) (hc : c ∈ f.conditions)
    (hg : s.consulted? schema f.entityType c = some g) : s.Clear schema g := by
  have hmem : g ∈ s := mem_of_consulted? hg
  have hbelow : s.Below f g.id := below_of_consulted? hc hg
  have hdown : ∀ id, s.Below g id → s.Below f id :=
    fun id hid => hbelow.trans ((below_iff_reaches hmem).1 hid)
  exact ⟨fun hback => h.acyclic g.id hbelow ((below_iff_reaches hmem).1 hback),
    fun id hid => h.acyclic id (hdown id hid), h.consultsBelow g hmem hbelow,
    fun g' hg' hid => h.consultsBelow g' hg' (hdown g'.id hid)⟩

end FilterSet

namespace Evaluator

open Evaluation

variable {ev : Evaluator} {f : Filter} {K : Context → Prop} {user : Option ActingUser} {today : Day}
  {busy : FilterId → Prop} {levels : Nat} {seen : List FilterId} {ctx : Context}

/-! ### Conditions that consult no filter -/

/-- A property of contexts that lasts: a condition that consults no filter is evaluated, or left out,
and neither changes what is remembered. -/
structure Lasts (ev : Evaluator) (K : Context → Prop) : Prop where
  remember : ∀ ctx id p, K ctx → K { ctx with memo := ctx.memo.insert (id, p) }
  apart : ∀ f c, ev.filters.consulted? ev.schema f.entityType c = none → ∀ nested ctx, K ctx →
    ∃ result ctx', (ev.conditionPredicate f nested c).runIn ctx = (result, ctx') ∧
      ctx'.memo = ctx.memo ∧ K ctx' ∧ ∀ e, result = .error e → e.isConfig = true

/-- With the operators of this library any context will do. -/
theorem lasts_of_hasStandard (hev : ev.catalogs.HasStandard) : ev.Lasts fun _ => True := by
  refine ⟨fun _ _ _ _ => trivial, fun f c hconsulted nested ctx _ => ?_⟩
  have hc := conditionPredicate_spec hev (rfl : ctx.today = ctx.today) ∅ none nested
    (fun _ _ => true) f c
  have hnone : (ev.setting ∅ none ctx.today).consulted? f c = none := hconsulted
  rw [hnone] at hc
  cases htest : (ev.setting ∅ none ctx.today).test? (fun _ _ => true) f c with
  | none =>
    rw [htest] at hc
    obtain ⟨e, hrun, he⟩ := hc
    exact ⟨_, ctx, hrun, rfl, trivial, by rintro _ ⟨⟩; exact he⟩
  | some test =>
    rw [htest] at hc
    obtain ⟨p, ctx', hrun, hmemo, -⟩ := hc
    exact ⟨_, ctx', hrun, hmemo, trivial, nofun⟩

/-- With any operators, contexts will do in which operands have been resolved as they are
registered. -/
theorem lasts_serves (hev : ev.catalogs.handlers = Catalogs.standard.handlers)
    (user : Option ActingUser) (today : Day) :
    ev.Lasts (Context.Serves · ev.catalogs.registries user today) := by
  refine ⟨fun _ id p hctx => hctx.remember id p, fun f c hconsulted nested ctx hctx => ?_⟩
  have hc := conditionPredicate_cases hev user today f c
  rw [hconsulted] at hc
  obtain ⟨x, hx, heq⟩ := hc
  rw [heq]
  cases hx with
  | fails e he hrun => exact ⟨_, ctx, hrun ctx hctx, rfl, hctx, by rintro _ ⟨⟩; exact he⟩
  | gives h =>
    obtain ⟨p, ctx', hrun, hmemo, hctx'⟩ := h.run ctx hctx
    exact ⟨_, ctx', hrun, hmemo, hctx', nofun⟩

/-- Such a condition adds a predicate to those of the rest, or none. -/
theorem Lasts.runIn_usableParts_cons (hK : ev.Lasts K) {c : Condition}
    (hconsulted : ev.filters.consulted? ev.schema f.entityType c = none) (hctx : K ctx)
    (nested : Filter → Evaluation Predicate) (l : List Condition) :
    ∃ (ctx₁ : Context) (k : List Predicate → List Predicate), K ctx₁ ∧ ctx₁.memo = ctx.memo ∧
      (ev.usableParts f nested (c :: l)).runIn ctx =
        (((ev.usableParts f nested l).runIn ctx₁).1.map k,
          ((ev.usableParts f nested l).runIn ctx₁).2) := by
  obtain ⟨result, ctx₁, hrun, hmemo, hctx₁, hconfig⟩ := hK.apart f c hconsulted nested ctx hctx
  rw [Evaluator.runIn_usableParts_cons, hrun]
  cases result with
  | error e =>
    dsimp only
    rw [if_pos (hconfig e rfl)]
    refine ⟨ctx₁, id, hctx₁, hmemo, ?_⟩
    rcases (ev.usableParts f nested l).runIn ctx₁ with ⟨e | parts, ctx'⟩ <;> rfl
  | ok p => exact ⟨ctx₁, (p :: ·), hctx₁, hmemo, rfl⟩

/-! ### Following a visit -/

/-- What has been seen are the filters that are remembered, and those at which the evaluation is
busy. -/
def Marks (ctx : Context) (busy : FilterId → Prop) (seen : List FilterId) : Prop :=
  ∀ a, a ∈ seen ↔ ctx.memo.contains a = true ∨ busy a

theorem marks_fresh (hmemo : ctx.memo = ∅) : Marks ctx (fun _ => False) [] := by
  intro a
  rw [hmemo]
  simp [Index.contains_iff]

/-- What has been seen at a filter: the evaluation is busy with it too. -/
theorem Marks.visiting (h : Marks ctx busy seen) (id : FilterId) :
    Marks ctx (fun a => busy a ∨ a = id) (id :: seen) := by
  intro a
  rw [List.mem_cons, h a, or_comm, or_assoc]

/-- A filter with which the evaluation has been busy is remembered then. -/
theorem Marks.remembering {id : FilterId} (h : Marks ctx (fun a => busy a ∨ a = id) seen)
    (p : Predicate) : Marks { ctx with memo := ctx.memo.insert (id, p) } busy seen := by
  intro a
  rw [h a, Index.contains_insert]
  constructor
  · rintro (h | h | h)
    · exact Or.inl (Or.inr h)
    · exact Or.inr h
    · exact Or.inl (Or.inl h)
  · rintro ((h | h) | h)
    · exact Or.inr (Or.inr h)
    · exact Or.inl h
    · exact Or.inr (Or.inl h)

/-- How the run of a step stands to a visit: it fails if the visit gives up, else it succeeds and
marks what has been seen. -/
def Follows (ev : Evaluator) (K : Context → Prop) (busy : FilterId → Prop) {α : Type}
    (run : Except FilterError α × Context) : Option (List FilterId) → Prop
  | none => ∃ id ctx', run = (.error (.validation (.tooDeep ev.maxDepth) [id]), ctx')
  | some seen => ∃ a ctx', run = (.ok a, ctx') ∧ K ctx' ∧ Marks ctx' busy seen

theorem Follows.map {α β : Type} {run : Except FilterError α × Context}
    {visited : Option (List FilterId)} (h : Follows ev K busy run visited) (k : α → β) :
    Follows ev K busy (run.1.map k, run.2) visited := by
  cases visited with
  | none =>
    obtain ⟨id, ctx', rfl⟩ := h
    exact ⟨id, ctx', rfl⟩
  | some seen =>
    obtain ⟨a, ctx', rfl, h⟩ := h
    exact ⟨k a, ctx', rfl, h⟩

/-- A run that follows a visit succeeds exactly if the visit does not give up, and fails for no other
reason. -/
theorem Follows.cases {α : Type} {run : Except FilterError α × Context}
    {visited : Option (List FilterId)} (h : Follows ev K busy run visited) :
    (visited.isSome = true ∧ ∃ a ctx', run = (.ok a, ctx')) ∨
      (¬ visited.isSome = true ∧
        ∃ id ctx', run = (.error (.validation (.tooDeep ev.maxDepth) [id]), ctx')) := by
  cases visited with
  | none => exact Or.inr ⟨by simp, h⟩
  | some seen =>
    obtain ⟨a, ctx', hrun, -⟩ := h
    exact Or.inl ⟨rfl, a, ctx', hrun⟩

/-- The conditions of a filter are evaluated as the filters that they consult are visited. -/
theorem usableParts_follows (hev : ev.catalogs.handlers = Catalogs.standard.handlers)
    (hK : ev.Lasts K) {nested : Filter → Evaluation Predicate} {l : List Condition}
    (hl : ∀ c ∈ l, ∀ id, c.subFilterId? = some id →
      ∃ g, ev.filters.consulted? ev.schema f.entityType c = some g ∧ g.id = id)
    (hnested : ∀ c ∈ l, ∀ g, ev.filters.consulted? ev.schema f.entityType c = some g →
      ∀ ctx seen, K ctx → Marks ctx busy seen →
        Follows ev K busy ((nested g).runIn ctx) (ev.filters.visit levels seen g.id))
    (hctx : K ctx) (hseen : Marks ctx busy seen) :
    Follows ev K busy ((ev.usableParts f nested l).runIn ctx)
      ((l.filterMap Condition.subFilterId?).foldlM (ev.filters.visit levels) seen) := by
  induction l generalizing ctx seen with
  | nil => exact ⟨[], ctx, rfl, hctx, hseen⟩
  | cons c l ih =>
    have ih := fun {ctx seen} => @ih ctx seen (fun c hc => hl c (List.mem_cons_of_mem _ hc))
      (fun c hc => hnested c (List.mem_cons_of_mem _ hc))
    cases hconsulted : ev.filters.consulted? ev.schema f.entityType c with
    | none =>
      have hnone : c.subFilterId? = none := by
        cases hid : c.subFilterId? with
        | none => rfl
        | some id =>
          obtain ⟨g, hg, -⟩ := hl c List.mem_cons_self id hid
          rw [hconsulted] at hg
          cases hg
      obtain ⟨ctx₁, k, hctx₁, hmemo, hrun⟩ := hK.runIn_usableParts_cons hconsulted hctx nested l
      rw [List.filterMap_cons_none hnone, hrun]
      refine (ih hctx₁ ?_).map k
      unfold Marks
      rw [hmemo]
      exact hseen
    | some g =>
      -- a condition that consults a filter hands on what is found for that, on any day
      have hc := conditionPredicate_cases hev none ctx.today f c
      rw [hconsulted] at hc
      obtain ⟨wrap, heq⟩ := hc
      rw [List.filterMap_cons_some (FilterSet.subFilterId?_of_consulted? hconsulted),
        List.foldlM_cons, Evaluator.runIn_usableParts_cons, heq, runIn_map]
      have hg := hnested c List.mem_cons_self g hconsulted ctx seen hctx hseen
      cases hvisit : ev.filters.visit levels seen g.id with
      | none =>
        rw [hvisit] at hg
        obtain ⟨id, ctx₁, hrun⟩ := hg
        rw [hrun]
        exact ⟨id, ctx₁, rfl⟩
      | some seen₁ =>
        rw [hvisit] at hg
        obtain ⟨p, ctx₁, hrun, hctx₁, hseen₁⟩ := hg
        rw [hrun]
        exact (ih hctx₁ hseen₁).map (wrap p :: ·)

/-- A filter that is not remembered is evaluated as its sub-filters are visited, if the filters that
it consults are. Meanwhile the evaluation is busy with the filter too. -/
theorem compileWithin_new_follows (hev : ev.catalogs.handlers = Catalogs.standard.handlers)
    (hK : ev.Lasts K) (hf : ev.filters.Consults ev.schema f)
    (hnested : ∀ c ∈ f.conditions, ∀ g,
      ev.filters.consulted? ev.schema f.entityType c = some g →
        ∀ ctx seen, K ctx → Marks ctx (fun a => busy a ∨ a = f.id) seen →
          Follows ev K (fun a => busy a ∨ a = f.id) ((ev.compileWithin levels g).runIn ctx)
            (ev.filters.visit levels seen g.id))
    (hknown : ctx.memo.get? f.id = none) (hctx : K ctx) (hseen : Marks ctx busy seen) :
    Follows ev K busy ((ev.compileWithin (levels + 1) f).runIn ctx)
      (f.subFilterIds.foldlM (ev.filters.visit levels) (f.id :: seen)) := by
  have hparts := usableParts_follows hev hK hf hnested hctx (hseen.visiting f.id)
  rw [runIn_compileWithin_new hknown, Filter.subFilterIds, FilterSet.foldlM_visit_distinct]
  cases hvisit : (f.conditions.filterMap Condition.subFilterId?).foldlM
      (ev.filters.visit levels) (f.id :: seen) with
  | none =>
    rw [hvisit] at hparts
    obtain ⟨id, ctx', hrun⟩ := hparts
    rw [hrun]
    exact ⟨id, ctx', rfl⟩
  | some seen' =>
    rw [hvisit] at hparts
    obtain ⟨parts, ctx', hrun, hctx', hmarks⟩ := hparts
    rw [hrun]
    exact ⟨_, _, rfl, hK.remember _ _ _ hctx', hmarks.remembering _⟩

/-- **The evaluation of a stored filter follows the visit**, if the filter is clear and the evaluation
is not busy with it or with anything below it. -/
theorem compileWithin_follows (hev : ev.catalogs.handlers = Catalogs.standard.handlers)
    (hK : ev.Lasts K) (levels : Nat) (hf : f ∈ ev.filters) (hclear : ev.filters.Clear ev.schema f)
    (hself : ¬ busy f.id) (hbelow : ∀ a, ev.filters.Below f a → ¬ busy a) (hctx : K ctx)
    (hseen : Marks ctx busy seen) :
    Follows ev K busy ((ev.compileWithin levels f).runIn ctx)
      (ev.filters.visit levels seen f.id) := by
  induction levels generalizing f busy ctx seen with
  | zero => exact ⟨f.id, ctx, rfl⟩
  | succ levels ih =>
    cases hknown : ctx.memo.get? f.id with
    | some entry =>
      have hmem : f.id ∈ seen := by
        refine (hseen f.id).2 (Or.inl ?_)
        rw [Index.contains, hknown]
        rfl
      rw [runIn_compileWithin_known hknown, FilterSet.visit_of_mem hmem]
      exact ⟨entry.2, ctx, rfl, hctx, hseen⟩
    | none =>
      have hmem : f.id ∉ seen := by
        intro hmem
        rcases (hseen f.id).1 hmem with hmemo | hb
        · rw [Index.contains, hknown] at hmemo
          cases hmemo
        · exact hself hb
      rw [FilterSet.visit_of_get?_eq_some hmem (Index.get?_eq_some_iff.2 ⟨hf, rfl⟩)]
      refine compileWithin_new_follows hev hK hclear.consults (fun c hc g hg ctx seen hctx hseen => ?_)
        hknown hctx hseen
      have hdown : ev.filters.Below f g.id := FilterSet.below_of_consulted? hc hg
      have hmem : g ∈ ev.filters := FilterSet.mem_of_consulted? hg
      refine ih hmem (hclear.of_consulted? hc hg) ?_ (fun a ha => ?_) hctx hseen
      · rintro (hb | hid)
        · exact hbelow g.id hdown hb
        · exact hclear.apart (hid ▸ hdown)
      · have ha : ev.filters.Below f a := hdown.trans ((FilterSet.below_iff_reaches hmem).1 ha)
        rintro (hb | rfl)
        · exact hbelow a ha hb
        · exact hclear.apart ha

/-- Where nothing is remembered, a clear filter is evaluated as its sub-filters are visited, stored or
not. -/
theorem compile_follows (hev : ev.catalogs.handlers = Catalogs.standard.handlers) (hK : ev.Lasts K)
    (hclear : ev.filters.Clear ev.schema f) (hmemo : ctx.memo = ∅) (hctx : K ctx) :
    Follows ev K (fun _ => False) ((ev.compile f).runIn ctx)
      (f.subFilterIds.foldlM (ev.filters.visit ev.maxDepth) [f.id]) := by
  have hknown : ctx.memo.get? f.id = none := by
    rw [hmemo]
    rfl
  refine compileWithin_new_follows hev hK hclear.consults (fun c hc g hg ctx seen hctx hseen => ?_)
    hknown hctx (marks_fresh hmemo)
  have hdown : ev.filters.Below f g.id := FilterSet.below_of_consulted? hc hg
  have hmem : g ∈ ev.filters := FilterSet.mem_of_consulted? hg
  refine compileWithin_follows hev hK ev.maxDepth hmem (hclear.of_consulted? hc hg) ?_
    (fun a ha => ?_) hctx hseen
  · rintro (hb | hid)
    · exact hb
    · exact hclear.apart (hid ▸ hdown)
  · rintro (hb | rfl)
    · exact hb
    · exact hclear.apart (hdown.trans ((FilterSet.below_iff_reaches hmem).1 ha))

/-- **A stored filter can be evaluated exactly if it nests no deeper than the bound**, and fails for
no other reason. -/
theorem compile_spec (hev : ev.catalogs.HasStandard) (htyped : ev.filters.WellTyped ev.schema)
    (hacyclic : ev.filters.Acyclic) (hf : f ∈ ev.filters) (hmemo : ctx.memo = ∅) :
    (ev.filters.WithinDepth ev.maxDepth f.id ∧
      ∃ p ctx', (ev.compile f).runIn ctx = (.ok p, ctx')) ∨
    (¬ ev.filters.WithinDepth ev.maxDepth f.id ∧ ∃ id ctx', (ev.compile f).runIn ctx =
      (.error (.validation (.tooDeep ev.maxDepth) [id]), ctx')) := by
  have hapart : ¬ ev.filters.Below f f.id :=
    fun hback => hacyclic f.id ((FilterSet.below_iff_reaches hf).1 hback)
  have hclear := FilterSet.Clear.of_wellTyped htyped hacyclic (htyped f hf) hapart
  have h := compile_follows hev.handlers (lasts_of_hasStandard hev) hclear hmemo trivial
  unfold FilterSet.WithinDepth
  rw [FilterSet.visit_of_get?_eq_some List.not_mem_nil (Index.get?_eq_some_iff.2 ⟨hf, rfl⟩)]
  exact h.cases

/-- **A filter is too deep to be evaluated exactly if it is too deep for its descendants to be
listed.** The filter need not be stored. No walk from it comes to a filter twice, and every condition
on the way that points at a filter consults it. In a fresh context there is no other error, so what is
not too deep is evaluated. -/
theorem compile_tooDeep_iff (hev : ev.catalogs.handlers = Catalogs.standard.handlers)
    (hclear : ev.filters.Clear ev.schema f) (user : Option ActingUser) (today : Day) :
    ((∃ id ctx', (ev.compile f).runIn { user := user, today := today } =
        (.error (.validation (.tooDeep ev.maxDepth) [id]), ctx')) ↔
      (⟨ev.filters, ev.maxDepth⟩ : GraphWalk).descendants f =
        .error (.validation (.tooDeep ev.maxDepth) [f.id])) ∧
    ((∃ p ctx', (ev.compile f).runIn { user := user, today := today } = (.ok p, ctx')) ↔
      ∃ below, (⟨ev.filters, ev.maxDepth⟩ : GraphWalk).descendants f = .ok below) := by
  have hrun := (compile_follows hev (lasts_serves hev user today) hclear rfl
    (Context.serves_fresh _ user today)).cases
  have hlist := GraphWalk.isOk_descendants (g := ⟨ev.filters, ev.maxDepth⟩) f
  rw [← hlist] at hrun
  cases hdescendants : (⟨ev.filters, ev.maxDepth⟩ : GraphWalk).descendants f with
  | ok below =>
    rw [hdescendants] at hrun
    obtain ⟨-, p, ctx', hok⟩ | ⟨hnot, -⟩ := hrun
    · rw [hok]
      refine ⟨⟨?_, fun h => by cases h⟩, fun _ => ⟨below, rfl⟩, fun _ => ⟨p, ctx', rfl⟩⟩
      rintro ⟨id, ctx'', h⟩
      cases h
    · exact absurd rfl hnot
  | error e =>
    obtain rfl := GraphWalk.eq_tooDeep_of_descendants hdescendants
    rw [hdescendants] at hrun
    obtain ⟨hok, -⟩ | ⟨-, id, ctx', herror⟩ := hrun
    · cases hok
    · rw [herror]
      refine ⟨⟨fun _ => rfl, fun _ => ⟨id, ctx', rfl⟩⟩, ?_, ?_⟩
      · rintro ⟨p, ctx'', h⟩
        cases h
      · rintro ⟨below, h⟩
        cases h

/-- The filter of the office and one on it. -/
def nested : FilterSet := .ofList [vips, withoutVips]

/-- A filter that leads to the same one directly and through another. It is not stored. -/
def vipsWithout : Filter where
  id := "both"
  name := "VIPs without VIPs"
  entityType := "person"
  conditions := [.onSubFilter "vips", .onSubFilter "without"]
  conditions_ne_nil := by simp

theorem clear_vipsWithout : nested.Clear office.schema vipsWithout := by
  have htyped : ∀ f ∈ nested.toList, nested.Consults office.schema f := by decide
  have hacyclic : nested.Acyclic :=
    .of_rank (fun id => if id = "vips" then 0 else 1) (by decide)
  have hchecked : (⟨nested, 2⟩ : GraphWalk).checkAcyclic vipsWithout = .ok () := by cbv
  exact .of_wellTyped htyped hacyclic (by decide) (GraphWalk.not_below_of_checkAcyclic hchecked)

/-- What is too deep the second time is too deep, though it has been evaluated before. -/
theorem compile_tooDeep_iff_vipsWithout :
    (∃ id ctx', (compile { office with filters := nested } vipsWithout).runIn newYear =
        (.error (.validation (.tooDeep 1) [id]), ctx')) ∧
      ∃ p ctx', (compile { office with filters := nested, maxDepth := 2 } vipsWithout).runIn
        newYear = (.ok p, ctx') := by
  have hdeep : (⟨nested, 1⟩ : GraphWalk).descendants vipsWithout =
      .error (.validation (.tooDeep 1) ["both"]) := by cbv
  have hlisted : (⟨nested, 2⟩ : GraphWalk).descendants vipsWithout =
      .ok [vips, withoutVips] := by cbv
  have hone := @compile_tooDeep_iff { office with filters := nested } vipsWithout rfl
    clear_vipsWithout none newYear.today
  have htwo := @compile_tooDeep_iff { office with filters := nested, maxDepth := 2 } vipsWithout rfl
    clear_vipsWithout none newYear.today
  exact ⟨hone.1.2 hdeep, htwo.2.2 ⟨_, hlisted⟩⟩

end Evaluator

end RecordFilters
