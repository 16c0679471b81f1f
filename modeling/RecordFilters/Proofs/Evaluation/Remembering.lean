import RecordFilters.Proofs.Evaluation.Agreement
import RecordFilters.Proofs.Evaluation.Expanding

/-! # What is remembered

A predicate that is remembered in a context is the one that the filter has when it is written out,
and the filters that it consults are remembered with it. Evaluations keep it so, those that fail
included.

* `Evaluator.Sound`: what is remembered is right.
* `Evaluator.Advances`: what becomes of a context in an evaluation.
* `Evaluator.compileWithin_tracks`: an evaluation keeps a context sound, whether it succeeds or not.
* `Evaluator.expanded_of_runIn_eq_ok`: what an evaluation answers. -/

namespace RecordFilters

namespace Evaluator

open Evaluation

variable {ev : Evaluator} {user : Option ActingUser} {today : Day} {f g : Filter} {c : Condition}
  {n levels : Nat} {K : FilterId → Prop} {ctx ctx' ctx'' : Context} {p : Predicate}
  {e : FilterError}

/-! ### Sound contexts -/

/-- **What is remembered is right**: it is the predicate of a stored filter, and with it the filters
that this one consults are remembered. -/
structure Sound (ev : Evaluator) (actor : Option ActingUser) (day : Day) (ctx : Context) : Prop
    extends Context.Serves ctx ev.catalogs.registries actor day where
  memo : ∀ entry ∈ ctx.memo, ∃ g ∈ ev.filters, g.id = entry.1 ∧
    (∀ h ∈ ev.consulted g, ctx.memo.contains h.id = true) ∧
    ∃ n, ev.EndsWithin n g ∧
      (ev.catalogs.registries.Unambiguous actor day → entry.2 = ev.expanded actor day n g)

theorem sound_fresh (ev : Evaluator) (user : Option ActingUser) (today : Day) :
    ev.Sound user today { user := user, today := today } :=
  ⟨Context.serves_fresh _ user today, fun _ h => absurd h Index.not_mem_empty⟩

theorem Sound.of_memo_eq (h : ev.Sound user today ctx) (hmemo : ctx'.memo = ctx.memo)
    (hserves : ctx'.Serves ev.catalogs.registries user today) : ev.Sound user today ctx' := by
  refine ⟨hserves, ?_⟩
  rw [hmemo]
  exact h.memo

/-- What is remembered under the id of a stored filter belongs to that filter. -/
theorem Sound.of_mem (h : ev.Sound user today ctx) (hf : f ∈ ev.filters)
    (hp : (f.id, p) ∈ ctx.memo) :
    (∀ g ∈ ev.consulted f, ctx.memo.contains g.id = true) ∧
      ∃ n, ev.EndsWithin n f ∧
        (ev.catalogs.registries.Unambiguous user today → p = ev.expanded user today n f) := by
  obtain ⟨g, hg, hid, hspec⟩ := h.memo _ hp
  rwa [Index.eq_of_key_eq hg hf hid] at hspec

/-- The filters that are remembered consult no others. -/
theorem Sound.closed (h : ev.Sound user today ctx) (hf : f ∈ ev.filters)
    (hcontains : ctx.memo.contains f.id = true) (hg : g ∈ ev.consulted f) :
    ctx.memo.contains g.id = true := by
  obtain ⟨⟨id, p⟩, hp, rfl⟩ := Index.contains_iff.1 hcontains
  exact (h.of_mem hf hp).1 g hg

/-- A filter whose parts have been made can be remembered. -/
theorem Sound.remember (h : ev.Sound user today ctx) (hf : f ∈ ev.filters)
    (hconsulted : ∀ g ∈ ev.consulted f, ctx.memo.contains g.id = true) (hn : ev.EndsWithin n f)
    (hp : ev.catalogs.registries.Unambiguous user today → p = ev.expanded user today n f) :
    ev.Sound user today { ctx with memo := ctx.memo.insert (f.id, p) } := by
  refine ⟨h.toServes.remember _ _, fun entry hentry => ?_⟩
  rcases Index.mem_insert.1 hentry with rfl | ⟨hentry, -⟩
  · exact ⟨f, hf, rfl, fun g hg => Index.contains_insert.2 (Or.inr (hconsulted g hg)), n, hn, hp⟩
  · obtain ⟨g, hg, hid, hclosed, hspec⟩ := h.memo entry hentry
    exact ⟨g, hg, hid, fun g hg => Index.contains_insert.2 (Or.inr (hclosed g hg)), hspec⟩

/-! ### What an evaluation adds -/

/-- What becomes of a context in an evaluation: it stays sound, nothing is forgotten, and what is
new is about certain filters. -/
structure Advances (ev : Evaluator) (user : Option ActingUser) (today : Day)
    (K : FilterId → Prop) (ctx ctx' : Context) : Prop where
  sound : ev.Sound user today ctx'
  kept : ∀ entry ∈ ctx.memo, entry ∈ ctx'.memo
  within : ∀ id, ctx'.memo.contains id = true → ctx.memo.contains id = true ∨ K id

theorem Advances.of_memo_eq (h : ev.Sound user today ctx) (hmemo : ctx'.memo = ctx.memo)
    (hserves : ctx'.Serves ev.catalogs.registries user today) :
    ev.Advances user today K ctx ctx' where
  sound := h.of_memo_eq hmemo hserves
  kept entry hentry := by rwa [hmemo]
  within id hid := Or.inl (by rwa [hmemo] at hid)

theorem Advances.refl (h : ev.Sound user today ctx) : ev.Advances user today K ctx ctx :=
  .of_memo_eq h rfl h.toServes

theorem Advances.trans (h : ev.Advances user today K ctx ctx')
    (h' : ev.Advances user today K ctx' ctx'') : ev.Advances user today K ctx ctx'' where
  sound := h'.sound
  kept entry hentry := h'.kept entry (h.kept entry hentry)
  within id hid := (h'.within id hid).elim (h.within id) Or.inr

theorem Advances.contains (h : ev.Advances user today K ctx ctx') {id : FilterId}
    (hid : ctx.memo.contains id = true) : ctx'.memo.contains id = true := by
  obtain ⟨entry, hentry, hid⟩ := Index.contains_iff.1 hid
  exact Index.contains_iff.2 ⟨entry, h.kept entry hentry, hid⟩

/-- The run of a step that compiles a filter: if it succeeds, its predicate is remembered. -/
structure Tracks (ev : Evaluator) (user : Option ActingUser) (today : Day) (K : FilterId → Prop)
    (ctx : Context) (g : Filter) (run : Except FilterError Predicate × Context) : Prop where
  advances : ev.Advances user today K ctx run.2
  remembered : ∀ p, run.1 = .ok p → (g.id, p) ∈ run.2.memo

/-- All stored filters of a certain kind are compiled in this way, with so many levels left. -/
def TracksAll (ev : Evaluator) (user : Option ActingUser) (today : Day) (K : FilterId → Prop)
    (levels : Nat) : Prop :=
  ∀ g ∈ ev.filters, K g.id → ∀ ctx, ev.Sound user today ctx →
    ev.Tracks user today K ctx g ((ev.compileWithin levels g).runIn ctx)

/-- The filters of a kind consult no others. -/
def Closed (ev : Evaluator) (K : FilterId → Prop) : Prop :=
  ∀ g ∈ ev.filters, K g.id → ∀ h ∈ ev.consulted g, K h.id

section

variable (hev : ev.catalogs.handlers = Catalogs.standard.handlers)
include hev

/-! ### Conditions -/

theorem conditionPredicate_advances (hnested : ev.TracksAll user today K levels)
    (hK : ∀ g, ev.filters.consulted? ev.schema f.entityType c = some g → K g.id)
    (h : ev.Sound user today ctx) : ev.Advances user today K ctx
      ((ev.conditionPredicate f (ev.compileWithin levels) c).runIn ctx).2 := by
  have hc := conditionPredicate_cases hev user today f c
  cases hconsulted : ev.filters.consulted? ev.schema f.entityType c with
  | none =>
    rw [hconsulted] at hc
    obtain ⟨x, hx, heq⟩ := hc
    rw [heq]
    cases hx with
    | fails e config run =>
      rw [run ctx h.toServes]
      exact .refl h
    | gives hx =>
      obtain ⟨a, ctx', hrun, hmemo, hserves⟩ := hx.run ctx h.toServes
      rw [hrun]
      exact .of_memo_eq h hmemo hserves
  | some g =>
    rw [hconsulted] at hc
    obtain ⟨wrap, heq⟩ := hc
    rw [heq, runIn_map]
    exact (hnested g (FilterSet.mem_of_consulted? hconsulted) (hK g hconsulted) ctx h).advances

/-- A condition that succeeds leaves the filter that it consults in memory, and has the predicate
that follows from what is remembered of that. -/
theorem part?_of_runIn_eq_ok (hnested : ev.TracksAll user today K levels)
    (hK : ∀ g, ev.filters.consulted? ev.schema f.entityType c = some g → K g.id)
    (h : ev.Sound user today ctx)
    (hrun : (ev.conditionPredicate f (ev.compileWithin levels) c).runIn ctx = (.ok p, ctx')) :
    (∀ g, ev.filters.consulted? ev.schema f.entityType c = some g →
      ctx'.memo.contains g.id = true) ∧
    (ev.catalogs.registries.Unambiguous user today → ∀ sub : Filter → Predicate,
      (∀ g, ev.filters.consulted? ev.schema f.entityType c = some g → ∀ q, (g.id, q) ∈ ctx'.memo →
        sub g = q) → ev.part? user today sub f c = some p) := by
  have hc := conditionPredicate_cases hev user today f c
  cases hconsulted : ev.filters.consulted? ev.schema f.entityType c with
  | none =>
    rw [hconsulted] at hc
    obtain ⟨x, hx, heq⟩ := hc
    rw [heq] at hrun
    refine ⟨fun g hg => (by cases hg), fun hnames sub _ => ?_⟩
    unfold part?
    rw [heq]
    cases hx with
    | fails e config run =>
      rw [run ctx h.toServes] at hrun
      cases hrun
    | gives hx =>
      obtain ⟨a, ha⟩ := hx.same hnames
      have hp := ha ctx h.toServes
      rw [hrun] at hp
      cases hp
      rw [ha _ (Context.serves_fresh _ user today)]
      rfl
  | some g =>
    rw [hconsulted] at hc
    obtain ⟨wrap, heq⟩ := hc
    rw [heq, runIn_map] at hrun
    obtain ⟨q, hq, rfl⟩ := runIn_map_eq_ok hrun
    have htracks := hnested g (FilterSet.mem_of_consulted? hconsulted) (hK g hconsulted) ctx h
    rw [hq] at htracks
    have hremembered : (g.id, q) ∈ ctx'.memo := htracks.remembered q rfl
    refine ⟨fun g' hg' => ?_, fun _ sub hsub => ?_⟩
    · cases hg'
      exact Index.contains_iff.2 ⟨_, hremembered, rfl⟩
    · unfold part?
      rw [heq, runIn_map, hsub g rfl q hremembered]
      rfl

/-- A condition that is left out consults no filter, and is left out without a memory. -/
theorem part?_of_runIn_eq_error (h : ev.Sound user today ctx)
    (hrun : (ev.conditionPredicate f (ev.compileWithin levels) c).runIn ctx = (.error e, ctx'))
    (he : e.isConfig = true) :
    ev.filters.consulted? ev.schema f.entityType c = none ∧
      ∀ sub, ev.part? user today sub f c = none := by
  have hc := conditionPredicate_cases hev user today f c
  cases hconsulted : ev.filters.consulted? ev.schema f.entityType c with
  | none =>
    rw [hconsulted] at hc
    obtain ⟨x, hx, heq⟩ := hc
    rw [heq] at hrun
    refine ⟨rfl, fun sub => ?_⟩
    unfold part?
    rw [heq]
    cases hx with
    | fails e' config run =>
      rw [run _ (Context.serves_fresh _ user today)]
      rfl
    | gives hx =>
      obtain ⟨a, ctx₁, hok, -⟩ := hx.run ctx h.toServes
      rw [hok] at hrun
      cases hrun
  | some g =>
    rw [hconsulted] at hc
    obtain ⟨wrap, heq⟩ := hc
    rw [heq, runIn_map] at hrun
    rcases hnested : (ev.compileWithin levels g).runIn ctx with ⟨e' | q, ctx₁⟩
    · rw [hnested] at hrun
      cases hrun
      rw [isConfig_of_compileWithin hnested] at he
      cases he
    · rw [hnested] at hrun
      cases hrun

/-! ### Parts -/

theorem usableParts_advances (hnested : ev.TracksAll user today K levels) {l : List Condition}
    (hK : ∀ c ∈ l, ∀ g, ev.filters.consulted? ev.schema f.entityType c = some g → K g.id)
    (h : ev.Sound user today ctx) : ev.Advances user today K ctx
      ((ev.usableParts f (ev.compileWithin levels) l).runIn ctx).2 := by
  induction l generalizing ctx with
  | nil => exact .refl h
  | cons c l ih =>
    have hc := conditionPredicate_advances hev hnested (hK c List.mem_cons_self) h
    have hl := fun c hc => hK c (List.mem_cons_of_mem _ hc)
    rw [runIn_usableParts_cons]
    rcases hrun : (ev.conditionPredicate f (ev.compileWithin levels) c).runIn ctx with
      ⟨e | p, ctx₁⟩
    · rw [hrun] at hc
      dsimp only
      split
      next => exact hc.trans (ih hl hc.sound)
      next => exact hc
    · rw [hrun] at hc
      exact hc.trans (ih hl hc.sound)

/-- The parts of a filter leave the filters that it consults in memory, and are those that follow
from what is remembered of these. -/
theorem parts_of_runIn_eq_ok (hnested : ev.TracksAll user today K levels) {l : List Condition}
    {parts : List Predicate}
    (hK : ∀ c ∈ l, ∀ g, ev.filters.consulted? ev.schema f.entityType c = some g → K g.id)
    (h : ev.Sound user today ctx)
    (hrun : (ev.usableParts f (ev.compileWithin levels) l).runIn ctx = (.ok parts, ctx')) :
    (∀ c ∈ l, ∀ g, ev.filters.consulted? ev.schema f.entityType c = some g →
      ctx'.memo.contains g.id = true) ∧
    (ev.catalogs.registries.Unambiguous user today → ∀ sub : Filter → Predicate,
      (∀ c ∈ l, ∀ g, ev.filters.consulted? ev.schema f.entityType c = some g →
        ∀ q, (g.id, q) ∈ ctx'.memo → sub g = q) →
      parts = l.filterMap (ev.part? user today sub f)) := by
  induction l generalizing ctx parts with
  | nil =>
    cases hrun
    exact ⟨fun _ hc => absurd hc List.not_mem_nil, fun _ _ _ => rfl⟩
  | cons c l ih =>
    have hc := conditionPredicate_advances hev hnested (hK c List.mem_cons_self) h
    have hl := fun c hc => hK c (List.mem_cons_of_mem _ hc)
    rw [runIn_usableParts_cons] at hrun
    rcases hfirst : (ev.conditionPredicate f (ev.compileWithin levels) c).runIn ctx with
      ⟨e | p, ctx₁⟩
    · rw [hfirst] at hc hrun
      dsimp only at hrun
      split at hrun
      next he =>
        obtain ⟨hnone, hpart⟩ := part?_of_runIn_eq_error hev h hfirst he
        obtain ⟨hcontains, hparts⟩ := ih hl hc.sound hrun
        refine ⟨List.forall_mem_cons.2 ⟨fun g hg => ?_, hcontains⟩, fun hnames sub hsub => ?_⟩
        · rw [hnone] at hg
          cases hg
        · rw [List.filterMap_cons_none (hpart sub)]
          exact hparts hnames sub fun c hc => hsub c (List.mem_cons_of_mem _ hc)
      next => cases hrun
    · rw [hfirst] at hc hrun
      obtain ⟨rest, hrest, rfl⟩ := runIn_map_eq_ok hrun
      obtain ⟨hcontains₁, hpart⟩ :=
        part?_of_runIn_eq_ok hev hnested (hK c List.mem_cons_self) h hfirst
      obtain ⟨hcontains, hparts⟩ := ih hl hc.sound hrest
      have hadvances := usableParts_advances hev hnested hl hc.sound
      rw [hrest] at hadvances
      refine ⟨List.forall_mem_cons.2 ⟨fun g hg => hadvances.contains (hcontains₁ g hg),
        hcontains⟩, fun hnames sub hsub => ?_⟩
      have hsome : ev.part? user today sub f c = some p := hpart hnames sub fun g hg q hq =>
        hsub c List.mem_cons_self g hg q (hadvances.kept _ hq)
      rw [List.filterMap_cons_some hsome,
        hparts hnames sub fun c hc => hsub c (List.mem_cons_of_mem _ hc)]

/-! ### Filters -/

/-- A filter whose parts have been made is remembered with the predicate that it has without a
memory. -/
theorem sound_of_parts (hnested : ev.TracksAll user today K levels) {parts : List Predicate}
    (hf : f ∈ ev.filters) (hK : ∀ g ∈ ev.consulted f, K g.id) (h : ev.Sound user today ctx)
    (hrun : (ev.usableParts f (ev.compileWithin levels) f.conditions).runIn ctx =
      (.ok parts, ctx')) :
    ev.Sound user today
      { ctx' with memo := ctx'.memo.insert (f.id, combine f.useOr parts) } := by
  have hK' : ∀ c ∈ f.conditions, ∀ g, ev.filters.consulted? ev.schema f.entityType c = some g →
      K g.id := fun c hc g hg => hK g (mem_consulted hc hg)
  have hsound : ev.Sound user today ctx' := by
    have hadvances := usableParts_advances hev hnested hK' h
    rw [hrun] at hadvances
    exact hadvances.sound
  obtain ⟨hcontains, hparts⟩ := parts_of_runIn_eq_ok hev hnested hK' h hrun
  have hremembered : ∀ g ∈ ev.consulted f, ctx'.memo.contains g.id = true := by
    intro g hg
    obtain ⟨c, hc, hg⟩ := List.mem_filterMap.1 hg
    exact hcontains c hc g hg
  obtain ⟨n, hn⟩ : ∃ n, ∀ g ∈ ev.consulted f, ev.EndsWithin n g := by
    refine exists_endsWithin fun g hg => ?_
    obtain ⟨⟨id, p⟩, hp, rfl⟩ := Index.contains_iff.1 (hremembered g hg)
    obtain ⟨-, n, hn, -⟩ := hsound.of_mem (mem_filters_of_mem_consulted hg) hp
    exact ⟨n, hn⟩
  refine hsound.remember hf hremembered (n := n + 1) hn fun hnames => ?_
  unfold expanded
  rw [hparts hnames (ev.expanded user today n) fun c hc g hg q hq => ?_]
  obtain ⟨-, m, hm, hq⟩ := hsound.of_mem (FilterSet.mem_of_consulted? hg) hq
  rw [hq hnames]
  exact expanded_eq hev (hn g (mem_consulted hc hg)) hm

/-- **An evaluation keeps a context sound**, whether it succeeds or not, and adds nothing but what
lies below the filter. -/
theorem compileWithin_tracks (hK : ev.Closed K) (levels : Nat) :
    ev.TracksAll user today K levels := by
  induction levels with
  | zero =>
    intro g _ _ ctx h
    exact ⟨.refl h, fun p hp => nomatch hp⟩
  | succ levels ih =>
    intro g hg hKg ctx h
    cases hknown : ctx.memo.get? g.id with
    | some entry =>
      rw [runIn_compileWithin_known hknown]
      refine ⟨.refl h, fun p hp => ?_⟩
      cases hp
      obtain ⟨hentry, hid⟩ := Index.get?_eq_some_iff.1 hknown
      rw [← hid]
      exact hentry
    | none =>
      have hadvances := usableParts_advances hev ih (f := g) (l := g.conditions)
        (fun c hc h hh => hK g hg hKg h (mem_consulted hc hh)) h
      rw [runIn_compileWithin_new hknown]
      rcases hrun : (ev.usableParts g (ev.compileWithin levels) g.conditions).runIn ctx with
        ⟨e | parts, ctx₁⟩
      · rw [hrun] at hadvances
        exact ⟨hadvances, fun p hp => nomatch hp⟩
      · rw [hrun] at hadvances
        refine ⟨⟨sound_of_parts hev ih hg (hK g hg hKg) h hrun, fun entry hentry => ?_,
          fun id hid => ?_⟩, fun p hp => ?_⟩
        · exact Index.mem_insert.2 (Or.inr ⟨hadvances.kept entry hentry,
            Index.get?_eq_none_iff.1 hknown entry hentry⟩)
        · rcases Index.contains_insert.1 hid with rfl | hid
          · exact Or.inr hKg
          · exact hadvances.within id hid
        · cases hp
          exact Index.mem_insert.2 (Or.inl rfl)

theorem tracksAll (levels : Nat) : ev.TracksAll user today (fun _ => True) levels :=
  compileWithin_tracks hev (fun _ _ _ _ _ => trivial) levels

/-- A single condition keeps a context sound too. -/
theorem sound_conditionPredicate (levels : Nat) (f : Filter) (c : Condition)
    (h : ev.Sound user today ctx) :
    ev.Sound user today ((ev.conditionPredicate f (ev.compileWithin levels) c).runIn ctx).2 :=
  (conditionPredicate_advances hev (tracksAll hev levels) (fun _ _ => trivial) h).sound

/-- **What an evaluation answers** is the predicate of the filter as it is written out. -/
theorem expanded_of_runIn_eq_ok (h : ev.Sound user today ctx) (hf : f ∈ ev.filters)
    (hrun : (ev.compileWithin levels f).runIn ctx = (.ok p, ctx')) :
    ∃ n, ev.EndsWithin n f ∧
      (ev.catalogs.registries.Unambiguous user today → p = ev.expanded user today n f) := by
  have htracks := tracksAll hev levels f hf trivial ctx h
  rw [hrun] at htracks
  exact (htracks.advances.sound.of_mem hf (htracks.remembered p rfl)).2

end

end Evaluator

end RecordFilters
