import RecordFilters.Proofs.Evaluation.Depth
import RecordFilters.Proofs.Evaluation.Expanding

/-! # An evaluation stays below its filter

The checks on stored filters follow the ids that conditions name, while an evaluation follows the
filters that its handlers load. What a handler loads is named by its condition; so an evaluation
reads, and remembers, nothing but what those checks see below the filter.

* `Evaluator.Leads.eq_or_below`: what a filter leads to lies below it.
* `Evaluator.Confined`: what a run may do to a context on behalf of a filter.
* `Evaluator.compileWithin_confined`: an evaluation does no more, whether it succeeds or not.
* `Evaluator.compile_below`: two sets of filters that agree below a filter give it the same run, which
  remembers only what lies below it. -/

namespace RecordFilters

namespace Evaluator

variable {ev : Evaluator} {user : Option ActingUser} {today : Day} {f g : Filter} {c : Condition}
  {levels : Nat} {inner : Filter → Evaluation Predicate} {ctx ctx' : Context} {α β : Type}

/-! ### What is consulted, and what that consults -/

/-- Apart from the filter itself, it leads to stored filters below it. -/
theorem Leads.eq_or_below (h : ev.Leads f g) :
    g = f ∨ (g ∈ ev.filters ∧ ev.filters.Below f g.id) := by
  induction h with
  | refl => exact Or.inl rfl
  | @tail a b _ hb ih =>
    have hstored : b ∈ ev.filters := mem_filters_of_mem_consulted hb
    obtain ⟨c, hc, hconsulted⟩ := List.mem_filterMap.1 hb
    have hbelow : ev.filters.Below a b.id := FilterSet.below_of_consulted? hc hconsulted
    refine Or.inr ⟨hstored, ?_⟩
    rcases ih with rfl | ⟨ha, hfa⟩
    · exact hbelow
    · exact hfa.trans ((FilterSet.below_iff_reaches ha).1 hbelow)

/-! ### Runs on behalf of a filter -/

/-- What a run may do on behalf of a filter: it adds to the memory only filters to which that filter
leads. What it fails with is an error of configuration, or that one of those is too deep. -/
structure Confined (ev : Evaluator) (actor : Option ActingUser) (day : Day) (f : Filter)
    (ctx : Context) (run : Except FilterError α × Context) : Prop where
  serves : run.2.Serves ev.catalogs.registries actor day
  memo : ∀ entry ∈ run.2.memo, entry ∈ ctx.memo ∨ ∃ g, ev.Leads f g ∧ g.id = entry.1
  error : ∀ e, run.1 = .error e → e.isConfig = true ∨
    ∃ g, ev.Leads f g ∧ e = .validation (.tooDeep ev.maxDepth) [g.id]

/-- A run that resolves operands at most. -/
theorem Confined.of_memo_eq {run : Except FilterError α × Context}
    (hserves : run.2.Serves ev.catalogs.registries user today) (hmemo : run.2.memo = ctx.memo)
    (herror : ∀ e, run.1 = .error e → e.isConfig = true) : ev.Confined user today f ctx run where
  serves := hserves
  memo entry hentry := Or.inl (by rwa [hmemo] at hentry)
  error e he := Or.inl (herror e he)

/-- What is done on behalf of a filter that is consulted is done on behalf of the one that consults
it. -/
theorem Confined.of_consulted {run : Except FilterError α × Context}
    (h : ev.Confined user today g ctx run) (hg : g ∈ ev.consulted f) :
    ev.Confined user today f ctx run where
  serves := h.serves
  memo entry hentry := (h.memo entry hentry).imp_right
    fun ⟨g', hlead, hid⟩ => ⟨g', .head hg hlead, hid⟩
  error e he := (h.error e he).imp_right fun ⟨g', hlead, he⟩ => ⟨g', .head hg hlead, he⟩

theorem Confined.map {run : Except FilterError α × Context}
    (h : ev.Confined user today f ctx run) (k : α → β) :
    ev.Confined user today f ctx (run.1.map k, run.2) where
  serves := h.serves
  memo := h.memo
  error e he := h.error e (map_eq_error_iff.1 he)

/-- One run after another. -/
theorem Confined.trans {first : Except FilterError α × Context}
    {second : Except FilterError β × Context} (h : ev.Confined user today f ctx first)
    (h' : ev.Confined user today f first.2 second) : ev.Confined user today f ctx second where
  serves := h'.serves
  memo entry hentry := (h'.memo entry hentry).elim (h.memo entry) Or.inr
  error := h'.error

section

variable (hev : ev.catalogs.handlers = Catalogs.standard.handlers)
include hev

theorem conditionPredicate_confined (hc : c ∈ f.conditions)
    (hinner : ∀ g ∈ ev.consulted f, ev.Confined user today g ctx ((inner g).runIn ctx))
    (h : ctx.Serves ev.catalogs.registries user today) :
    ev.Confined user today f ctx ((ev.conditionPredicate f inner c).runIn ctx) := by
  have hcases := conditionPredicate_cases hev user today f c
  cases hconsulted : ev.filters.consulted? ev.schema f.entityType c with
  | none =>
    rw [hconsulted] at hcases
    obtain ⟨x, hx, heq⟩ := hcases
    rw [heq]
    cases hx with
    | fails e config run =>
      rw [run ctx h]
      refine .of_memo_eq h rfl fun e' he' => ?_
      cases he'
      exact config
    | gives hx =>
      obtain ⟨a, ctx', hrun, hmemo, hserves⟩ := hx.run ctx h
      rw [hrun]
      exact .of_memo_eq hserves hmemo fun e he => nomatch he
  | some g =>
    rw [hconsulted] at hcases
    obtain ⟨wrap, heq⟩ := hcases
    have hg : g ∈ ev.consulted f := mem_consulted hc hconsulted
    rw [heq, Evaluation.runIn_map]
    exact ((hinner g hg).of_consulted hg).map wrap

theorem usableParts_confined {l : List Condition} (hl : ∀ c ∈ l, c ∈ f.conditions)
    (hinner : ∀ g ∈ ev.consulted f, ∀ ctx : Context,
      ctx.Serves ev.catalogs.registries user today →
        ev.Confined user today g ctx ((inner g).runIn ctx))
    (h : ctx.Serves ev.catalogs.registries user today) :
    ev.Confined user today f ctx ((ev.usableParts f inner l).runIn ctx) := by
  induction l generalizing ctx with
  | nil => exact .of_memo_eq h rfl fun e he => nomatch he
  | cons c l ih =>
    have hc := conditionPredicate_confined hev (hl c List.mem_cons_self)
      (fun g hg => hinner g hg ctx h) h
    have hrest := hc.trans (ih (fun c hc => hl c (List.mem_cons_of_mem _ hc)) hc.serves)
    rw [runIn_usableParts_cons]
    rcases hrun : (ev.conditionPredicate f inner c).runIn ctx with ⟨e | p, ctx₁⟩
    · rw [hrun] at hc hrest
      dsimp only
      by_cases he : e.isConfig = true
      · rw [if_pos he]
        exact hrest
      · rw [if_neg he]
        refine ⟨hc.serves, hc.memo, fun e' he' => ?_⟩
        cases he'
        exact hc.error e rfl
    · rw [hrun] at hrest
      exact hrest.map (p :: ·)

/-- **An evaluation is confined to what its filter leads to**, however many levels are left. -/
theorem compileWithin_confined (levels : Nat) (f : Filter)
    (h : ctx.Serves ev.catalogs.registries user today) :
    ev.Confined user today f ctx ((ev.compileWithin levels f).runIn ctx) := by
  induction levels generalizing f ctx with
  | zero =>
    refine ⟨h, fun entry hentry => Or.inl hentry, fun e he => Or.inr ⟨f, .refl, ?_⟩⟩
    cases he
    rfl
  | succ levels ih =>
    cases hknown : ctx.memo.get? f.id with
    | some entry =>
      rw [runIn_compileWithin_known hknown]
      exact .of_memo_eq h rfl fun e he => nomatch he
    | none =>
      have hparts := usableParts_confined hev (f := f) (l := f.conditions) (fun c hc => hc)
        (fun g _ ctx h => ih g h) h
      rw [runIn_compileWithin_new hknown]
      rcases hrun : (ev.usableParts f (ev.compileWithin levels) f.conditions).runIn ctx with
        ⟨e | parts, ctx₁⟩
      · rw [hrun] at hparts
        refine ⟨hparts.serves, hparts.memo, fun e' he' => ?_⟩
        cases he'
        exact hparts.error e rfl
      · rw [hrun] at hparts
        refine ⟨hparts.serves.remember _ _, fun entry hentry => ?_, fun e he => nomatch he⟩
        rcases Index.mem_insert.1 hentry with rfl | ⟨hentry, -⟩
        · exact Or.inr ⟨f, .refl, rfl⟩
        · exact hparts.memo entry hentry

/-- **An evaluation follows only what the checks see.** Sets of filters that agree below a filter give
it the same run in every context: the same answer or the same error, and the same memory. In a fresh
context only the filter itself and stored filters below it are remembered. -/
theorem compile_below {s : FilterSet}
    (h : ∀ id, ev.filters.Below f id → s.get? id = ev.filters.get? id) :
    (∀ ctx, (compile { ev with filters := s } f).runIn ctx = (ev.compile f).runIn ctx) ∧
    ∀ user today, ∀ entry ∈ ((ev.compile f).runIn { user := user, today := today }).2.memo,
      entry.1 = f.id ∨ ∃ g ∈ ev.filters, g.id = entry.1 ∧ ev.filters.Below f g.id := by
  constructor
  · intro ctx
    rw [compile_congr (Catalogs.isLocal_of_handlers_eq hev) h]
  · intro user today entry hentry
    have hrun := compileWithin_confined hev (ev.maxDepth + 1) f
      (Context.serves_fresh ev.catalogs.registries user today)
    rcases hrun.memo entry hentry with hold | ⟨g, hlead, hid⟩
    · exact absurd hold Index.not_mem_empty
    · rcases hlead.eq_or_below with rfl | ⟨hg, hbelow⟩
      · exact Or.inl hid.symm
      · exact Or.inr ⟨g, hg, hid, hbelow⟩

end

/-- Those with the property and another filter, which nothing points at. -/
def besidesVips : FilterSet := .ofList [vips, vipsWithout]

/-- Only those with the property lie below those without. -/
theorem eq_of_below_withoutVips {id : FilterId} (h : nested.Below withoutVips id) : id = "vips" := by
  obtain ⟨sub, hsub, hway⟩ := h
  have hfirst : sub = "vips" := by
    have hids : withoutVips.subFilterIds = ["vips"] := by decide
    rwa [hids, List.mem_singleton] at hsub
  rcases hway.cases_head with rfl | ⟨b, hedge, -⟩
  · exact hfirst
  · have hvips : vips ∈ nested := Index.mem_of_get? (show nested.get? "vips" = some vips from rfl)
    rw [hfirst] at hedge
    have hb : b ∈ vips.subFilterIds := FilterSet.mem_subFilterIds_of_pointsAt hvips hedge
    have hids : vips.subFilterIds = [] := by decide
    rw [hids] at hb
    exact absurd hb List.not_mem_nil

/-- A set without the filter itself and with an unrelated one makes no difference. -/
theorem compile_below_withoutVips :
    (compile { office with filters := besidesVips } withoutVips).runIn newYear =
        (compile { office with filters := nested } withoutVips).runIn newYear ∧
      ∀ entry ∈ ((compile { office with filters := nested } withoutVips).runIn newYear).2.memo,
        entry.1 = "without" ∨ ∃ g ∈ nested, g.id = entry.1 ∧ nested.Below withoutVips g.id := by
  have hagree : ∀ id, nested.Below withoutVips id → besidesVips.get? id = nested.get? id := by
    intro id hid
    rw [eq_of_below_withoutVips hid]
    rfl
  obtain ⟨hsame, hmemo⟩ :=
    @compile_below { office with filters := nested } withoutVips rfl besidesVips hagree
  exact ⟨hsame newYear, hmemo none newYear.today⟩

end Evaluator

end RecordFilters
