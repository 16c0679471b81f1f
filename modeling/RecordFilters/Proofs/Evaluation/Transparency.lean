import RecordFilters.Proofs.Evaluation.Remembering

/-! # What is remembered makes no difference

A filter that can be evaluated in a fresh context can be evaluated in a used one, with the same
predicate; and what a used context answers is what a fresh one does that may go deep enough. A used
context answers more: a filter that is remembered hides how deep the filters below it are.

The predicates are the same where the types of the stored filters have no different operands under
one name. A context knows an operand by its name, so that two operands of one name can always be told
by questions that follow each other.

* `Evaluator.compileWithin_lifts`: an evaluation that succeeds does so with more in memory.
* `Evaluator.exists_of_endsWithin`: with enough levels a filter can be evaluated.
* `Evaluator.askAll`: the context after a sequence of questions.
* `Evaluator.askAll_withRegistries`: questions look up the registries of the stored filters.
* `Evaluator.compile_askAll`: a fresh context and one in which questions have been asked.
* `Evaluator.unambiguousAmong_of_compile_ask`: a name that stands for two things makes a
  difference. -/

namespace RecordFilters

namespace Evaluator

open Evaluation

variable {ev : Evaluator} {user : Option ActingUser} {today : Day} {f g : Filter} {c : Condition}
  {n levels : Nat} {ctx ctx' ctx₁ ctx₂ : Context} {p : Predicate}

/-! ### More in memory -/

/-- A context remembers no more filters than another. -/
def Fewer (ctx ctx' : Context) : Prop :=
  ∀ id, ctx.memo.contains id = true → ctx'.memo.contains id = true

/-- A step that succeeds does so with more in memory, and leaves more there. -/
def Lifts (ev : Evaluator) (user : Option ActingUser) (today : Day) {α : Type} (x : Evaluation α) :
    Prop :=
  ∀ ctx₁ ctx₂, ev.Sound user today ctx₁ → ev.Sound user today ctx₂ → Fewer ctx₁ ctx₂ →
    ∀ a ctx₁', x.runIn ctx₁ = (.ok a, ctx₁') →
      ∃ a' ctx₂', x.runIn ctx₂ = (.ok a', ctx₂') ∧ Fewer ctx₁' ctx₂'

/-- A run of a condition after which the other conditions of the filter are gone through. -/
def Passes (run : Except FilterError Predicate × Context) : Prop :=
  ∀ e, run.1 = .error e → e.isConfig = true

/-- Parts are made of a list of conditions if the first of them passes and the others have parts. -/
theorem exists_parts_cons_iff {nested : Filter → Evaluation Predicate} {l : List Condition} :
    (∃ parts, (ev.usableParts f nested (c :: l)).runIn ctx = (.ok parts, ctx')) ↔
      Passes ((ev.conditionPredicate f nested c).runIn ctx) ∧
        ∃ rest, (ev.usableParts f nested l).runIn
          ((ev.conditionPredicate f nested c).runIn ctx).2 = (.ok rest, ctx') := by
  rw [runIn_usableParts_cons]
  unfold Passes
  rcases (ev.conditionPredicate f nested c).runIn ctx with ⟨e | p, ctx₁⟩
  · by_cases he : e.isConfig = true
    · simp [he]
    · simp [he]
  · constructor
    · rintro ⟨parts, hparts⟩
      obtain ⟨rest, hrest, -⟩ := runIn_map_eq_ok hparts
      exact ⟨fun e he => (nomatch he), rest, hrest⟩
    · rintro ⟨-, rest, hrest⟩
      dsimp only at hrest ⊢
      rw [hrest]
      exact ⟨_, rfl⟩

section

variable (hev : ev.catalogs.handlers = Catalogs.standard.handlers)
include hev

/-- A condition that consults no filter passes or not whatever is remembered, and adds nothing. -/
theorem passes_of_consulted?_eq_none
    (hnone : ev.filters.consulted? ev.schema f.entityType c = none)
    (nested : Filter → Evaluation Predicate) (h : ev.Sound user today ctx) :
    Passes ((ev.conditionPredicate f nested c).runIn ctx) ∧
      ((ev.conditionPredicate f nested c).runIn ctx).2.memo = ctx.memo := by
  have hc := conditionPredicate_cases hev user today f c
  rw [hnone] at hc
  obtain ⟨x, hx, heq⟩ := hc
  rw [heq]
  cases hx with
  | fails e config run =>
    rw [run ctx h.toServes]
    refine ⟨fun e' he' => ?_, rfl⟩
    cases he'
    exact config
  | gives hx =>
    obtain ⟨a, ctx', hrun, hmemo, -⟩ := hx.run ctx h.toServes
    rw [hrun]
    exact ⟨fun e he => (nomatch he), hmemo⟩

/-- A condition on another filter passes if that filter can be evaluated. -/
theorem passes_of_consulted? (hg : ev.filters.consulted? ev.schema f.entityType c = some g)
    (levels : Nat) (ctx : Context) :
    (Passes ((ev.conditionPredicate f (ev.compileWithin levels) c).runIn ctx) ↔
      ∃ p, ((ev.compileWithin levels g).runIn ctx).1 = .ok p) ∧
    ((ev.conditionPredicate f (ev.compileWithin levels) c).runIn ctx).2 =
      ((ev.compileWithin levels g).runIn ctx).2 := by
  have hc := conditionPredicate_cases hev (none : Option ActingUser) ctx.today f c
  rw [hg] at hc
  obtain ⟨wrap, heq⟩ := hc
  rw [heq, runIn_map]
  refine ⟨?_, rfl⟩
  unfold Passes
  rcases hrun : (ev.compileWithin levels g).runIn ctx with ⟨e | p, ctx₁⟩
  · have he := isConfig_of_compileWithin hrun
    simp [Except.map, he]
  · simp [Except.map]

theorem conditionPredicate_lifts
    (hnested : ∀ g ∈ ev.filters, ev.Lifts user today (ev.compileWithin levels g))
    (h₁ : ev.Sound user today ctx₁) (h₂ : ev.Sound user today ctx₂) (hfewer : Fewer ctx₁ ctx₂)
    (hpasses : Passes ((ev.conditionPredicate f (ev.compileWithin levels) c).runIn ctx₁)) :
    Passes ((ev.conditionPredicate f (ev.compileWithin levels) c).runIn ctx₂) ∧
      Fewer ((ev.conditionPredicate f (ev.compileWithin levels) c).runIn ctx₁).2
        ((ev.conditionPredicate f (ev.compileWithin levels) c).runIn ctx₂).2 := by
  cases hconsulted : ev.filters.consulted? ev.schema f.entityType c with
  | none =>
    obtain ⟨-, hmemo₁⟩ :=
      passes_of_consulted?_eq_none hev hconsulted (ev.compileWithin levels) h₁
    obtain ⟨hpasses₂, hmemo₂⟩ :=
      passes_of_consulted?_eq_none hev hconsulted (ev.compileWithin levels) h₂
    refine ⟨hpasses₂, ?_⟩
    unfold Fewer
    rw [hmemo₁, hmemo₂]
    exact hfewer
  | some g =>
    obtain ⟨hiff₁, hctx₁⟩ := passes_of_consulted? hev hconsulted levels ctx₁
    obtain ⟨hiff₂, hctx₂⟩ := passes_of_consulted? hev hconsulted levels ctx₂
    obtain ⟨p₁, hp₁⟩ := hiff₁.1 hpasses
    obtain ⟨p₂, ctx₂', hrun₂, hfewer'⟩ := hnested g (FilterSet.mem_of_consulted? hconsulted)
      ctx₁ ctx₂ h₁ h₂ hfewer p₁ _ (Prod.ext hp₁ rfl)
    rw [hctx₁, hctx₂, hiff₂, hrun₂]
    exact ⟨⟨p₂, rfl⟩, hfewer'⟩

theorem usableParts_lifts
    (hnested : ∀ g ∈ ev.filters, ev.Lifts user today (ev.compileWithin levels g))
    (l : List Condition) : ev.Lifts user today (ev.usableParts f (ev.compileWithin levels) l) := by
  induction l with
  | nil =>
    intro ctx₁ ctx₂ _ _ hfewer a ctx₁' hrun
    cases hrun
    exact ⟨[], ctx₂, rfl, hfewer⟩
  | cons c l ih =>
    intro ctx₁ ctx₂ h₁ h₂ hfewer parts ctx₁' hrun
    obtain ⟨hpasses, rest, hrest⟩ := exists_parts_cons_iff.1 ⟨parts, hrun⟩
    obtain ⟨hpasses₂, hfewer'⟩ := conditionPredicate_lifts hev hnested h₁ h₂ hfewer hpasses
    obtain ⟨rest₂, ctx₂', hrest₂, hfewer₂⟩ := ih _ _
      (sound_conditionPredicate hev levels f c h₁) (sound_conditionPredicate hev levels f c h₂)
      hfewer' rest ctx₁' hrest
    obtain ⟨parts₂, hrun₂⟩ := exists_parts_cons_iff.2 ⟨hpasses₂, rest₂, hrest₂⟩
    exact ⟨parts₂, ctx₂', hrun₂, hfewer₂⟩

/-- **An evaluation that succeeds does so with more in memory.** What is remembered takes no filter
deeper: the filters below it are remembered too, so none of them is made anew. -/
theorem compileWithin_lifts (levels : Nat) :
    ∀ g ∈ ev.filters, ev.Lifts user today (ev.compileWithin levels g) := by
  induction levels with
  | zero =>
    intro g _ ctx₁ ctx₂ _ _ _ p ctx₁' hrun
    cases hrun
  | succ levels ih =>
    intro g hg ctx₁ ctx₂ h₁ h₂ hfewer p ctx₁' hrun
    cases hknown₂ : ctx₂.memo.get? g.id with
    | some entry =>
      -- The second run adds nothing. What the first adds lies below the filter, and so among what
      -- the second context remembers, which is closed.
      refine ⟨entry.2, ctx₂, runIn_compileWithin_known hknown₂, fun id hid => ?_⟩
      have hcontains : ctx₂.memo.contains g.id = true := by
        rw [Index.contains, hknown₂]
        rfl
      have htracks := compileWithin_tracks (K := fun id => ctx₂.memo.contains id = true) hev
        (fun _ hh hcontains _ hk => h₂.closed hh hcontains hk) (levels + 1) g hg hcontains ctx₁ h₁
      rw [hrun] at htracks
      exact (htracks.advances.within id hid).elim (hfewer id) fun h => h
    | none =>
      have hknown₁ : ctx₁.memo.get? g.id = none := by
        by_contra hsome
        have hcontains := hfewer g.id (Option.isSome_iff_ne_none.2 hsome)
        rw [Index.contains, hknown₂] at hcontains
        cases hcontains
      rw [runIn_compileWithin_new hknown₁] at hrun
      rw [runIn_compileWithin_new hknown₂]
      rcases hparts : (ev.usableParts g (ev.compileWithin levels) g.conditions).runIn ctx₁ with
        ⟨e | parts, ctx₃⟩
      · rw [hparts] at hrun
        cases hrun
      · rw [hparts] at hrun
        cases hrun
        obtain ⟨parts₂, ctx₄, hrun₂, hfewer'⟩ :=
          usableParts_lifts hev ih g.conditions ctx₁ ctx₂ h₁ h₂ hfewer parts ctx₃ hparts
        rw [hrun₂]
        refine ⟨_, _, rfl, fun id hid => ?_⟩
        rcases Index.contains_insert.1 hid with rfl | hid
        · exact Index.contains_insert.2 (Or.inl rfl)
        · exact Index.contains_insert.2 (Or.inr (hfewer' id hid))

/-! ### Enough levels -/

theorem exists_parts_of_consulted {l : List Condition}
    (hnested : ∀ c ∈ l, ∀ g, ev.filters.consulted? ev.schema f.entityType c = some g →
      ∀ ctx, ev.Sound user today ctx → ∃ p, ((ev.compileWithin levels g).runIn ctx).1 = .ok p)
    (h : ev.Sound user today ctx) :
    ∃ ctx' parts, (ev.usableParts f (ev.compileWithin levels) l).runIn ctx = (.ok parts, ctx') := by
  induction l generalizing ctx with
  | nil => exact ⟨ctx, [], rfl⟩
  | cons c l ih =>
    have hpasses : Passes ((ev.conditionPredicate f (ev.compileWithin levels) c).runIn ctx) := by
      cases hconsulted : ev.filters.consulted? ev.schema f.entityType c with
      | none => exact (passes_of_consulted?_eq_none hev hconsulted _ h).1
      | some g =>
        exact (passes_of_consulted? hev hconsulted levels ctx).1.2
          (hnested c List.mem_cons_self g hconsulted ctx h)
    obtain ⟨ctx', rest, hrest⟩ := ih (fun c hc => hnested c (List.mem_cons_of_mem _ hc))
      (sound_conditionPredicate hev levels f c h)
    exact ⟨ctx', exists_parts_cons_iff.2 ⟨hpasses, rest, hrest⟩⟩

/-- **With enough levels a filter can be evaluated**, whatever is remembered. -/
theorem exists_of_endsWithin (hn : ev.EndsWithin n f) (h : ev.Sound user today ctx) :
    ∃ p, ((ev.compileWithin n f).runIn ctx).1 = .ok p := by
  induction n generalizing f ctx with
  | zero => exact hn.elim
  | succ n ih =>
    cases hknown : ctx.memo.get? f.id with
    | some entry => exact ⟨entry.2, by rw [runIn_compileWithin_known hknown]⟩
    | none =>
      obtain ⟨ctx', parts, hparts⟩ := exists_parts_of_consulted hev (f := f) (l := f.conditions)
        (fun c hc g hg ctx h => ih (hn g (mem_consulted hc hg)) h) h
      exact ⟨combine f.useOr parts, by rw [runIn_compileWithin_new hknown, hparts]⟩

end

/-! ### Evaluations in one context -/

/-- What can be asked about a filter. -/
inductive Question
  | predicate (f : Filter)
  | apply (f : Filter) (storage : Storage)
  | conditionErrors (f : Filter)

/-- The filter that is asked about. -/
def Question.filter : Question → Filter
  | .predicate f | .apply f _ | .conditionErrors f => f

/-- The context that a question leaves, whether it can be answered or not. -/
def ask (ev : Evaluator) (ctx : Context) : Question → Context
  | .predicate f => ((ev.compile f).runIn ctx).2
  | .apply f storage => (ev.apply f ctx storage).2.1
  | .conditionErrors f => (ev.conditionErrors f ctx).2

/-- The context after a sequence of questions. -/
def askAll (ev : Evaluator) (ctx : Context) (questions : List Question) : Context :=
  questions.foldl ev.ask ctx

theorem apply_snd (f : Filter) (ctx : Context) (storage : Storage) :
    (ev.apply f ctx storage).2.1 = ((ev.compile f).runIn ctx).2 := by
  unfold apply
  rcases (ev.compile f).runIn ctx with ⟨e | p, ctx'⟩
  · rfl
  · dsimp only
    split <;> rfl

section

variable (hev : ev.catalogs.handlers = Catalogs.standard.handlers)
include hev

theorem sound_compile (hf : f ∈ ev.filters) (h : ev.Sound user today ctx) :
    ev.Sound user today ((ev.compile f).runIn ctx).2 :=
  (tracksAll hev _ f hf trivial ctx h).advances.sound

theorem sound_errorsFrom (position : Nat) (l : List Condition) (h : ev.Sound user today ctx) :
    ev.Sound user today (ev.errorsFrom f position ctx l).2 := by
  induction l generalizing position ctx with
  | nil => exact h
  | cons c l ih =>
    have hrest := ih (position + 1) (sound_conditionPredicate hev ev.maxDepth f c h)
    unfold errorsFrom
    dsimp only
    split <;> exact hrest

/-- A question about a stored filter leaves a sound context. -/
theorem sound_ask {question : Question} (hf : question.filter ∈ ev.filters)
    (h : ev.Sound user today ctx) : ev.Sound user today (ev.ask ctx question) := by
  cases question with
  | predicate f => exact sound_compile hev hf h
  | apply f storage =>
    show ev.Sound user today (ev.apply f ctx storage).2.1
    rw [apply_snd]
    exact sound_compile hev hf h
  | conditionErrors f => exact sound_errorsFrom hev 0 f.conditions h

/-- **So do all questions about stored filters.** -/
theorem sound_askAll {questions : List Question}
    (hstored : ∀ question ∈ questions, question.filter ∈ ev.filters)
    (h : ev.Sound user today ctx) : ev.Sound user today (ev.askAll ctx questions) := by
  induction questions generalizing ctx with
  | nil => exact h
  | cons question questions ih =>
    exact ih (fun q hq => hstored q (List.mem_cons_of_mem _ hq))
      (sound_ask hev (hstored question List.mem_cons_self) h)

section

variable {r : RegistryCatalog}
  (hsame : ∀ g ∈ ev.filters, r.get? g.filterType = ev.catalogs.registries.get? g.filterType)
include hsame

theorem errorsFrom_withRegistries (hf : f ∈ ev.filters) (position : Nat) (l : List Condition) :
    (ev.withRegistries r).errorsFrom f position ctx l = ev.errorsFrom f position ctx l := by
  induction l generalizing position ctx with
  | nil => rfl
  | cons c l ih =>
    have hc : (ev.withRegistries r).conditionPredicate f
        ((ev.withRegistries r).compileWithin (ev.withRegistries r).maxDepth) c =
          ev.conditionPredicate f (ev.compileWithin ev.maxDepth) c := by
      rw [conditionPredicate_withRegistries (hsame f hf)]
      exact conditionPredicate_eq_of_consulted hev fun g hg =>
        compileWithin_withRegistries_of_mem hev hsame _ (FilterSet.mem_of_consulted? hg)
    unfold errorsFrom
    rw [hc]
    simp only [ih]

/-- Questions about stored filters look up the registries of these only. -/
theorem ask_withRegistries (ctx : Context) {question : Question}
    (hf : question.filter ∈ ev.filters) :
    (ev.withRegistries r).ask ctx question = ev.ask ctx question := by
  have hcompile : ∀ g ∈ ev.filters, (ev.withRegistries r).compile g = ev.compile g :=
    fun g hg => compileWithin_withRegistries_of_mem hev hsame _ hg
  cases question with
  | predicate f =>
    show (((ev.withRegistries r).compile f).runIn ctx).2 = _
    rw [hcompile f hf]
    rfl
  | apply f storage =>
    show ((ev.withRegistries r).apply f ctx storage).2.1 = (ev.apply f ctx storage).2.1
    rw [apply_snd, apply_snd, hcompile f hf]
  | conditionErrors f =>
    exact congrArg Prod.snd (errorsFrom_withRegistries hev hsame hf 0 f.conditions)

theorem askAll_withRegistries {questions : List Question}
    (hstored : ∀ question ∈ questions, question.filter ∈ ev.filters) :
    (ev.withRegistries r).askAll ctx questions = ev.askAll ctx questions := by
  unfold askAll
  induction questions generalizing ctx with
  | nil => rw [List.foldl_nil, List.foldl_nil]
  | cons question questions ih =>
    rw [List.foldl_cons, List.foldl_cons,
      ask_withRegistries hev hsame ctx (hstored question List.mem_cons_self),
      ih fun q hq => hstored q (List.mem_cons_of_mem _ hq)]

end

/-- A filter that can be evaluated in a fresh context can be evaluated in a used one, with the same
predicate. -/
theorem compile_of_fresh (h : ev.Sound user today ctx) (hf : f ∈ ev.filters)
    (hfresh : ((ev.compile f).runIn { user := user, today := today }).1 = .ok p) :
    ∃ p', ((ev.compile f).runIn ctx).1 = .ok p' ∧
      (ev.catalogs.registries.Unambiguous user today → p' = p) := by
  have hsound := ev.sound_fresh user today
  have hnothing : Fewer { user := user, today := today } ctx := by
    intro id hid
    obtain ⟨entry, hentry, -⟩ := Index.contains_iff.1 hid
    exact absurd hentry Index.not_mem_empty
  have hrun : (ev.compile f).runIn { user := user, today := today } = (.ok p, _) :=
    Prod.ext hfresh rfl
  obtain ⟨p', ctx', hrun', -⟩ := compileWithin_lifts hev _ f hf _ ctx hsound h hnothing p _ hrun
  obtain ⟨n, hn, hp⟩ := expanded_of_runIn_eq_ok hev hsound hf hrun
  obtain ⟨m, hm, hp'⟩ := expanded_of_runIn_eq_ok hev h hf hrun'
  refine ⟨p', congrArg Prod.fst hrun', fun hnames => ?_⟩
  rw [hp hnames, hp' hnames, expanded_eq hev hn hm]

/-- A fresh context that may go deep enough answers with the predicate that the filter has without a
memory. -/
theorem compile_fresh_of_endsWithin (hf : f ∈ ev.filters) (hn : ev.EndsWithin n f)
    (hdeep : n ≤ ev.maxDepth) :
    ∃ p, ((ev.compile f).runIn { user := user, today := today }).1 = .ok p ∧
      (ev.catalogs.registries.Unambiguous user today → p = ev.expanded user today n f) := by
  have hsound := ev.sound_fresh user today
  obtain ⟨p, hp⟩ := exists_of_endsWithin hev (hn.mono (Nat.le_succ_of_le hdeep)) hsound
  obtain ⟨m, hm, hexpanded⟩ := expanded_of_runIn_eq_ok hev hsound hf (Prod.ext hp rfl)
  refine ⟨p, hp, fun hnames => ?_⟩
  rw [hexpanded hnames, expanded_eq hev hm hn]

/-- A filter that can be evaluated in a used context can be evaluated in a fresh one that may go
deep enough, with the same predicate. -/
theorem exists_compile_fresh (h : ev.Sound user today ctx) (hf : f ∈ ev.filters)
    (hused : ((ev.compile f).runIn ctx).1 = .ok p) :
    ∃ n, ∀ maxDepth ≥ n, ∃ p',
      ((compile { ev with maxDepth := maxDepth } f).runIn { user := user, today := today }).1 =
        .ok p' ∧ (ev.catalogs.registries.Unambiguous user today → p' = p) := by
  have hrun : (ev.compile f).runIn ctx = (.ok p, _) := Prod.ext hused rfl
  obtain ⟨n, hn, hp⟩ := expanded_of_runIn_eq_ok hev h hf hrun
  refine ⟨n, fun maxDepth hdeep => ?_⟩
  have hev' : ({ ev with maxDepth := maxDepth } : Evaluator).catalogs.handlers =
      Catalogs.standard.handlers := hev
  obtain ⟨p', hp', hexpanded⟩ :=
    compile_fresh_of_endsWithin hev' hf (endsWithin_of_maxDepth hn maxDepth) hdeep
  refine ⟨p', hp', fun hnames => ?_⟩
  rw [hexpanded hnames, expanded_of_maxDepth, hp hnames]

/-- **What is remembered makes no difference.** After any questions about stored filters, some of
which may have failed, a stored filter that can be evaluated in a fresh context is answered with the
same predicate, and whatever is answered is what a fresh context answers that may go deep enough.
Each operand has been resolved at most once. A context knows an operand by its name, so that the
types of the stored filters may not hold different ones under one name. -/
theorem compile_askAll {questions : List Question}
    (hnames : ev.catalogs.registries.UnambiguousAmong ev.filters.types user today)
    (hstored : ∀ question ∈ questions, question.filter ∈ ev.filters) :
    let fresh : Context := { user := user, today := today }
    let used := ev.askAll fresh questions
    (∀ f ∈ ev.filters, ∀ p, ((ev.compile f).runIn fresh).1 = .ok p →
      ((ev.compile f).runIn used).1 = .ok p) ∧
    (∀ f ∈ ev.filters, ∀ p, ((ev.compile f).runIn used).1 = .ok p →
      ∃ n, ∀ maxDepth ≥ n,
        ((compile { ev with maxDepth := maxDepth } f).runIn fresh).1 = .ok p) ∧
    used.resolutions = used.resolved.size ∧
      ∀ entry ∈ used.resolved, ev.catalogs.registries.Resolves user today entry := by
  intro fresh used
  have hsound : ev.Sound user today used := sound_askAll hev hstored (ev.sound_fresh user today)
  -- the registries of other types are never looked up, so that they may as well be left out
  let ev' := ev.withRegistries (ev.catalogs.registries.only ev.filters.types)
  have hev' : ev'.catalogs.handlers = Catalogs.standard.handlers := hev
  have hsame : ∀ g ∈ ev.filters, (ev.catalogs.registries.only ev.filters.types).get?
      g.filterType = ev.catalogs.registries.get? g.filterType :=
    fun g hg => RegistryCatalog.get?_only ⟨g, hg, rfl⟩
  have hcompile : ∀ f ∈ ev.filters, ev'.compile f = ev.compile f :=
    fun f hf => compileWithin_withRegistries_of_mem hev hsame _ hf
  have hsound' : ev'.Sound user today used := by
    have hused : ev'.askAll fresh questions = used := askAll_withRegistries hev hsame hstored
    rw [← hused]
    exact sound_askAll hev' hstored (ev'.sound_fresh user today)
  refine ⟨fun f hf p hp => ?_, fun f hf p hp => ?_, hsound.counted, hsound.resolves⟩
  · rw [← hcompile f hf] at hp ⊢
    obtain ⟨p', hp', heq⟩ := compile_of_fresh hev' hsound' hf hp
    rw [hp', heq hnames.only]
  · rw [← hcompile f hf] at hp
    obtain ⟨n, hn⟩ := exists_compile_fresh hev' hsound' hf hp
    refine ⟨n, fun maxDepth hdeep => ?_⟩
    obtain ⟨p', hp', heq⟩ := hn maxDepth hdeep
    have hdeeper : compile { ev' with maxDepth := maxDepth } f =
        compile { ev with maxDepth := maxDepth } f :=
      @compileWithin_withRegistries_of_mem { ev with maxDepth := maxDepth } _ _ hev hsame _ hf
    rw [← hdeeper, hp', heq hnames.only]

end

def middleTeam : Filter := underBoss "middle" [.onSubFilter "leaf"]

def topTeam : Filter := underBoss "top" [.onSubFilter "middle"]

/-- Three filters, one below the other, of which two may be followed at a time. -/
def teams : Evaluator where
  catalogs := .standard
  schema := {
    entityTypes := .ofList [⟨"person", .ofList [{ name := "boss", kind := .reference }]⟩] }
  filters := .ofList [leafTeam, middleTeam, topTeam]
  maxDepth := 1

/-- The same context after it has been asked for the filter at the top, which is too deep, and for
the one in the middle. -/
def annsUsedContext : Context :=
  teams.askAll annsContext [.predicate topTeam, .predicate middleTeam]

theorem compile_askAll_teams :
    teams.catalogs.registries.UnambiguousAmong teams.filters.types annsContext.user
      annsContext.today ∧
    (∀ p, ((teams.compile topTeam).runIn annsContext).1 ≠ .ok p) ∧
    (∃ p, ((teams.compile topTeam).runIn annsUsedContext).1 = .ok p ∧ ∃ n, ∀ maxDepth ≥ n,
      ((compile { teams with maxDepth := maxDepth } topTeam).runIn annsContext).1 = .ok p) ∧
    annsUsedContext.resolutions = annsUsedContext.resolved.size ∧
    annsUsedContext.resolutions = 1 := by
  have htop : topTeam ∈ teams.filters :=
    Index.mem_of_get? (show teams.filters.get? "top" = some topTeam from rfl)
  have hmiddle : middleTeam ∈ teams.filters :=
    Index.mem_of_get? (show teams.filters.get? "middle" = some middleTeam from rfl)
  have hhandlers : teams.catalogs.handlers = Catalogs.standard.handlers := rfl
  have hnames : teams.catalogs.registries.UnambiguousAmong teams.filters.types annsContext.user
      annsContext.today :=
    (RegistryCatalog.unambiguous_standard _ _).among _
  have hstored : ∀ question ∈ [Question.predicate topTeam, .predicate middleTeam],
      question.filter ∈ teams.filters := by
    intro question hquestion
    simp only [List.mem_cons, List.not_mem_nil, or_false] at hquestion
    rcases hquestion with rfl | rfl
    · exact htop
    · exact hmiddle
  obtain ⟨-, hdeep, hcounted, -⟩ := compile_askAll hhandlers hnames hstored
  have hfails : ((teams.compile topTeam).runIn annsContext).1.toBool = false := by
    cbv
  have hanswers : ((teams.compile topTeam).runIn annsUsedContext).1.toBool = true := by
    cbv
  have hone : annsUsedContext.resolutions = 1 := by
    cbv
  refine ⟨hnames, fun p hp => ?_, ?_, hcounted, hone⟩
  · rw [hp] at hfails
    cases hfails
  · cases hp : ((teams.compile topTeam).runIn annsUsedContext).1 with
    | error e =>
      rw [hp] at hanswers
      cases hanswers
    | ok p =>
      exact ⟨p, rfl, hdeep topTeam htop p hp⟩

/-- **An operand resolved before gives its values to another of its name**: after a question about a
filter of one type, a filter of another is answered with a predicate that no fresh context makes of
it, however deep that may go. -/
theorem compile_leafTeam_ne :
    branches.catalogs.handlers = Catalogs.standard.handlers ∧
    headsTeam ∈ branches.filters ∧ leafTeam ∈ branches.filters ∧
    (∀ maxDepth, ((compile { branches with maxDepth := maxDepth } leafTeam).runIn annsContext).1 =
      .ok (.compare (.field "boss") .equals [.text "ann"])) ∧
    ((branches.compile leafTeam).runIn (branches.askAll annsContext [.predicate headsTeam])).1 =
      .ok (.compare (.field "boss") .equals [.text "eve"]) := by
  refine ⟨rfl, ?_, ?_, fun maxDepth => rfl, rfl⟩
  · exact Index.mem_of_get? (show branches.filters.get? "heads" = some headsTeam from rfl)
  · exact Index.mem_of_get? (show branches.filters.get? "leaf" = some leafTeam from rfl)

end Evaluator

/-! ### Names that stand for two things -/

/-- What is resolved under the name of an operand is not resolved again. -/
theorem Evaluation.runIn_resolve_known {o : Operand} {ctx : Context} {values : List Value}
    (h : ctx.resolved.get? o.typeId = some (o.typeId, values)) :
    (resolve o).runIn ctx = (.ok values, ctx) := by
  unfold resolve
  rw [runIn_bind_ok runIn_get, h]
  rfl

theorem PredicateScope.runIn_resolveValues_operand {scope : PredicateScope} {o : Operand}
    {values : List Value} {ctx ctx' : Context} (ho : scope.operand? (.text o.typeId) = some o)
    (hresolve : (Evaluation.resolve o).runIn ctx = (.ok values, ctx')) :
    (scope.resolveValues [.text o.typeId]).runIn ctx = (.ok values, ctx') := by
  rw [resolveValues, ho, Evaluation.runIn_bind_ok hresolve, resolveValues]
  dsimp only
  rw [pure_bind, List.append_nil]
  rfl

open Evaluation in
/-- A field is compared with the values as they are resolved. -/
theorem Handler.runIn_fieldPredicate {scope : PredicateScope} {c : Condition} {id : OperatorId}
    {operator : Operator} {field : Field} {stored values : List Value} {ctx ctx' : Context}
    (hpayload : c.payload = .comparison id stored)
    (hfield : regularField scope.schema scope.entityType c.reference = .ok field)
    (hoperator : scope.operators.get? id = some operator)
    (hvalues : (scope.resolveValues stored).runIn ctx = (.ok values, ctx')) :
    (fieldPredicate scope c).runIn ctx =
      (.ok (operator.build (.field c.reference) values), ctx') := by
  unfold fieldPredicate storedOperator
  rw [hpayload, hfield]
  dsimp only
  rw [hoperator, ofExcept_ok_bind, ofExcept_ok_bind, runIn_bind_ok hvalues]
  rfl

namespace Evaluator

open Evaluation

variable {ev : Evaluator} {user : Option ActingUser} {today : Day} {ctx ctx' : Context}

/-- Those with one of some bosses, as a filter of a type. -/
def bossAmong (bosses : List Value) (id : FilterId) (filterType : FilterType) : Filter where
  id := id
  name := "Team"
  entityType := "person"
  filterType := filterType
  conditions := [⟨.field, "boss", .comparison 1 bosses, rfl⟩]
  conditions_ne_nil := List.cons_ne_nil _ _

/-- Two filters, with any catalogs. -/
def pairOf (catalogs : Catalogs) (f g : Filter) : Evaluator :=
  { teams with catalogs := catalogs, filters := .ofList [f, g] }

/-- The name of an operand is compared as what the operand is resolved to. -/
theorem runIn_compile_bossAmong (hev : ev.catalogs.HasStandard) (hschema : ev.schema = teams.schema)
    {registry : Registry} {o : Operand} {values : List Value}
    (hregistry : registry ∈ ev.catalogs.registries) (ho : o ∈ registry.operands) (id : FilterId)
    (hnew : ctx.memo.get? id = none) (hresolve : (resolve o).runIn ctx = (.ok values, ctx')) :
    (ev.compile (bossAmong [.text o.typeId] id registry.filterType)).runIn ctx =
      (.ok (.compare (.field "boss") .equals values),
        { ctx' with memo := ctx'.memo.insert (id, .compare (.field "boss") .equals values) }) := by
  let team := bossAmong [.text o.typeId] id registry.filterType
  let nested := ev.compileWithin ev.maxDepth
  let condition : Condition := ⟨.field, "boss", .comparison 1 [.text o.typeId], rfl⟩
  have hfield : Handler.regularField (ev.scope team nested).schema "person" "boss" =
      .ok { name := "boss", kind := .reference } := by
    unfold scope
    rw [hschema]
    rfl
  have hoperator : (ev.scope team nested).operators.get? 1 = OperatorCatalog.standard.get? 1 := by
    unfold scope
    rw [hev.operators]
  have hnamed : (ev.scope team nested).operand? (.text o.typeId) = some o :=
    Option.bind_eq_some_iff.2 ⟨registry, Index.get?_eq_some_iff.2 ⟨hregistry, rfl⟩,
      Index.get?_eq_some_iff.2 ⟨ho, rfl⟩⟩
  have hpart : (ev.conditionPredicate team nested condition).runIn ctx =
      (.ok (.compare (.field "boss") .equals values), ctx') := by
    rw [conditionPredicate_eq hev ⟨.field, Handler.validateField, Handler.fieldPredicate⟩
      (by simp [Handler.builtin]) rfl]
    exact Handler.runIn_fieldPredicate (c := condition) rfl hfield hoperator
      (PredicateScope.runIn_resolveValues_operand hnamed hresolve)
  have hparts : (ev.usableParts team nested team.conditions).runIn ctx =
      (.ok [.compare (.field "boss") .equals values], ctx') := by
    show (ev.usableParts team nested [condition]).runIn ctx = _
    rw [runIn_usableParts_cons, hpart]
    rfl
  unfold compile
  rw [runIn_compileWithin_new hnew, hparts]
  rfl

/-- **No weaker condition on the names will do**: if no question about a filter of some types ever
changes the answer to another, the names are unambiguous among these types. -/
theorem unambiguousAmong_of_compile_ask {c : Catalogs} (hc : c.HasStandard)
    {types : Set FilterType}
    (h : ∀ ev : Evaluator, ev.catalogs = c → ev.filters.types ⊆ types →
      ∀ f ∈ ev.filters, ∀ g ∈ ev.filters, ∀ p,
        ((ev.compile g).runIn { user := user, today := today }).1 = .ok p →
        ((ev.compile g).runIn (ev.ask { user := user, today := today } (.predicate f))).1 =
          .ok p) :
    c.registries.UnambiguousAmong types user today := by
  intro registry hregistry registry' hregistry' htype htype' o ho o' ho' hname
  let first := bossAmong [.text o.typeId] "first" registry.filterType
  let second := bossAmong [.text o'.typeId] "second" registry'.filterType
  let ev := pairOf c first second
  have hev : ev.catalogs.HasStandard := hc
  have htypes : ev.filters.types ⊆ types := by
    rintro _ ⟨g, hg, rfl⟩
    have hmem := Index.mem_of_mem_ofList hg
    simp only [List.mem_cons, List.not_mem_nil, or_false] at hmem
    rcases hmem with rfl | rfl
    · exact htype
    · exact htype'
  have hsecond : second ∈ ev.filters := Index.mem_insert.2 (Or.inl rfl)
  have hfirst : first ∈ ev.filters := by
    have hids : first.id ≠ second.id := by
      show "first" ≠ "second"
      decide
    exact Index.mem_insert.2 (Or.inr ⟨Index.mem_insert.2 (Or.inl rfl), hids⟩)
  -- in a fresh context each of the two is compared as what its own operand is resolved to
  have hresolve : ∀ o : Operand, (resolve o).runIn { user := user, today := today } =
      (.ok (o.resolve user today), {
        user := user, today := today
        resolved := Index.insert ∅ (o.typeId, o.resolve user today), resolutions := 1 }) :=
    fun _ => rfl
  have hasked := runIn_compile_bossAmong hev rfl hregistry ho "first" rfl (hresolve o)
  have hfresh := runIn_compile_bossAmong hev rfl hregistry' ho' "second" rfl (hresolve o')
  -- and the second as what the first has left under the name, where that has been asked for
  have hused := h ev rfl htypes first hfirst second hsecond _ (congrArg Prod.fst hfresh)
  have hknown : (Index.insert ∅ (o.typeId, o.resolve user today) :
      Index (Prod.fst : String × List Value → String)).get? o'.typeId =
        some (o'.typeId, o.resolve user today) := by
    rw [← hname]
    exact (Index.get?_insert _ _ _).trans (if_pos rfl)
  rw [ask, hasked, runIn_compile_bossAmong hev rfl hregistry' ho' "second" rfl
    (runIn_resolve_known hknown)] at hused
  exact (Predicate.compare.inj (Except.ok.inj hused)).2.2

end Evaluator

end RecordFilters
