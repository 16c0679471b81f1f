import RecordFilters.Proofs.Evaluation.Confinement
import RecordFilters.Proofs.Evaluation.Transparency

/-! # Filters that lead to a cycle

Stored filters that come from elsewhere may consult each other in a circle, or point at filters that
do not exist. An evaluation counts down the levels that are left, so it always answers or fails, and
it fails in one way only. What is remembered has been written out to its end, and a filter that leads
to a cycle has none; so such a filter is never remembered, and fails in every context.

* `Evaluator.ReachesCycle`: consulting other filters leads into a circle.
* `Evaluator.not_reachesCycle_of_runIn_eq_ok`: a filter that is answered does not lead into one.
* `Evaluator.compile_of_reachesCycle`: evaluations in a context in which any questions have been
  asked. -/

namespace RecordFilters

open Relation

namespace Evaluator

variable {ev : Evaluator} {user : Option ActingUser} {today : Day} {f g : Filter} {n levels : Nat}
  {ctx ctx' : Context} {p : Predicate} {e : FilterError} {question : Question}
  {questions : List Question}

/-! ### Leading into a circle -/

/-- Consulting other filters leads to one that consults itself through others. -/
def ReachesCycle (ev : Evaluator) (f : Filter) : Prop :=
  ∃ g, ev.Leads f g ∧ TransGen (fun a b => b ∈ ev.consulted a) g g

/-- So does one of those that are consulted. -/
theorem ReachesCycle.exists_consulted (h : ev.ReachesCycle f) :
    ∃ g ∈ ev.consulted f, ev.ReachesCycle g := by
  obtain ⟨g, hlead, hback⟩ := h
  rcases hlead.cases_head with rfl | ⟨next, hnext, hlead⟩
  · obtain ⟨next, hnext, hlead⟩ := TransGen.head'_iff.1 hback
    exact ⟨next, hnext, f, hlead, hback⟩
  · exact ⟨next, hnext, g, hlead, hback⟩

/-- What leads into a circle does not come to an end. -/
theorem EndsWithin.not_reachesCycle (h : ev.EndsWithin n f) : ¬ ev.ReachesCycle f := by
  induction n generalizing f with
  | zero => exact h.elim
  | succ n ih =>
    intro hcycle
    obtain ⟨g, hg, hcycle⟩ := hcycle.exists_consulted
    exact ih (h g hg) hcycle

/-! ### What a filter is remembered as -/

/-- A filter goes by an id of its own: no other is stored under it. It need not be stored. -/
def Owns (ev : Evaluator) (f : Filter) : Prop := ∀ g ∈ ev.filters, g.id = f.id → g = f

theorem owns_of_mem (hf : f ∈ ev.filters) : ev.Owns f :=
  fun _ hg hid => Index.eq_of_key_eq hg hf hid

section

variable (hev : ev.catalogs.handlers = Catalogs.standard.handlers)
include hev

/-- A filter that is answered does not lead into a circle: it has been remembered, or all that it
consults is remembered now. -/
theorem not_reachesCycle_of_runIn_eq_ok (hf : ev.Owns f) (h : ev.Sound user today ctx)
    (hrun : (ev.compileWithin levels f).runIn ctx = (.ok p, ctx')) : ¬ ev.ReachesCycle f := by
  cases levels with
  | zero => cases hrun
  | succ levels =>
    cases hknown : ctx.memo.get? f.id with
    | some entry =>
      obtain ⟨hentry, hid⟩ := Index.get?_eq_some_iff.1 hknown
      obtain ⟨g, hg, hgid, -, n, hn, -⟩ := h.memo entry hentry
      rw [hf g hg (hgid.trans hid)] at hn
      exact hn.not_reachesCycle
    | none =>
      rw [runIn_compileWithin_new hknown] at hrun
      rcases hparts : (ev.usableParts f (ev.compileWithin levels) f.conditions).runIn ctx with
        ⟨e | parts, ctx₁⟩
      · rw [hparts] at hrun
        cases hrun
      · have hadvances := usableParts_advances hev (tracksAll hev levels) (f := f)
          (l := f.conditions) (fun _ _ _ _ => trivial) h
        obtain ⟨hcontains, -⟩ :=
          parts_of_runIn_eq_ok hev (tracksAll hev levels) (fun _ _ _ _ => trivial) h hparts
        rw [hparts] at hadvances
        intro hcycle
        obtain ⟨g, hg, hcycle⟩ := hcycle.exists_consulted
        obtain ⟨c, hc, hconsulted⟩ := List.mem_filterMap.1 hg
        obtain ⟨⟨id, q⟩, hq, rfl⟩ := Index.contains_iff.1 (hcontains c hc g hconsulted)
        obtain ⟨-, n, hn, -⟩ := hadvances.sound.of_mem (mem_filters_of_mem_consulted hg) hq
        exact hn.not_reachesCycle hcycle

/-- A filter that fails is not remembered, so the context stays sound though it is not stored. -/
theorem sound_of_runIn_eq_error (h : ev.Sound user today ctx)
    (hrun : (ev.compileWithin levels f).runIn ctx = (.error e, ctx')) :
    ev.Sound user today ctx' := by
  cases levels with
  | zero =>
    cases hrun
    exact h
  | succ levels =>
    cases hknown : ctx.memo.get? f.id with
    | some entry =>
      rw [runIn_compileWithin_known hknown] at hrun
      cases hrun
    | none =>
      have hadvances := usableParts_advances hev (tracksAll hev levels) (f := f)
        (l := f.conditions) (fun _ _ _ _ => trivial) h
      rw [runIn_compileWithin_new hknown] at hrun
      rcases hparts : (ev.usableParts f (ev.compileWithin levels) f.conditions).runIn ctx with
        ⟨e₁ | parts, ctx₁⟩
      · rw [hparts] at hadvances hrun
        cases hrun
        exact hadvances.sound
      · rw [hparts] at hrun
        cases hrun

/-! ### Every evaluation answers, or a filter is too deep -/

/-- **The one way to fail**: some filter to which a filter leads is too deep. -/
theorem compile_answers_or_tooDeep (f : Filter) (h : ctx.Serves ev.catalogs.registries user today) :
    (∃ p, ((ev.compile f).runIn ctx).1 = .ok p) ∨ ∃ g, ev.Leads f g ∧
      ((ev.compile f).runIn ctx).1 = .error (.validation (.tooDeep ev.maxDepth) [g.id]) := by
  have hconfined := compileWithin_confined hev (ev.maxDepth + 1) f h
  rcases hrun : (ev.compile f).runIn ctx with ⟨e | p, ctx'⟩
  · have hconfig : e.isConfig = false := isConfig_of_compileWithin hrun
    rcases hconfined.error e (congrArg Prod.fst hrun) with he | ⟨g, hlead, he⟩
    · rw [he] at hconfig
      cases hconfig
    · exact Or.inr ⟨g, hlead, by rw [he]⟩
  · exact Or.inl ⟨p, rfl⟩

/-- In a sound context a filter that leads into a circle fails in that way. -/
theorem compile_tooDeep_of_sound (hf : ev.Owns f) (hcycle : ev.ReachesCycle f)
    (h : ev.Sound user today ctx) : ∃ g, ev.Leads f g ∧
      ((ev.compile f).runIn ctx).1 = .error (.validation (.tooDeep ev.maxDepth) [g.id]) := by
  refine (compile_answers_or_tooDeep hev f h.toServes).resolve_left ?_
  rintro ⟨p, hp⟩
  exact not_reachesCycle_of_runIn_eq_ok hev hf h (Prod.ext hp rfl) hcycle

/-! ### After any questions -/

theorem serves_errorsFrom (position : Nat) {l : List Condition} (hl : ∀ c ∈ l, c ∈ f.conditions)
    (h : ctx.Serves ev.catalogs.registries user today) :
    (ev.errorsFrom f position ctx l).2.Serves ev.catalogs.registries user today := by
  induction l generalizing position ctx with
  | nil => exact h
  | cons c l ih =>
    have hc := conditionPredicate_confined hev (hl c List.mem_cons_self)
      (fun g _ => compileWithin_confined hev ev.maxDepth g h) h
    have hrest := ih (position + 1) (fun c hc => hl c (List.mem_cons_of_mem _ hc)) hc.serves
    unfold errorsFrom
    dsimp only
    split <;> exact hrest

/-- Whatever is asked, the context goes on to serve its user. -/
theorem serves_ask (question : Question) (h : ctx.Serves ev.catalogs.registries user today) :
    (ev.ask ctx question).Serves ev.catalogs.registries user today := by
  cases question with
  | predicate f => exact (compileWithin_confined hev _ f h).serves
  | apply f storage =>
    show (ev.apply f ctx storage).2.1.Serves ev.catalogs.registries user today
    rw [apply_snd]
    exact (compileWithin_confined hev _ f h).serves
  | conditionErrors f => exact serves_errorsFrom hev 0 (fun c hc => hc) h

theorem serves_askAll (questions : List Question)
    (h : ctx.Serves ev.catalogs.registries user today) :
    (ev.askAll ctx questions).Serves ev.catalogs.registries user today := by
  induction questions generalizing ctx with
  | nil => exact h
  | cons question questions ih => exact ih (serves_ask hev question h)

/-- A question about a filter that leads into a circle leaves a sound context. -/
theorem sound_ask_of_reachesCycle (hf : ev.Owns question.filter)
    (hcycle : ev.ReachesCycle question.filter) (h : ev.Sound user today ctx) :
    ev.Sound user today (ev.ask ctx question) := by
  have hcompile : ev.Sound user today ((ev.compile question.filter).runIn ctx).2 := by
    obtain ⟨g, -, hg⟩ := compile_tooDeep_of_sound hev hf hcycle h
    exact sound_of_runIn_eq_error hev h (Prod.ext hg rfl)
  cases question with
  | predicate f => exact hcompile
  | apply f storage =>
    show ev.Sound user today (ev.apply f ctx storage).2.1
    rw [apply_snd]
    exact hcompile
  | conditionErrors f => exact sound_errorsFrom hev 0 f.conditions h

/-- So do questions about stored filters and a filter that leads into a circle. -/
theorem sound_askAll_of_reachesCycle (hf : ev.Owns f) (hcycle : ev.ReachesCycle f)
    (hasked : ∀ question ∈ questions, question.filter ∈ ev.filters ∨ question.filter = f)
    (h : ev.Sound user today ctx) : ev.Sound user today (ev.askAll ctx questions) := by
  induction questions generalizing ctx with
  | nil => exact h
  | cons question questions ih =>
    refine ih (fun q hq => hasked q (List.mem_cons_of_mem _ hq)) ?_
    rcases hasked question List.mem_cons_self with hstored | rfl
    · exact sound_ask hev hstored h
    · exact sound_ask_of_reachesCycle hev hf hcycle h

/-- **Cyclic filters neither hang nor are answered.** After any questions about stored filters, and
about the filter itself, an evaluation gives an answer or reports a filter that is too deep; and it
gives no answer to a filter that leads into a circle. The stored filters may be any: a circle may be
anywhere, and ids may be dangling. -/
theorem compile_of_reachesCycle (user : Option ActingUser) (today : Day)
    (hown : ∀ g ∈ ev.filters, g.id = f.id → g = f)
    (hasked : ∀ question ∈ questions, question.filter ∈ ev.filters ∨ question.filter = f) :
    let used := ev.askAll { user := user, today := today } questions
    ((∃ p, ((ev.compile f).runIn used).1 = .ok p) ∨ ∃ g, ev.Leads f g ∧
      ((ev.compile f).runIn used).1 = .error (.validation (.tooDeep ev.maxDepth) [g.id])) ∧
    (ev.ReachesCycle f → ∃ g, ev.Leads f g ∧
      ((ev.compile f).runIn used).1 = .error (.validation (.tooDeep ev.maxDepth) [g.id])) := by
  intro used
  constructor
  · exact compile_answers_or_tooDeep hev f
      (serves_askAll hev questions (Context.serves_fresh _ user today))
  · intro hcycle
    exact compile_tooDeep_of_sound hev hown hcycle
      (sound_askAll_of_reachesCycle hev hown hcycle hasked (ev.sound_fresh user today))

end

/-- A filter that consults another, with what else is asked. -/
def consulting (id other : FilterId) (others : List Condition) : Filter where
  id := id
  name := "Circle"
  entityType := "person"
  conditions := .onSubFilter other :: others
  conditions_ne_nil := List.cons_ne_nil _ _

/-- One half of a circle, with a reference to a filter that does not exist. -/
def ping : Filter := consulting "ping" "pong" [.onSubFilter "gone"]

def pong : Filter := consulting "pong" "ping" []

/-- Outside the circle, and leading into it behind a filter that can be evaluated. -/
def entrance : Filter := consulting "entrance" "vips" [.onSubFilter "ping"]

/-- A cyclic set of filters. -/
def circle : Evaluator := { office with filters := .ofList [vips, ping, pong, entrance] }

theorem reachesCycle_entrance : circle.ReachesCycle entrance := by
  have hentrance : ping ∈ circle.consulted entrance :=
    mem_consulted (List.mem_cons_of_mem _ List.mem_cons_self) rfl
  have hping : pong ∈ circle.consulted ping := mem_consulted List.mem_cons_self rfl
  have hpong : ping ∈ circle.consulted pong := mem_consulted List.mem_cons_self rfl
  exact ⟨ping, .single hentrance, .head hping (.single hpong)⟩

/-- A filter that leads into a circle, asked for twice with the others in between. -/
theorem compile_of_reachesCycle_entrance : ∃ g, circle.Leads entrance g ∧
    ((circle.compile entrance).runIn (circle.askAll newYear [.predicate entrance, .predicate vips,
      .conditionErrors ping, .predicate pong])).1 =
        .error (.validation (.tooDeep 1) [g.id]) := by
  have hentrance : entrance ∈ circle.filters :=
    Index.mem_of_get? (show circle.filters.get? "entrance" = some entrance from rfl)
  have hvips : vips ∈ circle.filters :=
    Index.mem_of_get? (show circle.filters.get? "vips" = some vips from rfl)
  have hping : ping ∈ circle.filters :=
    Index.mem_of_get? (show circle.filters.get? "ping" = some ping from rfl)
  have hpong : pong ∈ circle.filters :=
    Index.mem_of_get? (show circle.filters.get? "pong" = some pong from rfl)
  have hasked : ∀ question ∈ [Question.predicate entrance, .predicate vips, .conditionErrors ping,
      .predicate pong], question.filter ∈ circle.filters ∨ question.filter = entrance := by
    intro question hquestion
    simp only [List.mem_cons, List.not_mem_nil, or_false] at hquestion
    rcases hquestion with rfl | rfl | rfl | rfl
    · exact Or.inr rfl
    · exact Or.inl hvips
    · exact Or.inl hping
    · exact Or.inl hpong
  have hhandlers : circle.catalogs.handlers = Catalogs.standard.handlers := rfl
  exact (compile_of_reachesCycle hhandlers none newYear.today (owns_of_mem hentrance) hasked).2
    reachesCycle_entrance

end Evaluator

end RecordFilters
