import RecordFilters.Proofs.Evaluation.Confinement

/-! # One filter for two users

The same filter is evaluated on the same day for two users, in two contexts that remember the same
predicates. The users come in where an operand is resolved, and nowhere else. So the evaluations go
the same way and give the same, unless some filter that is consulted names an operand that is
resolved otherwise for the one than for the other.

* `PredicateScope.substituted`: what the values of a condition are replaced by.
* `Evaluation.Same`: a step that gives the same for two users and keeps their contexts alike.
* `Evaluator.compile_eq_or_names`: an evaluation does, or some operand tells the users apart. -/

namespace RecordFilters

/-- The values that a condition compares with. -/
def Condition.values (c : Condition) : List Value :=
  match c.payload with
  | .comparison _ values => values
  | _ => []

theorem Condition.values_of_payload {c : Condition} {id : OperatorId} {values : List Value}
    (h : c.payload = .comparison id values) : c.values = values := by
  unfold Condition.values
  rw [h]

theorem Condition.payload_of_mem_values {c : Condition} {v : Value} (h : v ∈ c.values) :
    ∃ id, c.payload = .comparison id c.values := by
  unfold values at h ⊢
  split at h
  next id values hpayload => exact ⟨id, hpayload⟩
  next => cases h

variable {r : RegistryCatalog} {user user' : Option ActingUser} {today : Day} {ctx ctx' : Context}
  {scope : PredicateScope} {α β : Type}

/-! ### Values -/

/-- The values of a condition with the operands among them replaced by what they are resolved to for
a user on a day. -/
def PredicateScope.substituted (scope : PredicateScope) (user : Option ActingUser) (today : Day)
    (values : List Value) : List Value :=
  values.flatMap fun v =>
    match scope.operand? v with
    | some o => o.resolve user today
    | none => [v]

namespace Evaluation

/-- Where operands of one name are resolved alike, an operand is resolved to its own values in every
context of a user on a day. -/
theorem runIn_resolve (hnames : r.Unambiguous user today) {registry : Registry} {o : Operand}
    (hregistry : registry ∈ r) (ho : o ∈ registry.operands) (h : ctx.Serves r user today) :
    ((resolve o).runIn ctx).1 = .ok (o.resolve user today) := by
  obtain ⟨values, hvalues⟩ := (gives_resolve hregistry ho).same hnames
  have hfresh := hvalues _ (Context.serves_fresh r user today)
  rw [hvalues ctx h]
  exact hfresh.symm

end Evaluation

open Evaluation

/-- **Operands are replaced by what they stand for, and all else is left as it is.** -/
theorem PredicateScope.runIn_resolveValues (hscope : scope.IsOf r)
    (hnames : r.Unambiguous user today) (values : List Value) (h : ctx.Serves r user today) :
    ((scope.resolveValues values).runIn ctx).1 = .ok (scope.substituted user today values) := by
  induction values generalizing ctx with
  | nil => rfl
  | cons v values ih =>
    have hsplit : scope.substituted user today (v :: values) =
        scope.substituted user today [v] ++ scope.substituted user today values := by
      simp [substituted]
    have hfollow : ∀ here (ctx' : Context), ctx'.Serves r user today →
        ((do return here ++ (← scope.resolveValues values) :
          Evaluation (List Value)).runIn ctx').1 =
            .ok (here ++ scope.substituted user today values) := by
      intro here ctx' h'
      have hrest := ih h'
      rw [runIn_bind]
      generalize (scope.resolveValues values).runIn ctx' = run at hrest ⊢
      obtain ⟨result, ctx''⟩ := run
      obtain rfl : result = .ok (scope.substituted user today values) := hrest
      rfl
    rw [hsplit]
    unfold resolveValues
    cases ho : scope.operand? v with
    | none =>
      dsimp only
      rw [runIn_bind_ok (runIn_pure [v]), hfollow _ _ h]
      simp [substituted, ho]
    | some o =>
      cases v with
      | text name =>
        obtain ⟨registry, hregistry, hfound⟩ := Option.bind_eq_some_iff.1 ho
        have hmem := Index.mem_of_get? hfound
        have hregistered := hscope registry hregistry
        have hvalues := runIn_resolve hnames hregistered hmem h
        obtain ⟨here, ctx₁, hrun, -, hserves⟩ := (gives_resolve hregistered hmem).run ctx h
        dsimp only
        rw [hrun] at hvalues
        cases hvalues
        rw [runIn_bind_ok hrun, hfollow _ _ hserves]
        simp [substituted, ho]
      | _ => cases ho

/-- The operands among some values are resolved alike for two users. -/
def PredicateScope.Indifferent (scope : PredicateScope) (user user' : Option ActingUser)
    (today : Day) (values : List Value) : Prop :=
  ∀ v ∈ values, ∀ o, scope.operand? v = some o → o.resolve user' today = o.resolve user today

theorem PredicateScope.Indifferent.substituted_eq {values : List Value}
    (h : scope.Indifferent user user' today values) :
    scope.substituted user' today values = scope.substituted user today values := by
  unfold substituted
  refine List.flatMap_congr fun v hv => ?_
  cases ho : scope.operand? v with
  | none => rfl
  | some o => exact h v hv o ho

/-! ### Contexts of two users -/

/-- Contexts of two users on one day that remember the same predicates. -/
structure Context.Alike (r : RegistryCatalog) (actor other : Option ActingUser) (day : Day)
    (ctx ctx' : Context) : Prop where
  left : ctx.Serves r actor day
  right : ctx'.Serves r other day
  memo : ctx'.memo = ctx.memo

theorem Context.alike_fresh (r : RegistryCatalog) (user user' : Option ActingUser) (today : Day) :
    Context.Alike r user user' today { user := user, today := today }
      { user := user', today := today } :=
  ⟨serves_fresh .., serves_fresh .., rfl⟩

namespace Evaluation

/-- A step that gives the same in contexts of two users that are alike, and leaves them alike. -/
def Same (r : RegistryCatalog) (user user' : Option ActingUser) (today : Day) (x : Evaluation α) :
    Prop :=
  ∀ ctx ctx', Context.Alike r user user' today ctx ctx' →
    (x.runIn ctx').1 = (x.runIn ctx).1 ∧
      Context.Alike r user user' today (x.runIn ctx).2 (x.runIn ctx').2

namespace Same

variable {x : Evaluation α} {k : α → Evaluation β}

theorem pure (a : α) : Same r user user' today (Pure.pure a : Evaluation α) :=
  fun _ _ h => ⟨rfl, h⟩

theorem throw (e : FilterError) : Same r user user' today (throwThe FilterError e : Evaluation α) :=
  fun _ _ h => ⟨rfl, h⟩

theorem bind (hx : Same r user user' today x) (hk : ∀ a, Same r user user' today (k a)) :
    Same r user user' today (x >>= k) := by
  intro ctx ctx' h
  have hboth := hx ctx ctx' h
  rw [runIn_bind, runIn_bind]
  generalize x.runIn ctx = run at hboth ⊢
  generalize x.runIn ctx' = run' at hboth ⊢
  obtain ⟨result, ctx₁⟩ := run
  obtain ⟨result', ctx₁'⟩ := run'
  obtain ⟨rfl, halike⟩ : result' = result ∧ Context.Alike r user user' today ctx₁ ctx₁' := hboth
  cases result' with
  | error e => exact ⟨rfl, halike⟩
  | ok a => exact hk a ctx₁ ctx₁' halike

theorem map (hx : Same r user user' today x) (k : α → β) : Same r user user' today (k <$> x) := by
  rw [map_eq_pure_bind]
  exact hx.bind fun _ => .pure _

theorem tryCatch {handle : FilterError → Evaluation α} (hx : Same r user user' today x)
    (hhandle : ∀ e, Same r user user' today (handle e)) :
    Same r user user' today (MonadExcept.tryCatch x handle) := by
  intro ctx ctx' h
  have hboth := hx ctx ctx' h
  rw [runIn_tryCatch, runIn_tryCatch]
  generalize x.runIn ctx = run at hboth ⊢
  generalize x.runIn ctx' = run' at hboth ⊢
  obtain ⟨result, ctx₁⟩ := run
  obtain ⟨result', ctx₁'⟩ := run'
  obtain ⟨rfl, halike⟩ : result' = result ∧ Context.Alike r user user' today ctx₁ ctx₁' := hboth
  cases result' with
  | error e => exact hhandle e ctx₁ ctx₁' halike
  | ok a => exact ⟨rfl, halike⟩

theorem ofExcept_bind {y : Except FilterError α}
    (h : ∀ a, y = .ok a → Same r user user' today (k a)) :
    Same r user user' today (ofExcept y >>= k) := by
  cases y with
  | error e => exact .throw e
  | ok a =>
    rw [ofExcept_ok_bind]
    exact h a rfl

end Same

theorem same_remembered? (id : FilterId) : Same r user user' today (remembered? id) :=
  fun _ _ h => ⟨by rw [runIn_remembered?, runIn_remembered?, h.memo], h⟩

theorem same_remember (id : FilterId) (p : Predicate) : Same r user user' today (remember id p) :=
  fun _ _ h => ⟨rfl, h.left.remember id p, h.right.remember id p, by
    rw [runIn_remember, runIn_remember, h.memo]⟩

end Evaluation

/-! ### Conditions -/

theorem PredicateScope.same_resolveValues (hscope : scope.IsOf r)
    (hnames : r.Unambiguous user today) (hnames' : r.Unambiguous user' today) {values : List Value}
    (h : scope.Indifferent user user' today values) :
    Same r user user' today (scope.resolveValues values) := by
  intro ctx ctx' halike
  obtain ⟨out, ctx₁, hrun, hmemo, hserves⟩ :=
    (gives_resolveValues hscope values).run ctx halike.left
  obtain ⟨out', ctx₁', hrun', hmemo', hserves'⟩ :=
    (gives_resolveValues hscope values).run ctx' halike.right
  refine ⟨?_, ?_⟩
  · rw [runIn_resolveValues hscope hnames values halike.left,
      runIn_resolveValues hscope hnames' values halike.right, h.substituted_eq]
  · rw [hrun, hrun']
    exact ⟨hserves, hserves', by rw [hmemo, hmemo', halike.memo]⟩

namespace Handler

variable {c : Condition}

/-- A range gets its bounds from the day. -/
theorem same_rangePredicate (c : Condition) (target : Target) (range : DateRange) :
    Same r user user' today (rangePredicate c target range) := by
  intro ctx ctx' h
  have hday : ctx'.today = ctx.today := h.right.today.trans h.left.today.symm
  rw [runIn_rangePredicate, runIn_rangePredicate, hday]
  cases range.resolve? ctx.today with
  | none => exact ⟨rfl, h⟩
  | some days => cases days <;> exact ⟨rfl, h⟩

section

variable (hscope : scope.IsOf r) (hnames : r.Unambiguous user today)
  (hnames' : r.Unambiguous user' today) (h : scope.Indifferent user user' today c.values)
include hscope hnames hnames' h

theorem same_comparison (target : Target) {id : OperatorId} {values : List Value}
    (hpayload : c.payload = .comparison id values) :
    Same r user user' today (do
      let o ← Evaluation.ofExcept (storedOperator scope c id)
      return o.build target (← scope.resolveValues values)) := by
  rw [Condition.values_of_payload hpayload] at h
  exact .ofExcept_bind fun _ _ =>
    (PredicateScope.same_resolveValues hscope hnames hnames' h).bind fun _ => .pure _

theorem same_fieldPredicate : Same r user user' today (fieldPredicate scope c) := by
  unfold fieldPredicate
  split
  next hpayload =>
    exact .ofExcept_bind fun _ _ => same_comparison hscope hnames hnames' h _ hpayload
  next => exact .throw _

theorem same_customFieldPredicate : Same r user user' today (customFieldPredicate scope c) := by
  unfold customFieldPredicate
  split
  next hpayload =>
    exact .ofExcept_bind fun _ _ => same_comparison hscope hnames hnames' h _ hpayload
  next => exact .throw _

end

theorem same_dateFieldPredicate : Same r user user' today (dateFieldPredicate scope c) := by
  unfold dateFieldPredicate
  split
  next => exact .ofExcept_bind fun _ _ => same_rangePredicate _ _ _
  next => exact .throw _

theorem same_dateCustomFieldPredicate :
    Same r user user' today (dateCustomFieldPredicate scope c) := by
  unfold dateCustomFieldPredicate
  split
  next => exact .ofExcept_bind fun _ _ => same_rangePredicate _ _ _
  next => exact .throw _

theorem same_relationPredicate : Same r user user' today (relationPredicate scope c) := by
  unfold relationPredicate
  split
  next => exact .ofExcept_bind fun _ _ => .pure _
  next => exact .throw _

theorem same_propertyPredicate : Same r user user' today (propertyPredicate scope c) := by
  unfold propertyPredicate
  split
  next => exact .ofExcept_bind fun _ _ => .pure _
  next => exact .throw _

section

variable (hnested : ∀ g, Same r user user' today (scope.nested g))
include hnested

theorem same_relationSubFilterPredicate :
    Same r user user' today (relationSubFilterPredicate scope c) := by
  unfold relationSubFilterPredicate
  split
  next =>
    refine .ofExcept_bind fun _ _ => .ofExcept_bind fun sub _ => ?_
    split
    next => exact .pure _
    next => exact (hnested sub).bind fun _ => .pure _
  next => exact .throw _

theorem same_subFilterPredicate : Same r user user' today (subFilterPredicate scope c) := by
  unfold subFilterPredicate
  split
  next =>
    refine .ofExcept_bind fun sub _ => ?_
    split
    next => exact .pure _
    next => exact hnested sub
  next => exact .throw _

end

/-- **No handler of this library asks for the user but by an operand.** -/
theorem same_of_mem_builtin {handler : Handler} (hbuiltin : handler ∈ builtin)
    (hscope : scope.IsOf r) (hnames : r.Unambiguous user today)
    (hnames' : r.Unambiguous user' today) (h : scope.Indifferent user user' today c.values)
    (hnested : ∀ g, Same r user user' today (scope.nested g)) :
    Same r user user' today (handler.predicate scope c) := by
  simp only [builtin, List.mem_cons, List.not_mem_nil, or_false] at hbuiltin
  rcases hbuiltin with rfl | rfl | rfl | rfl | rfl | rfl | rfl | rfl
  · exact same_fieldPredicate hscope hnames hnames' h
  · exact same_dateFieldPredicate
  · exact same_customFieldPredicate hscope hnames hnames' h
  · exact same_dateCustomFieldPredicate
  · exact same_relationPredicate
  · exact same_relationSubFilterPredicate hnested
  · exact same_propertyPredicate
  · exact same_subFilterPredicate hnested

end Handler

/-! ### Filters -/

namespace Evaluator

variable {ev : Evaluator} {f g : Filter} {c : Condition} {o : Operand}
  {nested : Filter → Evaluation Predicate}

/-- An operand stands among the values of a condition of a filter. -/
structure Names (ev : Evaluator) (f : Filter) (c : Condition) (o : Operand) : Prop where
  condition : c ∈ f.conditions
  value : .text o.typeId ∈ c.values
  operand : ∃ registry, ev.catalogs.registries.get? f.filterType = some registry ∧
    registry.operands.get? o.typeId = some o

theorem operand?_scope_eq_some_iff {v : Value} :
    (ev.scope f nested).operand? v = some o ↔ v = .text o.typeId ∧
      ∃ registry, ev.catalogs.registries.get? f.filterType = some registry ∧
        registry.operands.get? o.typeId = some o := by
  constructor
  · intro h
    cases v with
    | text name =>
      obtain ⟨registry, hregistry, hfound⟩ := Option.bind_eq_some_iff.1 h
      have hname : o.typeId = name := Index.key_of_get? hfound
      rw [hname]
      exact ⟨rfl, registry, hregistry, hfound⟩
    | _ => cases h
  · rintro ⟨rfl, registry, hregistry, hfound⟩
    exact Option.bind_eq_some_iff.2 ⟨registry, hregistry, hfound⟩

/-- Every operand that a filter names is resolved alike for two users. -/
def Indifferent (ev : Evaluator) (user user' : Option ActingUser) (today : Day) (f : Filter) :
    Prop :=
  ∀ c o, ev.Names f c o → o.resolve user' today = o.resolve user today

theorem Indifferent.scope_values (h : ev.Indifferent user user' today f) (hc : c ∈ f.conditions)
    (nested : Filter → Evaluation Predicate) :
    (ev.scope f nested).Indifferent user user' today c.values := by
  intro v hv o ho
  obtain ⟨rfl, hregistry⟩ := operand?_scope_eq_some_iff.1 ho
  exact h c o ⟨hc, hv, hregistry⟩

section

variable (hev : ev.catalogs.handlers = Catalogs.standard.handlers)
  (hnames : ev.catalogs.registries.Unambiguous user today)
  (hnames' : ev.catalogs.registries.Unambiguous user' today)
include hev hnames hnames'

/-- A condition gives the same for two users if the filter that it consults does. -/
theorem same_conditionPredicate (h : ev.Indifferent user user' today f) (hc : c ∈ f.conditions)
    (hnested : ∀ g ∈ ev.consulted f, Same ev.catalogs.registries user user' today (nested g)) :
    Same ev.catalogs.registries user user' today (ev.conditionPredicate f nested c) := by
  have hcases := conditionPredicate_cases hev user today f c
  cases hconsulted : ev.filters.consulted? ev.schema f.entityType c with
  | some g =>
    rw [hconsulted] at hcases
    obtain ⟨wrap, heq⟩ := hcases
    rw [heq]
    exact (hnested g (mem_consulted hc hconsulted)).map wrap
  | none =>
    -- no filter is consulted, so any predicates will do for the others
    rw [hconsulted] at hcases
    obtain ⟨x, -, heq⟩ := hcases
    rw [heq, ← heq fun _ => pure .always]
    unfold conditionPredicate
    refine .ofExcept_bind fun handler hhandler => ?_
    refine Handler.same_of_mem_builtin ?_ (isOf_scope _) hnames hnames' (h.scope_values hc _)
      fun _ => .pure _
    rw [handler_eq_ok_iff, hev] at hhandler
    exact Index.mem_of_mem_ofList (Index.mem_of_get? hhandler)

theorem same_usableParts (h : ev.Indifferent user user' today f)
    (hnested : ∀ g ∈ ev.consulted f, Same ev.catalogs.registries user user' today (nested g))
    {l : List Condition} (hl : ∀ c ∈ l, c ∈ f.conditions) :
    Same ev.catalogs.registries user user' today (ev.usableParts f nested l) := by
  induction l with
  | nil => exact .pure []
  | cons c l ih =>
    have hc := same_conditionPredicate hev hnames hnames' h (hl c List.mem_cons_self) hnested
    unfold usableParts
    refine .bind (.tryCatch (hc.map some) fun e => ?_) fun part =>
      (ih fun c hc => hl c (List.mem_cons_of_mem _ hc)).bind fun rest => .pure _
    split
    next => exact .pure none
    next => exact .throw e

/-- **A filter gives the same for two users** if no filter to which it leads names an operand that
tells them apart, however many levels are left. -/
theorem same_compileWithin (levels : Nat) (f : Filter)
    (h : ∀ g, ev.Leads f g → ev.Indifferent user user' today g) :
    Same ev.catalogs.registries user user' today (ev.compileWithin levels f) := by
  induction levels generalizing f with
  | zero => exact .throw _
  | succ levels ih =>
    unfold compileWithin
    refine (same_remembered? f.id).bind fun known => ?_
    split
    next p => exact .pure p
    next =>
      have hparts := same_usableParts hev hnames hnames' (h f .refl)
        (fun g hg => ih g fun g' hg' => h g' (.head hg hg')) fun _ hc => hc
      exact hparts.bind fun parts => (same_remember _ _).bind fun _ => .pure _

/-- **Two users get the same of a filter, or some operand tells them apart**: one that is named by
the filter or by one to which it leads. -/
theorem compile_eq_or_names (f : Filter) :
    ((ev.compile f).runIn { user := user', today := today }).1 =
        ((ev.compile f).runIn { user := user, today := today }).1 ∨
      ∃ g, ev.Leads f g ∧ ∃ c o, ev.Names g c o ∧
        o.resolve user' today ≠ o.resolve user today := by
  by_cases h : ∀ g, ev.Leads f g → ev.Indifferent user user' today g
  · refine .inl (same_compileWithin hev hnames hnames' (ev.maxDepth + 1) f h _ _ ?_).1
    exact Context.alike_fresh ..
  · unfold Indifferent at h
    push Not at h
    exact .inr h

end

end Evaluator

end RecordFilters
