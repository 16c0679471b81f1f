import RecordFilters.Proofs.Evaluation.Conditions
import RecordFilters.Proofs.Evaluation.Locality
import RecordFilters.Proofs.Graph.WellTyped

/-! # Steps that do not look at the memory

A handler that consults no filter fails for what a condition refers to, whatever the context, or it
succeeds and leaves the predicates that are remembered alone. It may resolve operands, but each only
once in a context; so where operands of one name are resolved alike, it gives the same in all
contexts of one user on one day.

* `Context.Serves`: a context of a user on a day, with operands resolved as they are registered.
* `Evaluation.Settled`: a step whose outcome no memory changes.
* `Evaluator.conditionPredicate_cases`: a condition is settled, or hands on the predicate of the
  filter that it consults. -/

namespace RecordFilters

/-- A context of a user on a day. The operands that are resolved in it have been resolved as they are
registered, each once. -/
structure Context.Serves (ctx : Context) (c : RegistryCatalog) (actor : Option ActingUser)
    (day : Day) : Prop where
  user : ctx.user = actor
  today : ctx.today = day
  resolves : ∀ entry ∈ ctx.resolved, c.Resolves actor day entry
  counted : ctx.resolutions = ctx.resolved.size

section

variable {c : RegistryCatalog} {user : Option ActingUser} {today : Day} {ctx : Context}
  {α β : Type}

theorem Context.serves_fresh (c : RegistryCatalog) (user : Option ActingUser) (today : Day) :
    Context.Serves { user := user, today := today } c user today :=
  ⟨rfl, rfl, fun _ h => absurd h Index.not_mem_empty, rfl⟩

/-- What is remembered of filters does not count. -/
theorem Context.Serves.remember (h : ctx.Serves c user today) (id : FilterId) (p : Predicate) :
    Context.Serves { ctx with memo := ctx.memo.insert (id, p) } c user today :=
  ⟨h.user, h.today, h.resolves, h.counted⟩

namespace Evaluation

/-- A step that succeeds in every context of a user on a day, and only resolves operands. -/
structure Gives (c : RegistryCatalog) (user : Option ActingUser) (today : Day) (x : Evaluation α) :
    Prop where
  run : ∀ ctx : Context, ctx.Serves c user today → ∃ a ctx', x.runIn ctx = (.ok a, ctx') ∧
    ctx'.memo = ctx.memo ∧ ctx'.Serves c user today
  same : c.Unambiguous user today →
    ∃ a, ∀ ctx : Context, ctx.Serves c user today → (x.runIn ctx).1 = .ok a

/-- A step whose outcome is settled before it is run in a context of a user on a day: it fails for
what is referred to, or it succeeds. -/
inductive Settled (c : RegistryCatalog) (user : Option ActingUser) (today : Day)
    (x : Evaluation α) : Prop
  | fails (e : FilterError) (config : e.isConfig = true)
      (run : ∀ ctx : Context, ctx.Serves c user today → x.runIn ctx = (.error e, ctx))
  | gives (h : Gives c user today x)

/-! ### Making steps -/

theorem Gives.of_runIn {x : Evaluation α} {a : α}
    (h : ∀ ctx : Context, ctx.Serves c user today → x.runIn ctx = (.ok a, ctx)) :
    Gives c user today x where
  run ctx hctx := ⟨a, ctx, h ctx hctx, rfl, hctx⟩
  same _ := ⟨a, fun ctx hctx => by rw [h ctx hctx]⟩

theorem Gives.pure (a : α) : Gives c user today (Pure.pure a : Evaluation α) :=
  .of_runIn fun _ _ => rfl

theorem Gives.bind {x : Evaluation α} {k : α → Evaluation β} (hx : Gives c user today x)
    (hk : ∀ a, Gives c user today (k a)) : Gives c user today (x >>= k) where
  run ctx h := by
    obtain ⟨a, ctx₁, hrun₁, hmemo₁, h₁⟩ := hx.run ctx h
    obtain ⟨b, ctx₂, hrun₂, hmemo₂, h₂⟩ := (hk a).run ctx₁ h₁
    exact ⟨b, ctx₂, by rw [runIn_bind_ok hrun₁, hrun₂], hmemo₂.trans hmemo₁, h₂⟩
  same hnames := by
    obtain ⟨a, ha⟩ := hx.same hnames
    obtain ⟨b, hb⟩ := (hk a).same hnames
    refine ⟨b, fun ctx h => ?_⟩
    obtain ⟨a', ctx₁, hrun₁, -, h₁⟩ := hx.run ctx h
    have hsame : a' = a := by
      have := ha ctx h
      rw [hrun₁] at this
      exact Except.ok.inj this
    rw [runIn_bind_ok hrun₁, hsame]
    exact hb ctx₁ h₁

theorem Settled.pure (a : α) : Settled c user today (Pure.pure a : Evaluation α) :=
  .gives (.pure a)

theorem Settled.throw {e : FilterError} (he : e.isConfig = true) :
    Settled c user today (MonadExcept.throw e : Evaluation α) :=
  .fails e he fun _ _ => rfl

/-- What goes on from a look-up is settled if the look-up fails for what it looks up. -/
theorem Settled.ofExcept_bind {x : Except FilterError α} {k : α → Evaluation β}
    (hx : ∀ e, x = .error e → e.isConfig = true) (hk : ∀ a, x = .ok a → Settled c user today (k a)) :
    Settled c user today (ofExcept x >>= k) := by
  cases x with
  | error e => exact .fails e (hx e rfl) fun ctx _ => runIn_bind_error (runIn_ofExcept_error e) k
  | ok a =>
    rw [ofExcept_ok_bind]
    exact hk a rfl

/-! ### Operands and days -/

/-- A registered operand is resolved, unless it has been. -/
theorem gives_resolve {registry : Registry} {o : Operand} (hregistry : registry ∈ c)
    (ho : o ∈ registry.operands) : Gives c user today (resolve o) where
  run ctx h := by
    unfold resolve
    rw [runIn_bind_ok runIn_get]
    cases hfound : ctx.resolved.get? o.typeId with
    | some entry => exact ⟨entry.2, ctx, rfl, rfl, h⟩
    | none =>
      refine ⟨_, _, rfl, rfl, h.user, h.today, fun entry hentry => ?_, ?_⟩
      · rcases Index.mem_insert.1 hentry with rfl | ⟨hentry, -⟩
        · exact ⟨registry, hregistry, o, ho, rfl, by rw [h.user, h.today]⟩
        · exact h.resolves entry hentry
      · rw [Index.size_insert_of_fresh hfound, h.counted]
  same hnames := by
    refine ⟨o.resolve user today, fun ctx h => ?_⟩
    unfold resolve
    rw [runIn_bind_ok runIn_get]
    cases hfound : ctx.resolved.get? o.typeId with
    | some entry =>
      obtain ⟨hentry, hname⟩ := Index.get?_eq_some_iff.1 hfound
      have hvalues : entry.2 = o.resolve user today :=
        hnames o.typeId _ _ (by rw [← hname]; exact h.resolves entry hentry)
          ⟨registry, hregistry, o, ho, rfl, rfl⟩
      rw [← hvalues]
      rfl
    | none =>
      rw [← h.user, ← h.today]
      rfl

end Evaluation

/-- A scope whose registry is one of a catalog. -/
def PredicateScope.IsOf (scope : PredicateScope) (c : RegistryCatalog) : Prop :=
  ∀ registry, scope.registry = some registry → registry ∈ c

open Evaluation in
theorem PredicateScope.gives_resolveValues {scope : PredicateScope} (hscope : scope.IsOf c)
    (values : List Value) : Gives c user today (scope.resolveValues values) := by
  induction values with
  | nil => exact .pure []
  | cons v values ih =>
    unfold resolveValues
    cases ho : scope.operand? v with
    | none => exact .bind (.pure [v]) fun here => .bind ih fun rest => .pure _
    | some o =>
      cases v with
      | text name =>
        obtain ⟨registry, hregistry, ho⟩ := Option.bind_eq_some_iff.1 ho
        exact .bind (gives_resolve (hscope registry hregistry) (Index.mem_of_get? ho))
          fun here => .bind ih fun rest => .pure _
      | _ => cases ho

/-! ### Handlers -/

namespace Handler

open Evaluation

variable {scope : PredicateScope} {condition : Condition} {schema : Schema} {e : FilterError}

theorem isConfig_of_regularField {entityType name : String}
    (h : regularField schema entityType name = .error e) : e.isConfig = true := by
  have hfield := regularField_spec schema entityType name
  rw [h] at hfield
  exact hfield.1

theorem isConfig_of_customField {entityType reference : String}
    (h : customField schema entityType reference = .error e) : e.isConfig = true := by
  have hfield := customField_spec schema entityType reference
  rw [h] at hfield
  exact hfield.1

theorem isConfig_of_relationType {entityType relation : String}
    (h : relationType schema entityType relation = .error e) : e.isConfig = true := by
  have hrelation := relationType_spec schema entityType relation
  rw [h] at hrelation
  exact hrelation.1

theorem isConfig_of_propertyType {entityType property : String}
    (h : propertyType schema entityType property = .error e) : e.isConfig = true := by
  have hproperty := propertyType_spec schema entityType property
  rw [h] at hproperty
  exact hproperty.1

theorem isConfig_of_storedOperator {id : OperatorId}
    (h : storedOperator scope condition id = .error e) : e.isConfig = true := by
  unfold storedOperator at h
  split at h
  next => cases h
  next =>
    cases h
    rfl

theorem settled_comparison (hscope : scope.IsOf c) (target : Target) (id : OperatorId)
    (values : List Value) :
    Settled c user today (do
      let o ← Evaluation.ofExcept (storedOperator scope condition id)
      return o.build target (← scope.resolveValues values)) :=
  .ofExcept_bind (fun _ => isConfig_of_storedOperator) fun _ _ =>
    .gives ((PredicateScope.gives_resolveValues hscope values).bind fun _ => .pure _)

theorem settled_range (condition : Condition) (target : Target) (range : DateRange) :
    Settled c user today (rangePredicate condition target range) := by
  cases h : range.resolve? today with
  | none =>
    refine .fails (.config condition.reference .outsideCalendar) rfl fun ctx hctx => ?_
    rw [runIn_rangePredicate, hctx.today, h]
  | some days =>
    cases days with
    | between start stop =>
      exact .gives (.of_runIn (a := .dateRange target start stop) fun ctx hctx => by
        rw [runIn_rangePredicate, hctx.today, h])
    | empty required =>
      exact .gives (.of_runIn (a := (Predicate.compare target .isEmpty []).when required)
        fun ctx hctx => by rw [runIn_rangePredicate, hctx.today, h])

theorem settled_fieldPredicate (hscope : scope.IsOf c) :
    Settled c user today (fieldPredicate scope condition) := by
  unfold fieldPredicate
  split
  next => exact .ofExcept_bind (fun _ => isConfig_of_regularField) fun _ _ =>
    settled_comparison hscope _ _ _
  next => exact .throw rfl

theorem settled_customFieldPredicate (hscope : scope.IsOf c) :
    Settled c user today (customFieldPredicate scope condition) := by
  unfold customFieldPredicate
  split
  next => exact .ofExcept_bind (fun _ => isConfig_of_customField) fun _ _ =>
    settled_comparison hscope _ _ _
  next => exact .throw rfl

theorem settled_dateFieldPredicate : Settled c user today (dateFieldPredicate scope condition) := by
  unfold dateFieldPredicate
  split
  next => exact .ofExcept_bind (fun _ => isConfig_of_regularField) fun _ _ => settled_range _ _ _
  next => exact .throw rfl

theorem settled_dateCustomFieldPredicate :
    Settled c user today (dateCustomFieldPredicate scope condition) := by
  unfold dateCustomFieldPredicate
  split
  next => exact .ofExcept_bind (fun _ => isConfig_of_customField) fun _ _ => settled_range _ _ _
  next => exact .throw rfl

theorem settled_relationPredicate : Settled c user today (relationPredicate scope condition) := by
  unfold relationPredicate
  split
  next => exact .ofExcept_bind (fun _ => isConfig_of_relationType) fun _ _ => .pure _
  next => exact .throw rfl

theorem settled_propertyPredicate : Settled c user today (propertyPredicate scope condition) := by
  unfold propertyPredicate
  split
  next => exact .ofExcept_bind (fun _ => isConfig_of_propertyType) fun _ _ => .pure _
  next => exact .throw rfl

/-- What a handler makes of a condition that points at no filter. -/
theorem settled_of_mem_builtin {handler : Handler} (h : handler ∈ builtin) (hscope : scope.IsOf c)
    (hpoints : condition.subFilterId? = none) :
    Settled c user today (handler.predicate scope condition) := by
  simp only [builtin, List.mem_cons, List.not_mem_nil, or_false] at h
  rcases h with rfl | rfl | rfl | rfl | rfl | rfl | rfl | rfl
  · exact settled_fieldPredicate hscope
  · exact settled_dateFieldPredicate
  · exact settled_customFieldPredicate hscope
  · exact settled_dateCustomFieldPredicate
  · exact settled_relationPredicate
  · dsimp only
    unfold relationSubFilterPredicate
    split
    next present id hpayload =>
      rw [Condition.subFilterId?_eq_some_iff.2 (Or.inr ⟨present, hpayload⟩)] at hpoints
      cases hpoints
    next => exact .throw rfl
  · exact settled_propertyPredicate
  · dsimp only
    unfold subFilterPredicate
    split
    next hpayload =>
      rw [Condition.subFilterId?_eq_some_iff.2 (Or.inl ⟨hpayload, rfl⟩)] at hpoints
      cases hpoints
    next => exact .throw rfl

end Handler

end

/-! ### Conditions -/

namespace Evaluator

open Evaluation Handler

variable {ev : Evaluator} {f g : Filter} {c : Condition} {user : Option ActingUser} {today : Day}

/-- How the predicate of a condition depends on that of the filter that it consults, and on no
other. -/
def DependsOn (ev : Evaluator) (user : Option ActingUser) (today : Day) (f : Filter)
    (c : Condition) : Option Filter → Prop
  | none => ∃ x, Settled ev.catalogs.registries user today x ∧
      ∀ nested, ev.conditionPredicate f nested c = x
  | some g => ∃ wrap : Predicate → Predicate, ∀ nested,
      ev.conditionPredicate f nested c = wrap <$> nested g

theorem isOf_scope (nested : Filter → Evaluation Predicate) :
    (ev.scope f nested).IsOf ev.catalogs.registries :=
  fun _ h => Index.mem_of_get? h

/-- A condition that points at no filter is settled. -/
theorem dependsOn_none (hev : ev.catalogs.handlers = Catalogs.standard.handlers)
    (hpoints : c.subFilterId? = none) : ev.DependsOn user today f c none := by
  refine ⟨ev.conditionPredicate f (fun _ => pure .always) c, ?_, fun nested => ?_⟩
  · refine .ofExcept_bind (fun e he => ?_) fun handler hhandler => ?_
    · unfold Catalogs.handler at he
      split at he
      next => cases he
      next =>
        cases he
        rfl
    · unfold Catalogs.handler at hhandler
      split at hhandler
      next found hfound =>
        cases hhandler
        rw [hev] at hfound
        exact settled_of_mem_builtin (Index.mem_of_mem_ofList (Index.mem_of_get? hfound))
          (isOf_scope _) hpoints
      next => cases hhandler
  · exact conditionPredicate_congr (Catalogs.isLocal_of_handlers_eq hev) fun id hid => by
      rw [hpoints] at hid
      cases hid

theorem ofExcept_error_bind {α β : Type} (e : FilterError) (k : α → Evaluation β) :
    Evaluation.ofExcept (.error e) >>= k = throw e := rfl

theorem dependsOn_of_subFilter (hpayload : c.payload = .subFilter)
    (heq : ∀ nested, ev.conditionPredicate f nested c =
      subFilterPredicate (ev.scope f nested) c) :
    ev.DependsOn user today f c (ev.filters.consulted? ev.schema f.entityType c) := by
  unfold FilterSet.consulted?
  unfold subFilterPredicate PredicateScope.subFilter at heq
  simp only [hpayload, scope] at heq ⊢
  cases hg : ev.filters.get? c.reference with
  | none =>
    simp only [hg, ofExcept_error_bind] at heq
    exact ⟨_, .throw rfl, heq⟩
  | some g =>
    simp only [hg, ofExcept_ok_bind] at heq
    by_cases htype : g.entityType = f.entityType
    · simp only [htype, ne_eq, not_true_eq_false, if_false] at heq
      simp only [htype, Option.filter_some, decide_true, if_true]
      exact ⟨id, fun nested => (heq nested).trans (id_map _).symm⟩
    · simp only [htype, ne_eq, not_false_eq_true, if_true] at heq
      simp only [htype, Option.filter_some, decide_false]
      exact ⟨_, .pure _, heq⟩

theorem dependsOn_of_relationSubFilter {present : Bool} {id : FilterId}
    (hpayload : c.payload = .relationSubFilter present id)
    (heq : ∀ nested, ev.conditionPredicate f nested c =
      relationSubFilterPredicate (ev.scope f nested) c) :
    ev.DependsOn user today f c (ev.filters.consulted? ev.schema f.entityType c) := by
  have hrelation := relationType_spec ev.schema f.entityType c.reference
  unfold FilterSet.consulted?
  unfold relationSubFilterPredicate PredicateScope.subFilter at heq
  simp only [hpayload, scope] at heq ⊢
  cases h : relationType ev.schema f.entityType c.reference with
  | error e =>
    rw [h] at hrelation
    simp only [h, ofExcept_error_bind] at heq
    simp only [hrelation.2]
    exact ⟨_, .throw hrelation.1, heq⟩
  | ok relation =>
    rw [h] at hrelation
    simp only [h, ofExcept_ok_bind] at heq
    simp only [hrelation, if_true]
    cases hg : ev.filters.get? id with
    | none =>
      simp only [hg, ofExcept_error_bind] at heq
      exact ⟨_, .throw rfl, heq⟩
    | some g =>
      simp only [hg, ofExcept_ok_bind] at heq
      by_cases hobject : ev.schema.objectCompatible c.reference g.entityType = true
      · simp only [hobject, Bool.not_true, Bool.false_eq_true, if_false] at heq
        simp only [hobject, Option.filter_some, if_true]
        exact ⟨fun p => (relatedTo c.reference g.entityType p).when present, heq⟩
      · simp only [hobject, Bool.not_false, if_true] at heq
        simp only [hobject, Option.filter_some, Bool.false_eq_true, if_false]
        exact ⟨_, .pure _, heq⟩

/-- **A condition depends on no filter but the one that it consults**: what others make of it is
settled. -/
theorem conditionPredicate_cases (hev : ev.catalogs.handlers = Catalogs.standard.handlers)
    (user : Option ActingUser) (today : Day) (f : Filter) (c : Condition) :
    ev.DependsOn user today f c (ev.filters.consulted? ev.schema f.entityType c) := by
  have heq : ∀ handler ∈ Handler.builtin, c.kind = handler.kind → ∀ nested,
      ev.conditionPredicate f nested c = handler.predicate (ev.scope f nested) c := by
    intro handler hhandler hkind nested
    exact conditionPredicate_of_get? (by
      rw [hev, hkind]
      exact Catalogs.get?_standard_handlers hhandler)
  cases hpoints : c.subFilterId? with
  | none =>
    cases hconsulted : ev.filters.consulted? ev.schema f.entityType c with
    | none => exact dependsOn_none hev hpoints
    | some g =>
      rw [FilterSet.subFilterId?_of_consulted? hconsulted] at hpoints
      cases hpoints
  | some id =>
    rcases Condition.subFilterId?_eq_some_iff.1 hpoints with ⟨hpayload, -⟩ | ⟨present, hpayload⟩
    · exact dependsOn_of_subFilter hpayload (heq ⟨.subFilter, validateSubFilter, subFilterPredicate⟩
        (by simp [builtin]) (Condition.kind_of_payload_subFilter hpayload))
    · exact dependsOn_of_relationSubFilter hpayload (heq
        ⟨.relationSubFilter, validateRelationSubFilter, relationSubFilterPredicate⟩
        (by simp [builtin]) (Condition.kind_of_payload_relationSubFilter hpayload))

/-- A condition is handed the predicate of the filter that it consults, and no other. -/
theorem conditionPredicate_eq_of_consulted {nested nested' : Filter → Evaluation Predicate}
    (hev : ev.catalogs.handlers = Catalogs.standard.handlers)
    (h : ∀ g, ev.filters.consulted? ev.schema f.entityType c = some g → nested g = nested' g) :
    ev.conditionPredicate f nested c = ev.conditionPredicate f nested' c := by
  funext ctx
  have hc := conditionPredicate_cases hev ctx.user ctx.today f c
  cases hconsulted : ev.filters.consulted? ev.schema f.entityType c with
  | none =>
    rw [hconsulted] at hc
    obtain ⟨x, -, heq⟩ := hc
    rw [heq, heq]
  | some g =>
    rw [hconsulted] at hc
    obtain ⟨wrap, heq⟩ := hc
    rw [heq, heq, h g hconsulted]

end Evaluator

end RecordFilters
