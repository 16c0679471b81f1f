import RecordFilters.Proofs.Evaluation.Meaning
import RecordFilters.Proofs.Evaluation.Steps
import RecordFilters.Proofs.Handler.Accepted
import RecordFilters.Proofs.Predicate.Folding
import RecordFilters.Evaluation.Compile

/-! # What handlers make of conditions

The handlers of this library make of a condition a predicate that means what the condition says.
A condition that says nothing makes them fail with an error of configuration.

* `Says` is how a step stands to what a condition says.
* `Evaluator.conditionPredicate_spec`: a condition that consults no other filter is made what it
  says; the others hand on the predicate of the filter that they consult. -/

namespace RecordFilters

/-- The setting of an evaluation. -/
def Evaluator.setting (ev : Evaluator) (records : RecordSet) (user : Option ActingUser)
    (today : Day) : Setting :=
  ⟨ev.catalogs.registries, ev.schema, ev.filters, records, user, today⟩

/-- What a context has resolved are the values that the operands of a setting stand for. -/
def Setting.AgreedBy (s : Setting) (ctx : Context) : Prop :=
  ctx.AgreesWith s.registries s.user s.today

/-- How a step stands to what a condition says. It fails, changing nothing, where the condition says
nothing; else its predicate holds of the records that the condition holds of. -/
def Says (s : Setting) (x : Evaluation Predicate) (ctx : Context) :
    Option (Record → Bool) → Prop
  | none => ∃ e, x.runIn ctx = (.error e, ctx) ∧ e.isConfig = true
  | some test => ∃ p ctx', x.runIn ctx = (.ok p, ctx') ∧ ctx'.memo = ctx.memo ∧
      ctx.Grows s.registries ctx' ∧ (s.AgreedBy ctx' → ∀ r, p.holds s.records r = test r)

variable {s : Setting} {ctx : Context}

theorem says_pure {p : Predicate} {test : Record → Bool}
    (h : ∀ r, p.holds s.records r = test r) : Says s (pure p) ctx (some test) :=
  ⟨p, ctx, rfl, rfl, Context.Grows.refl _ _, fun _ => h⟩

theorem says_error {α : Type} {e : FilterError} (he : e.isConfig = true)
    (k : α → Evaluation Predicate) :
    Says s (Evaluation.ofExcept (.error e) >>= k) ctx none :=
  ⟨e, Evaluation.runIn_bind_error (Evaluation.runIn_ofExcept_error e) k, he⟩

/-! ### Operators -/

namespace Operator
variable {records : RecordSet} {r : Record}

theorem holds_comparing {c : Comparison} {keep : Bool} {target : Target} {values : List Value} :
    (comparing c keep target values).holds records r =
      ((r.value target).compares c values == keep) := by
  unfold comparing
  rw [Predicate.holds_when, Predicate.holds_compare]

theorem holds_testingEmptiness {target : Target} {values : List Value} :
    (testingEmptiness target values).holds records r =
      ((r.value target).isEmpty == ((values.head?).bind Value.flag?).getD true) := by
  unfold testingEmptiness
  rw [Predicate.holds_when, Predicate.holds_compare]
  rfl

/-- The predicates of the standard operators mean what the operators say. -/
theorem test?_of_standard {o : Operator} (ho : o ∈ standard) : ∃ test, test? o.id = some test ∧
    ∀ records r target values,
      (o.build target values).holds records r = test (r.value target) values := by
  simp only [standard, List.mem_cons, List.not_mem_nil, or_false] at ho
  rcases ho with rfl | rfl | rfl | rfl | rfl | rfl | rfl | rfl | rfl | rfl | rfl | rfl | rfl |
    rfl | rfl | rfl | rfl | rfl | rfl | rfl | rfl | rfl
  case inr.inr.inr.inr.inr.inr.inr.inr.inr.inr.inr.inr.inr.inr.inr.inr.inr.inr.inr.inr.inl =>
    exact ⟨_, rfl, fun _ _ _ _ => holds_testingEmptiness⟩
  all_goals
    refine ⟨_, rfl, ?_⟩
    intro records r target values
    dsimp only
    rw [holds_comparing]

theorem test?_eq_none {id : OperatorId} (h : OperatorCatalog.standard.get? id = none) :
    test? id = none := by
  have keys : OperatorCatalog.standard.keys =
    [1, 2, 3, 4, 5, 6, 7, 8, 9, 10, 11, 12, 13, 14, 15, 16, 17, 18, 19, 20, 21, 22] := by rfl
  have hne : id ∉ OperatorCatalog.standard.keys := by
    intro hmem
    obtain ⟨o, ho, hid⟩ := List.mem_map.1 hmem
    exact Index.get?_eq_none_iff.1 h o ho hid
  rw [keys] at hne
  simp only [List.mem_cons, List.not_mem_nil, or_false, not_or] at hne
  have hnone : comparison? id = none := by
    unfold comparison?
    rw [List.lookup_eq_none_iff]
    simp [hne]
  unfold test?
  simp only [hne, if_false, hnone]

end Operator

namespace Handler

open Evaluation

variable {c : Condition}

/-! ### What a reference names -/

/-- A look-up finds what is there, or fails with an error of configuration. -/
def Finds {α β : Type} (x : Except FilterError α) (read : α → β) (there : Option β) : Prop :=
  match x with
  | .error e => e.isConfig = true ∧ there = none
  | .ok a => there = some (read a)

/-- What goes on from a look-up says nothing if it fails. -/
theorem says_bind {α β : Type} {x : Except FilterError α} {read : α → β} {there : Option β}
    {k : β → Evaluation Predicate} {said : β → Option (Record → Bool)} (hx : Finds x read there)
    (hk : ∀ b, Says s (k b) ctx (said b)) :
    Says s (Evaluation.ofExcept x >>= fun a => k (read a)) ctx (there.bind said) := by
  unfold Finds at hx
  cases x with
  | error e =>
    rw [hx.2]
    exact says_error hx.1 _
  | ok a =>
    rw [hx, ofExcept_ok_bind]
    exact hk _

theorem regularField_spec (s : Schema) (entityType name : String) :
    match regularField s entityType name with
    | .error e => e.isConfig = true ∧ (s.field? entityType name).any Field.isFilterable = false
    | .ok _ => (s.field? entityType name).any Field.isFilterable = true := by
  unfold regularField
  cases s.field? entityType name with
  | none => exact ⟨rfl, rfl⟩
  | some field =>
    by_cases h : field.isFilterable = true
    · simp [h]
    · simp [h, FilterError.isConfig]

theorem customField_spec (s : Schema) (entityType reference : String) :
    match customField s entityType reference with
    | .error e => e.isConfig = true ∧ (((Uuid.ofText? reference).bind s.customField?).filter
        fun field => field.entityType = entityType) = none
    | .ok field => (((Uuid.ofText? reference).bind s.customField?).filter
        fun field => field.entityType = entityType) = some field := by
  unfold customField
  cases Uuid.ofText? reference with
  | none => exact ⟨rfl, rfl⟩
  | some id =>
    dsimp only
    cases hfield : s.customField? id with
    | none => simp [hfield, FilterError.isConfig]
    | some field =>
      by_cases h : field.entityType = entityType
      · simp [hfield, h]
      · simp [hfield, h, FilterError.isConfig]

theorem finds_regularField (s : Setting) (entityType : String)
    (hkind : c.kind = .field ∨ c.kind = .dateField) :
    Finds (regularField s.schema entityType c.reference) (fun _ => Target.field c.reference)
      (s.target? entityType c) := by
  have target : s.target? entityType c =
      if (s.schema.field? entityType c.reference).any Field.isFilterable then
        some (.field c.reference) else none := by
    unfold Setting.target?
    rcases hkind with h | h <;> rw [h]
  have hfield := regularField_spec s.schema entityType c.reference
  rw [target]
  unfold Finds
  cases h : regularField s.schema entityType c.reference with
  | error e =>
    rw [h] at hfield
    exact ⟨hfield.1, if_neg (by simp [hfield.2])⟩
  | ok field =>
    rw [h] at hfield
    exact if_pos hfield

theorem finds_customField (s : Setting) (entityType : String)
    (hkind : c.kind = .customField ∨ c.kind = .dateCustomField) :
    Finds (customField s.schema entityType c.reference) (fun field => Target.custom field.id)
      (s.target? entityType c) := by
  have target : s.target? entityType c =
      (((Uuid.ofText? c.reference).bind s.schema.customField?).filter fun field =>
        field.entityType = entityType).map fun field => .custom field.id := by
    unfold Setting.target?
    rcases hkind with h | h <;> rw [h]
  have hfield := customField_spec s.schema entityType c.reference
  rw [target]
  unfold Finds
  cases h : customField s.schema entityType c.reference with
  | error e =>
    rw [h] at hfield
    rw [hfield.2]
    exact ⟨hfield.1, rfl⟩
  | ok field =>
    rw [h] at hfield
    rw [hfield]
    rfl

theorem propertyType_spec (s : Schema) (entityType property : String) :
    match propertyType s entityType property with
    | .error e => e.isConfig = true ∧ s.carries entityType property = false
    | .ok _ => s.carries entityType property = true := by
  unfold propertyType Schema.carries
  cases s.propertyType? property with
  | none => exact ⟨rfl, rfl⟩
  | some p =>
    by_cases h : p.accepts entityType = true
    · simp [h]
    · simp [h, FilterError.isConfig]

/-! ### Comparisons and dates -/

theorem storedOperator_spec {scope : PredicateScope} (hscope : scope.operators = .standard)
    (c : Condition) (id : OperatorId) :
    match storedOperator scope c id with
    | .error e => e.isConfig = true ∧ Operator.test? id = none
    | .ok o => ∃ test, Operator.test? id = some test ∧ ∀ records r target values,
        (o.build target values).holds records r = test (r.value target) values := by
  unfold storedOperator
  rw [hscope]
  cases h : OperatorCatalog.standard.get? id with
  | none => exact ⟨rfl, Operator.test?_eq_none h⟩
  | some o =>
    obtain ⟨ho, rfl⟩ := Index.get?_eq_some_iff.1 h
    exact Operator.test?_of_standard (Index.mem_of_mem_ofList ho)

theorem substitute_cons (filterType : FilterType) (v : Value) (values : List Value) :
    s.substitute filterType (v :: values) =
      s.standsFor filterType v ++ s.substitute filterType values :=
  List.flatMap_cons

/-- A stored value is an operand of a registry and stands for its values, or stands for itself. -/
theorem operand?_spec {scope : PredicateScope} {filterType : FilterType}
    (hscope : scope.registry = s.registries.get? filterType) (v : Value) :
    match scope.operand? v with
    | none => s.standsFor filterType v = [v]
    | some o => s.standsFor filterType v = o.resolve s.user s.today ∧
        ∃ registry ∈ s.registries, o ∈ registry.operands := by
  cases v with
  | text name =>
    unfold PredicateScope.operand? Setting.standsFor
    rw [hscope]
    cases hregistry : s.registries.get? filterType with
    | none => rfl
    | some registry =>
      dsimp only [Option.bind_some]
      cases ho : registry.operands.get? name with
      | none => rfl
      | some o => exact ⟨rfl, registry, Index.mem_of_get? hregistry, Index.mem_of_get? ho⟩
  | _ => rfl

/-- Stored values are resolved to what the operands among them stand for. -/
theorem resolveValues_spec {scope : PredicateScope} {filterType : FilterType}
    (hscope : scope.registry = s.registries.get? filterType) (values : List Value) :
    ∃ out ctx', (scope.resolveValues values).runIn ctx = (.ok out, ctx') ∧ ctx'.memo = ctx.memo ∧
      ctx.Grows s.registries ctx' ∧
        (s.AgreedBy ctx' → out = s.substitute filterType values) := by
  induction values generalizing ctx with
  | nil => exact ⟨[], ctx, rfl, rfl, Context.Grows.refl _ _, fun _ => rfl⟩
  | cons v values ih =>
    have hv := operand?_spec hscope v
    unfold PredicateScope.resolveValues
    cases ho : scope.operand? v with
    | none =>
      rw [ho] at hv
      obtain ⟨rest, ctx', hrun, hmemo, hgrows, hrest⟩ := @ih ctx
      refine ⟨v :: rest, ctx', ?_, hmemo, hgrows, fun hagrees => ?_⟩
      · dsimp only
        rw [runIn_bind_ok (runIn_pure [v]), runIn_bind_ok hrun]
        rfl
      · rw [substitute_cons, hv, hrest hagrees]
        rfl
    | some o =>
      rw [ho] at hv
      obtain ⟨hsubstitute, registry, hregistry, hmem⟩ := hv
      obtain ⟨here, ctx₁, hrun₁, hmemo₁, hgrows₁, hentry⟩ := @resolve_spec _ ctx _ _ hregistry hmem
      obtain ⟨rest, ctx₂, hrun₂, hmemo₂, hgrows₂, hrest⟩ := @ih ctx₁
      refine ⟨here ++ rest, ctx₂, ?_, hmemo₂.trans hmemo₁, hgrows₁.trans hgrows₂,
        fun hagrees => ?_⟩
      · dsimp only
        rw [runIn_bind_ok hrun₁, runIn_bind_ok hrun₂]
        rfl
      · have hhere : o.resolve s.user s.today = here :=
          hagrees.of_grows hgrows₂ registry hregistry o hmem here hentry
        rw [substitute_cons, hsubstitute, hhere, hrest hagrees]

/-- A comparison of a target. -/
theorem says_comparison {scope : PredicateScope} {filterType : FilterType}
    (hoperators : scope.operators = .standard)
    (hscope : scope.registry = s.registries.get? filterType) (target : Target) (id : OperatorId)
    (values : List Value) :
    Says s (do
        let o ← Evaluation.ofExcept (storedOperator scope c id)
        return o.build target (← scope.resolveValues values)) ctx
      ((Operator.test? id).map fun test r =>
        test (r.value target) (s.substitute filterType values)) := by
  have ho := storedOperator_spec hoperators c id
  cases h : storedOperator scope c id with
  | error e =>
    rw [h] at ho
    rw [ho.2]
    exact says_error ho.1 _
  | ok o =>
    rw [h] at ho
    obtain ⟨test, htest, hholds⟩ := ho
    rw [htest]
    obtain ⟨out, ctx', hrun, hmemo, hgrows, hout⟩ := resolveValues_spec hscope values
    refine ⟨o.build target out, ctx', ?_, hmemo, hgrows, fun hagrees r => ?_⟩
    · rw [runIn_bind_ok (runIn_ofExcept_ok o), runIn_bind_ok hrun]
      rfl
    · rw [hholds, hout hagrees]

/-- A range of a target, on the day of evaluation. -/
theorem runIn_rangePredicate (c : Condition) (target : Target) (range : DateRange) (ctx : Context) :
    (rangePredicate c target range).runIn ctx =
      match range.resolve? ctx.today with
      | none => (.error (.config c.reference .outsideCalendar), ctx)
      | some (.between start stop) => (.ok (.dateRange target start stop), ctx)
      | some (.empty required) =>
        (.ok ((Predicate.compare target .isEmpty []).when required), ctx) := by
  unfold rangePredicate
  rw [runIn_bind_ok runIn_get]
  cases range.resolve? ctx.today with
  | none => rfl
  | some days => cases days <;> rfl

theorem says_range (hday : ctx.today = s.today) (target : Target) (range : DateRange) :
    Says s (rangePredicate c target range) ctx
      ((range.resolve? s.today).map fun days r => days.admits (r.value target)) := by
  have hrun := runIn_rangePredicate c target range ctx
  rw [hday] at hrun
  cases h : range.resolve? s.today with
  | none =>
    rw [h] at hrun
    exact ⟨_, hrun, rfl⟩
  | some days =>
    rw [h] at hrun
    cases days with
    | between start stop =>
      refine ⟨_, ctx, hrun, rfl, Context.Grows.refl _ _, fun _ r => ?_⟩
      rw [Predicate.holds_dateRange]
      rfl
    | empty required =>
      refine ⟨_, ctx, hrun, rfl, Context.Grows.refl _ _, fun _ r => ?_⟩
      rw [Predicate.holds_when, Predicate.holds_compare]
      rfl

/-! ### The handlers -/

/-- A scope shows a setting to the handlers of the conditions of a filter. -/
structure Shows (scope : PredicateScope) (s : Setting) (f : Filter) : Prop where
  operators : scope.operators = .standard
  schema : scope.schema = s.schema
  filters : scope.filters = s.filters
  entityType : scope.entityType = f.entityType
  registry : scope.registry = s.registries.get? f.filterType

variable {scope : PredicateScope} {f g : Filter} {sub : Filter → Record → Bool}

theorem says_fieldPredicate (hscope : Shows scope s f) (hkind : c.kind = .field)
    {id : OperatorId} {values : List Value} (hpayload : c.payload = .comparison id values) :
    Says s (fieldPredicate scope c) ctx (s.test? sub f c) := by
  have hfield := finds_regularField s f.entityType (Or.inl hkind)
  unfold fieldPredicate Setting.test?
  rw [hpayload, hscope.schema, hscope.entityType]
  exact says_bind hfield fun target =>
    says_comparison hscope.operators hscope.registry target id values

/-- A custom field that is marked as deleted is read all the same. -/
theorem says_customFieldPredicate (hscope : Shows scope s f) (hkind : c.kind = .customField)
    {id : OperatorId} {values : List Value} (hpayload : c.payload = .comparison id values) :
    Says s (customFieldPredicate scope c) ctx (s.test? sub f c) := by
  have hfield := finds_customField s f.entityType (Or.inl hkind)
  unfold customFieldPredicate Setting.test?
  rw [hpayload, hscope.schema, hscope.entityType]
  exact says_bind hfield fun target =>
    says_comparison hscope.operators hscope.registry target id values

theorem says_dateFieldPredicate (hscope : Shows scope s f) (hkind : c.kind = .dateField)
    (hday : ctx.today = s.today) {range : DateRange} (hpayload : c.payload = .dates range) :
    Says s (dateFieldPredicate scope c) ctx (s.test? sub f c) := by
  have hfield := finds_regularField s f.entityType (Or.inr hkind)
  unfold dateFieldPredicate Setting.test?
  rw [hpayload, hscope.schema, hscope.entityType]
  exact says_bind hfield fun target => says_range hday target range

theorem says_dateCustomFieldPredicate (hscope : Shows scope s f)
    (hkind : c.kind = .dateCustomField) (hday : ctx.today = s.today) {range : DateRange}
    (hpayload : c.payload = .dates range) :
    Says s (dateCustomFieldPredicate scope c) ctx (s.test? sub f c) := by
  have hfield := finds_customField s f.entityType (Or.inr hkind)
  unfold dateCustomFieldPredicate Setting.test?
  rw [hpayload, hscope.schema, hscope.entityType]
  exact says_bind hfield fun target => says_range hday target range

theorem says_relationPredicate (hscope : Shows scope s f) {present : Bool}
    {object objectType : Option String} (hpayload : c.payload = .relation present object objectType) :
    Says s (relationPredicate scope c) ctx (s.test? sub f c) := by
  have hrelation := relationType_spec s.schema f.entityType c.reference
  unfold relationPredicate Setting.test?
  rw [hpayload, hscope.schema, hscope.entityType]
  dsimp only
  cases h : relationType s.schema f.entityType c.reference with
  | error e =>
    rw [h] at hrelation
    rw [hrelation.2]
    exact says_error hrelation.1 _
  | ok relation =>
    rw [h] at hrelation
    rw [hrelation, ofExcept_ok_bind]
    refine says_pure fun r => ?_
    rw [Predicate.holds_when, Predicate.holds_related]
    congr 2
    funext place
    obtain ⟨kind, id⟩ := place
    unfold Setting.isObject
    cases object <;> cases objectType <;> rfl

theorem says_propertyPredicate (hscope : Shows scope s f) {present : Bool}
    (hpayload : c.payload = .property present) :
    Says s (propertyPredicate scope c) ctx (s.test? sub f c) := by
  have hproperty := propertyType_spec s.schema f.entityType c.reference
  unfold propertyPredicate Setting.test?
  rw [hpayload, hscope.schema, hscope.entityType]
  dsimp only
  cases h : propertyType s.schema f.entityType c.reference with
  | error e =>
    rw [h] at hproperty
    rw [hproperty.2]
    exact says_error hproperty.1 _
  | ok property =>
    rw [h] at hproperty
    rw [hproperty, ofExcept_ok_bind]
    refine says_pure fun r => ?_
    rw [Predicate.holds_when, Predicate.holds_hasProperty]

/-- How a step hands on the predicate of another filter: what it makes of a predicate that means
what the filter says means what the condition says. -/
def HandsOn (s : Setting) (nested : Filter → Evaluation Predicate) (f : Filter) (c : Condition)
    (g : Filter) (x : Evaluation Predicate) : Prop :=
  ∃ wrap : Predicate → Predicate, x = wrap <$> nested g ∧
    ∀ (sub : Filter → Record → Bool) (p : Predicate),
      (∀ r, p.holds s.records r = sub g r) → ∃ test, s.test? sub f c = some test ∧
        ∀ r, (wrap p).holds s.records r = test r

theorem subFilterPredicate_spec (hscope : Shows scope s f) (hpayload : c.payload = .subFilter) :
    match s.consulted? f c with
    | none => Says s (subFilterPredicate scope c) ctx (s.test? sub f c)
    | some g => HandsOn s scope.nested f c g (subFilterPredicate scope c) := by
  unfold HandsOn subFilterPredicate PredicateScope.subFilter Setting.consulted? FilterSet.consulted?
    Setting.test?
  rw [hpayload, hscope.filters, hscope.entityType]
  dsimp only
  cases hg : s.filters.get? c.reference with
  | none => exact says_error rfl _
  | some g =>
    rw [ofExcept_ok_bind]
    by_cases htype : g.entityType = f.entityType
    · simp only [htype, Option.filter_some, decide_true, if_true, ne_eq, not_true_eq_false,
        if_false]
      refine ⟨id, (id_map _).symm, fun sub p hp => ⟨_, rfl, fun r => ?_⟩⟩
      simp only [id, hp, htype, decide_true, Bool.true_and]
    · simp only [htype, Option.filter_some, decide_false, ne_eq, not_false_eq_true, if_true]
      refine says_pure fun r => ?_
      simp [htype]

theorem any_objects (relation : String) (r : Record) (q : Record → Bool) :
    (s.objects relation r).any q = r.relations.any fun (kind, id) => kind = relation &&
      match s.records.get? id with
      | some o => q o
      | none => false := by
  unfold Setting.objects
  rw [List.any_filterMap]
  congr 1
  funext place
  obtain ⟨kind, id⟩ := place
  by_cases h : kind = relation
  · simp only [h, if_true, decide_true, Bool.true_and]
    cases s.records.get? id <;> rfl
  · simp [h]

theorem holds_relatedTo (relation entityType : String) (p : Predicate) (r : Record) :
    (relatedTo relation entityType p).holds s.records r =
      (s.objects relation r).any fun o => o.entityType = entityType && p.holds s.records o := by
  rw [any_objects]
  unfold relatedTo
  split
  next =>
    rw [Predicate.holds_never, eq_comm, List.any_eq_false]
    rintro ⟨kind, id⟩ -
    dsimp only
    cases s.records.get? id <;> simp
  next =>
    rw [Predicate.holds_related]
    congr 1
    funext place
    obtain ⟨kind, id⟩ := place
    dsimp only [ObjectTest.accepts]
    cases s.records.get? id <;> simp
  next => rfl

theorem relationSubFilterPredicate_spec (hscope : Shows scope s f) {present : Bool} {id : FilterId}
    (hpayload : c.payload = .relationSubFilter present id) :
    match s.consulted? f c with
    | none => Says s (relationSubFilterPredicate scope c) ctx (s.test? sub f c)
    | some g => HandsOn s scope.nested f c g (relationSubFilterPredicate scope c) := by
  have hrelation := relationType_spec s.schema f.entityType c.reference
  unfold HandsOn relationSubFilterPredicate PredicateScope.subFilter Setting.consulted?
    FilterSet.consulted? Setting.test?
  rw [hpayload, hscope.schema, hscope.filters, hscope.entityType]
  dsimp only
  cases h : relationType s.schema f.entityType c.reference with
  | error e =>
    rw [h] at hrelation
    rw [hrelation.2]
    exact says_error hrelation.1 _
  | ok relation =>
    rw [h] at hrelation
    rw [hrelation, ofExcept_ok_bind]
    cases hg : s.filters.get? id with
    | none => exact says_error rfl _
    | some g =>
      rw [ofExcept_ok_bind]
      by_cases hobject : s.schema.objectCompatible c.reference g.entityType = true
      · simp only [hobject, Option.filter_some, if_true, Bool.not_true, Bool.false_eq_true,
          if_false]
        refine ⟨fun p => (relatedTo c.reference g.entityType p).when present, rfl,
          fun sub p hp => ⟨_, rfl, fun r => ?_⟩⟩
        rw [Predicate.holds_when, holds_relatedTo]
        simp only [hp, hobject, Bool.true_and]
      · simp only [hobject, Option.filter_some, if_true, Bool.not_false, Bool.false_eq_true,
          if_false]
        refine says_pure fun r => ?_
        simp [hobject]

end Handler

/-! ### Conditions -/

/-- Catalogs with the handlers and the operators of this library. -/
structure Catalogs.HasStandard (c : Catalogs) : Prop where
  handlers : c.handlers = Catalogs.standard.handlers
  operators : c.operators = .standard

namespace Catalogs

theorem HasStandard.get?_handlers {c : Catalogs} (h : c.HasStandard) {handler : Handler}
    (hmem : handler ∈ Handler.builtin) : c.handlers.get? handler.kind = some handler := by
  rw [h.handlers]
  exact get?_standard_handlers hmem

theorem HasStandard.hasReferenceHandlers {c : Catalogs} (h : c.HasStandard) :
    c.HasReferenceHandlers :=
  fun _ hmem _ => h.get?_handlers hmem

/-- Nothing handles the kinds of extensions. -/
theorem get?_standard_handlers_other {id : UInt16} {hid : id ∉ builtinKindIds} :
    Catalogs.standard.handlers.get? (.other id hid) = none := by
  refine Index.get?_eq_none_iff.2 fun handler hmem hkind => ?_
  have hmem : handler ∈ Handler.builtin := Index.mem_of_mem_ofList hmem
  simp only [Handler.builtin, List.mem_cons, List.not_mem_nil, or_false] at hmem
  rcases hmem with rfl | rfl | rfl | rfl | rfl | rfl | rfl | rfl <;> cases hkind

theorem HasStandard.get?_handlers_other {c : Catalogs} (h : c.HasStandard) {id : UInt16}
    {hid : id ∉ builtinKindIds} : c.handlers.get? (.other id hid) = none := by
  rw [h.handlers]
  exact get?_standard_handlers_other

end Catalogs

namespace Evaluator

open Evaluation Handler

variable {ev : Evaluator} {f g : Filter} {c : Condition} {records : RecordSet}
  {user : Option ActingUser} {today : Day} {sub : Filter → Record → Bool}
  {nested : Filter → Evaluation Predicate}

theorem conditionPredicate_of_get? {handler : Handler}
    (h : ev.catalogs.handlers.get? c.kind = some handler) :
    ev.conditionPredicate f nested c = handler.predicate (ev.scope f nested) c := by
  unfold conditionPredicate Catalogs.handler
  rw [h]
  rfl

theorem conditionPredicate_of_mem (hev : ev.catalogs.handlers = Catalogs.standard.handlers)
    (handler : Handler) (hhandler : handler ∈ Handler.builtin) (hkind : c.kind = handler.kind) :
    ev.conditionPredicate f nested c = handler.predicate (ev.scope f nested) c :=
  conditionPredicate_of_get? (by rw [hev, hkind, Catalogs.get?_standard_handlers hhandler])

theorem conditionPredicate_eq (hev : ev.catalogs.HasStandard) (handler : Handler)
    (hhandler : handler ∈ Handler.builtin) (hkind : c.kind = handler.kind) :
    ev.conditionPredicate f nested c = handler.predicate (ev.scope f nested) c :=
  conditionPredicate_of_mem hev.handlers handler hhandler hkind

theorem says_of_other (hev : ev.catalogs.HasStandard) {id : UInt16} {h : id ∉ builtinKindIds}
    (hkind : c.kind = .other id h) :
    Says (ev.setting records user today) (ev.conditionPredicate f nested c) ctx none := by
  unfold conditionPredicate Catalogs.handler
  rw [hkind, hev.get?_handlers_other]
  exact says_error rfl _

theorem shows_scope (hev : ev.catalogs.HasStandard) :
    Shows (ev.scope f nested) (ev.setting records user today) f :=
  ⟨hev.operators, rfl, rfl, rfl, rfl⟩

/-- **A condition is turned into what it says**, or into what the filter that it consults means. -/
theorem conditionPredicate_spec (hev : ev.catalogs.HasStandard) (hday : ctx.today = today)
    (records : RecordSet) (user : Option ActingUser) (nested : Filter → Evaluation Predicate)
    (sub : Filter → Record → Bool) (f : Filter) (c : Condition) :
    match (ev.setting records user today).consulted? f c with
    | none => Says (ev.setting records user today) (ev.conditionPredicate f nested c) ctx
        ((ev.setting records user today).test? sub f c)
    | some g => HandsOn (ev.setting records user today) nested f c g
        (ev.conditionPredicate f nested c) := by
  have hscope : Shows (ev.scope f nested) (ev.setting records user today) f := shows_scope hev
  have hpayload := c.payload_of_kind
  cases hkind : c.kind with
  | field =>
    rw [hkind] at hpayload
    obtain ⟨id, stored, hpayload⟩ := hpayload
    rw [conditionPredicate_eq hev ⟨.field, validateField, fieldPredicate⟩
      (by simp [Handler.builtin]) hkind, Setting.consulted?, FilterSet.consulted?, hpayload]
    exact says_fieldPredicate hscope hkind hpayload
  | customField =>
    rw [hkind] at hpayload
    obtain ⟨id, stored, hpayload⟩ := hpayload
    rw [conditionPredicate_eq hev ⟨.customField, validateCustomField, customFieldPredicate⟩
      (by simp [Handler.builtin]) hkind, Setting.consulted?, FilterSet.consulted?, hpayload]
    exact says_customFieldPredicate hscope hkind hpayload
  | dateField =>
    rw [hkind] at hpayload
    obtain ⟨range, hpayload⟩ := hpayload
    rw [conditionPredicate_eq hev ⟨.dateField, validateDateField, dateFieldPredicate⟩
      (by simp [Handler.builtin]) hkind, Setting.consulted?, FilterSet.consulted?, hpayload]
    exact says_dateFieldPredicate hscope hkind hday hpayload
  | dateCustomField =>
    rw [hkind] at hpayload
    obtain ⟨range, hpayload⟩ := hpayload
    rw [conditionPredicate_eq hev
      ⟨.dateCustomField, validateDateCustomField, dateCustomFieldPredicate⟩
      (by simp [Handler.builtin]) hkind, Setting.consulted?, FilterSet.consulted?, hpayload]
    exact says_dateCustomFieldPredicate hscope hkind hday hpayload
  | relation =>
    rw [hkind] at hpayload
    obtain ⟨present, object, objectType, hpayload⟩ := hpayload
    rw [conditionPredicate_eq hev ⟨.relation, validateRelation, relationPredicate⟩
      (by simp [Handler.builtin]) hkind, Setting.consulted?, FilterSet.consulted?, hpayload]
    exact says_relationPredicate hscope hpayload
  | property =>
    rw [hkind] at hpayload
    obtain ⟨present, hpayload⟩ := hpayload
    rw [conditionPredicate_eq hev ⟨.property, validateProperty, propertyPredicate⟩
      (by simp [Handler.builtin]) hkind, Setting.consulted?, FilterSet.consulted?, hpayload]
    exact says_propertyPredicate hscope hpayload
  | relationSubFilter =>
    rw [hkind] at hpayload
    obtain ⟨present, id, hpayload⟩ := hpayload
    rw [conditionPredicate_eq hev
      ⟨.relationSubFilter, validateRelationSubFilter, relationSubFilterPredicate⟩
      (by simp [Handler.builtin]) hkind]
    exact relationSubFilterPredicate_spec hscope hpayload
  | subFilter =>
    rw [hkind] at hpayload
    rw [conditionPredicate_eq hev ⟨.subFilter, validateSubFilter, subFilterPredicate⟩
      (by simp [Handler.builtin]) hkind]
    exact subFilterPredicate_spec hscope hpayload
  | other id h =>
    rw [hkind] at hpayload
    obtain ⟨document, hpayload⟩ := hpayload
    rw [Setting.consulted?, FilterSet.consulted?, Setting.test?, hpayload]
    exact says_of_other hev hkind

end Evaluator

end RecordFilters
