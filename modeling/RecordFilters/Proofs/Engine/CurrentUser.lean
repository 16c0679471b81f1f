import RecordFilters.Proofs.Engine.Soundness
import RecordFilters.Proofs.Handler.UserOperand

/-! # What the acting user is to a filter

Where no extension brings a handler or an operand, the acting user comes into a filter by one name
only. Whoever stores a condition with that name has it checked that the user may stand there, and
what is stored stays as it was checked. So a filter that is not the same for all users holds a
condition that asks for the user, or leads to a filter that holds one; every other value is taken as
it is, and the rights of the user make no difference.

* `Value.seenBy`: what a value is for an acting user.
* `Engine.forall_conditions_answer`: what holds of all accepted conditions keeps holding of all
  stored ones.
* `Engine.AsksByName`: what a filter can get from the acting user.
* `Engine.asksByName_run_of_build`: no stored filter gets more. -/

namespace RecordFilters

variable {user user' : Option ActingUser} {today : Day} {o : Operand}

/-! ### Values -/

/-- A value for an acting user: the name of the acting user is that user with the teams they bring,
and every other value is itself. -/
def Value.seenBy (user : Option ActingUser) : Value → List Value
  | .text s => if s = Operand.currentUserId then Operand.currentUserValues user else [.text s]
  | v => [v]

theorem Value.seenBy_currentUserName :
    Operand.currentUserName.seenBy user = Operand.currentUserValues user := by
  unfold seenBy Operand.currentUserName
  exact if_pos rfl

theorem Value.seenBy_of_ne {v : Value} (h : v ≠ Operand.currentUserName) : v.seenBy user = [v] := by
  unfold seenBy
  split
  next s =>
    refine if_neg ?_
    rintro rfl
    exact h rfl
  next => rfl

namespace Catalogs.Plain

variable {c : Catalogs}

theorem eq_currentUser (h : c.Plain) {filterType : FilterType} {registry : Registry}
    (hregistry : c.registries.get? filterType = some registry) (ho : o ∈ registry.operands) :
    o = .currentUser :=
  OperandCatalog.eq_currentUser (h.registered registry (Index.mem_of_get? hregistry) o ho)

theorem unambiguous (h : c.Plain) (user : Option ActingUser) (today : Day) :
    c.registries.Unambiguous user today :=
  RegistryCatalog.unambiguous_of_mem h.registered user today

end Catalogs.Plain

/-- The operands of a declared filter type are known ones. -/
theorem FilterTypeConfig.mem_of_pickOperands {filterType : String} {known : OperandCatalog}
    {ids : List String} {operands : List Operand}
    (h : pickOperands filterType known ids = .ok operands) (ho : o ∈ operands) : o ∈ known := by
  induction ids generalizing operands with
  | nil =>
    cases h
    cases ho
  | cons id ids ih =>
    unfold pickOperands at h
    split at h
    next first hfirst =>
      obtain ⟨rest, hrest, rfl⟩ := map_eq_ok_iff.1 h
      rcases List.mem_cons.1 ho with rfl | ho
      · exact Index.mem_of_get? hfirst
      · exact ih hrest ho
    next => cases h

/-- **A plan without extensions** makes plain catalogs, whatever filter types it declares. -/
theorem EnginePlan.plain_of_catalogs {plan : EnginePlan} {c : Catalogs}
    (h : plan.catalogs = .ok c) (hhandlers : plan.handlers = []) (hoperands : plan.operands = [])
    (hregistries : plan.registries = []) : c.Plain := by
  unfold catalogs at h
  obtain ⟨declared, hdeclared, h⟩ := bind_eq_ok_iff.1 h
  cases h
  rw [hoperands] at hdeclared ⊢
  rw [hhandlers, hregistries]
  refine ⟨rfl, rfl, fun registry hregistry o ho => ?_⟩
  rcases Index.mem_of_mem_insertAll (l := declared) hregistry with hstandard | hdeclared'
  · have hmem : registry ∈ [Registry.regular, Registry.credentials] :=
      Index.mem_of_mem_ofList hstandard
    simp only [List.mem_cons, List.not_mem_nil, or_false] at hmem
    rcases hmem with rfl | rfl <;> exact ho
  · obtain ⟨t, -, ht⟩ := exists_of_mem_mapM hdeclared hdeclared'
    unfold FilterTypeConfig.toRegistry at ht
    split at ht
    next => cases ht
    next =>
      obtain ⟨operands, hpicked, rfl⟩ := map_eq_ok_iff.1 ht
      exact FilterTypeConfig.mem_of_pickOperands hpicked (Index.mem_of_mem_ofList ho)

/-! ### Evaluators -/

namespace Handler

variable {schema : Schema} {entityType reference : String}

theorem exists_regularField
    (h : (schema.field? entityType reference).any Field.isFilterable = true) :
    ∃ field, regularField schema entityType reference = .ok field := by
  have hspec := regularField_spec schema entityType reference
  cases hfield : regularField schema entityType reference with
  | ok field => exact ⟨field, rfl⟩
  | error e =>
    rw [hfield, h] at hspec
    cases hspec.2

theorem exists_customField (h : ((Uuid.ofText? reference).bind schema.customField?).any
      (fun field => field.entityType = entityType) = true) :
    ∃ field, customField schema entityType reference = .ok field := by
  have hspec := customField_spec schema entityType reference
  cases hfield : customField schema entityType reference with
  | ok field => exact ⟨field, rfl⟩
  | error e =>
    rw [hfield] at hspec
    rw [← Option.isSome_filter, hspec.2] at h
    cases h

variable {scope : PredicateScope} {c : Condition} {id : OperatorId} {values : List Value}
  {o : Operator}

theorem fieldPredicate_eq {field : Field} (hpayload : c.payload = .comparison id values)
    (hfield : regularField scope.schema scope.entityType c.reference = .ok field)
    (ho : scope.operators.get? id = some o) : fieldPredicate scope c = (do
      return o.build (.field c.reference) (← scope.resolveValues values)) := by
  unfold fieldPredicate storedOperator
  rw [hpayload]
  dsimp only
  rw [hfield, ho]
  rfl

theorem customFieldPredicate_eq {field : CustomField}
    (hpayload : c.payload = .comparison id values)
    (hfield : customField scope.schema scope.entityType c.reference = .ok field)
    (ho : scope.operators.get? id = some o) : customFieldPredicate scope c = (do
      return o.build (.custom field.id) (← scope.resolveValues values)) := by
  unfold customFieldPredicate storedOperator
  rw [hpayload]
  dsimp only
  rw [hfield, ho]
  rfl

end Handler

namespace Evaluator

open Evaluation

variable {ev : Evaluator} {f : Filter} {c : Condition} {id : OperatorId} {values : List Value}
  {nested : Filter → Evaluation Predicate}

/-- Where there is no other operand, and the name of the acting user stands among some values only
if it is one there, these values are replaced by what they are for the user. -/
theorem substituted_eq_seenBy (hev : ev.catalogs.Plain)
    (hknown : Operand.currentUserName ∈ values → ev.catalogs.OffersUser f.filterType) :
    (ev.scope f nested).substituted user today values = values.flatMap (Value.seenBy user) := by
  unfold PredicateScope.substituted
  refine List.flatMap_congr fun v hv => ?_
  cases ho : (ev.scope f nested).operand? v with
  | some o =>
    obtain ⟨rfl, registry, hregistry, hget⟩ := operand?_scope_eq_some_iff.1 ho
    obtain rfl := hev.eq_currentUser hregistry (Index.mem_of_get? hget)
    exact Value.seenBy_currentUserName.symm
  | none =>
    refine (Value.seenBy_of_ne ?_).symm
    rintro rfl
    have hfound : (ev.scope f nested).operand? Operand.currentUserName = some .currentUser :=
      operand?_scope_eq_some_iff.2 ⟨rfl, hknown hv⟩
    rw [hfound] at ho
    cases ho

/-- A supported comparison is made by its operator, for a target that is read off the schema, of the
values that it resolves. -/
theorem conditionPredicate_comparison (hev : ev.catalogs.HasStandard)
    (hsupports : ev.schema.supports f.entityType c = true)
    (hpayload : c.payload = .comparison id values) :
    ∃ o target, ev.catalogs.operators.get? id = some o ∧ ∀ nested,
      ev.conditionPredicate f nested c = (do
        return o.build target (← (ev.scope f nested).resolveValues values)) := by
  unfold Schema.supports at hsupports
  rw [hpayload] at hsupports
  obtain ⟨hreads, hoperator⟩ := Bool.and_eq_true_iff.1 hsupports
  obtain ⟨o, ho⟩ := Option.isSome_iff_exists.1 hoperator
  rw [← hev.operators] at ho
  unfold Schema.reads at hreads
  rcases Condition.kind_of_payload_comparison hpayload with hkind | hkind
  · rw [hkind] at hreads
    obtain ⟨field, hfield⟩ := Handler.exists_regularField hreads
    refine ⟨o, .field c.reference, ho, fun nested => ?_⟩
    rw [conditionPredicate_eq hev ⟨.field, Handler.validateField, Handler.fieldPredicate⟩
      (by simp [Handler.builtin]) hkind]
    exact Handler.fieldPredicate_eq hpayload hfield ho
  · rw [hkind] at hreads
    obtain ⟨field, hfield⟩ := Handler.exists_customField hreads
    refine ⟨o, .custom field.id, ho, fun nested => ?_⟩
    rw [conditionPredicate_eq hev
      ⟨.customField, Handler.validateCustomField, Handler.customFieldPredicate⟩
      (by simp [Handler.builtin]) hkind]
    exact Handler.customFieldPredicate_eq hpayload hfield ho

/-- **A comparison takes every value as it is stored**, but for the name of the acting user, whoever
that user is and whatever has been evaluated before. -/
theorem runIn_conditionPredicate_comparison (hev : ev.catalogs.Plain)
    (hstandard : ev.catalogs.HasStandard) (hsupports : ev.schema.supports f.entityType c = true)
    (hpayload : c.payload = .comparison id values)
    (hknown : Operand.currentUserName ∈ values → ev.catalogs.OffersUser f.filterType) :
    ∃ o target, ev.catalogs.operators.get? id = some o ∧ ∀ user today ctx nested,
      ctx.Serves ev.catalogs.registries user today →
        ((ev.conditionPredicate f nested c).runIn ctx).1 =
          .ok (o.build target (values.flatMap (Value.seenBy user))) := by
  obtain ⟨o, target, ho, hmade⟩ := conditionPredicate_comparison hstandard hsupports hpayload
  refine ⟨o, target, ho, fun user today ctx nested hserves => ?_⟩
  have hscope : (ev.scope f nested).IsOf ev.catalogs.registries := isOf_scope nested
  have hnames := hev.unambiguous user today
  have hresolved := PredicateScope.runIn_resolveValues hscope hnames values hserves
  rw [substituted_eq_seenBy hev hknown] at hresolved
  rw [hmade, runIn_bind]
  generalize ((ev.scope f nested).resolveValues values).runIn ctx = run at hresolved ⊢
  obtain ⟨result, ctx'⟩ := run
  obtain rfl : result = .ok (values.flatMap (Value.seenBy user)) := hresolved
  rfl

/-- **Two users get the same of a filter**, or the filter or one to which it leads has the name of
the acting user among its values, and they are not the same user with the same teams. -/
theorem compile_eq_or_currentUser (hev : ev.catalogs.Plain) (f : Filter) :
    ((ev.compile f).runIn { user := user', today := today }).1 =
        ((ev.compile f).runIn { user := user, today := today }).1 ∨
      (∃ g, ev.Leads f g ∧ ∃ c ∈ g.conditions, Operand.currentUserName ∈ c.values) ∧
        Operand.currentUserValues user' ≠ Operand.currentUserValues user := by
  have hnames := hev.unambiguous user today
  have hnames' := hev.unambiguous user' today
  rcases compile_eq_or_names hev.handlers hnames hnames' f with
    hsame | ⟨g, hleads, c, o, hnamed, hne⟩
  · exact .inl hsame
  · obtain ⟨registry, hregistry, hget⟩ := hnamed.operand
    obtain rfl := hev.eq_currentUser hregistry (Index.mem_of_get? hget)
    exact .inr ⟨⟨g, hleads, c, hnamed.condition, hnamed.value⟩, hne⟩

end Evaluator

/-! ### Engines -/

theorem Installation.asksForUser_of_checkCondition {i : Installation} {f : Filter} {c : Condition}
    (hc : i.catalogs.Plain) (h : i.checkCondition f c = .ok ())
    (hname : Operand.currentUserName ∈ c.values) :
    i.catalogs.AsksForUser i.schema f.filterType f.entityType c := by
  unfold checkCondition at h
  split at h
  next d hd =>
    obtain ⟨built, hbuild, -⟩ := map_eq_ok_iff.1 h
    exact Catalogs.asksForUser_of_describes hc hbuild hd hname
  next hnone =>
    obtain ⟨id, hpayload⟩ := Condition.payload_of_mem_values hname
    unfold Condition.descriptor? at hnone
    rw [hpayload] at hnone
    cases hnone

namespace Engine

open Evaluator (newYear)

variable {e : Engine} {f : Filter}

/-- What holds of every condition that is accepted, and of all stored conditions, holds of all
stored conditions after a request. -/
theorem forall_conditions_answer {P : FilterType → String → Condition → Prop}
    (accepted : ∀ s filterType entityType d c,
      e.catalogs.build e.schema s filterType entityType d = .ok c → P filterType entityType c)
    (he : ∀ f ∈ e.filters, ∀ c ∈ f.conditions, P f.filterType f.entityType c) (u : ActingUser)
    (r : ChangeRequest) :
    ∀ f ∈ (e.answer u r).2.filters, ∀ c ∈ f.conditions, P f.filterType f.entityType c := by
  have h := answer_outcome e u r
  generalize (e.answer u r).2.filters = filters at h ⊢
  generalize (e.answer u r).1 = answer at h
  intro f hf c hc
  cases h with
  | rejected | empty => exact he f hf c hc
  | created _ _ prepared =>
    rcases Index.mem_insert.1 hf with rfl | ⟨hf, -⟩
    · obtain ⟨d, -, hd⟩ := exists_build_of_buildAll (created_of_prepareCreate prepared).built hc
      exact accepted _ _ _ d c hd
    · exact he f hf c hc
  | @updated _ update previous _ _ _ stored prepared =>
    rcases Index.mem_insert.1 hf with rfl | ⟨hf, -⟩
    · have hupdated := updated_of_prepareUpdate prepared
      cases hconditions : update.conditions with
      | none =>
        rw [(hupdated.kept hconditions).1] at hc
        rw [hupdated.filterType, hupdated.entityType]
        exact he previous (Index.mem_of_get? stored) c hc
      | some change =>
        obtain ⟨hbuilt, -⟩ := hupdated.built change.1 change.2 hconditions
        obtain ⟨d, -, hd⟩ := exists_build_of_buildAll hbuilt hc
        exact accepted _ _ _ d c hd
    · exact he f hf c hc
  | deleted => exact he f (Index.mem_erase.1 hf).1 c hc

/-- No extension brings a handler or an operand, and every stored condition with the name of the
acting user asks for that user. -/
structure Asking (e : Engine) : Prop where
  plain : e.catalogs.Plain
  asks : ∀ f ∈ e.filters, ∀ c ∈ f.conditions, Operand.currentUserName ∈ c.values →
    e.catalogs.AsksForUser e.schema f.filterType f.entityType c

theorem asking_of_build {plan : EnginePlan} {disk : Disk} {r r' : Repository}
    (h : build plan disk today r = (.ok e, r')) (hr : r.filters = ∅) (hplain : e.catalogs.Plain) :
    e.Asking := by
  refine ⟨hplain, fun f hf c hc hname => ?_⟩
  rcases (made_of_build h).passed f hf with hold | hpassed
  · rw [hr] at hold
    exact absurd hold Index.not_mem_empty
  · exact Installation.asksForUser_of_checkCondition hplain (hpassed.conditions c hc) hname

theorem Asking.answer (he : e.Asking) (u : ActingUser) (r : ChangeRequest) :
    (e.answer u r).2.Asking := by
  have hasks := forall_conditions_answer (e := e) (P := fun filterType entityType c =>
    Operand.currentUserName ∈ c.values → e.catalogs.AsksForUser e.schema filterType entityType c)
    (fun _ _ _ _ _ h hname => Catalogs.asksForUser_of_build he.plain h hname) he.asks u r
  obtain ⟨repository, heq⟩ := answer_eq e u r
  rw [heq] at hasks ⊢
  exact ⟨he.plain, hasks⟩

theorem Asking.run (he : e.Asking) (rs : List (ActingUser × ChangeRequest)) :
    (e.run (requests rs)).Asking :=
  run_requests_induction (P := Asking) (fun _ u r h => h.answer u r) he rs

/-! ### Filters -/

/-- A stored filter gets from the acting user no more than who they are, where it asks for that. -/
structure AsksByName (e : Engine) (f : Filter) : Prop where
  /-- If the filter is not the same for two users on a day, it has a condition that asks for the
  user, or it reaches a filter that has one. -/
  asks : ∀ today user user', ((e.evaluator.compile f).runIn { user := user', today := today }).1 ≠
      ((e.evaluator.compile f).runIn { user := user, today := today }).1 →
    ∃ g ∈ e.filters, (g = f ∨ e.filters.Reaches f.id g.id) ∧ ∃ c ∈ g.conditions,
      e.catalogs.AsksForUser e.schema g.filterType g.entityType c
  /-- A condition compares with its values as they are stored, but for the name of the acting user,
  whoever that user is and whatever has been evaluated before. -/
  values : ∀ c ∈ f.conditions, ∀ id values, c.payload = .comparison id values → ∃ o target,
    e.catalogs.operators.get? id = some o ∧ ∀ user today ctx nested,
      ctx.Serves e.catalogs.registries user today →
        ((e.evaluator.conditionPredicate f nested c).runIn ctx).1 =
          .ok (o.build target (values.flatMap (Value.seenBy user)))
  /-- The filter is the same whether the user is elevated or not. -/
  elevated : ∀ today (user : ActingUser) elevated,
    ((e.evaluator.compile f).runIn
        { user := some { user with elevated := elevated }, today := today }).1 =
      ((e.evaluator.compile f).runIn { user := some user, today := today }).1

/-- **Where all conditions with the name of the acting user ask for that user**, every stored filter
asks by that name only. -/
theorem Asking.asksByName (he : e.Asking) (hfitted : e.Fitted) (hf : f ∈ e.filters) :
    e.AsksByName f := by
  have hev : e.evaluator.catalogs.Plain := he.plain
  have hstandard : e.evaluator.catalogs.HasStandard := hfitted.standard
  refine ⟨fun today user user' hne => ?asks, fun c hc id values hpayload => ?values,
    fun today user elevated => ?elevated⟩
  case asks =>
    rcases Evaluator.compile_eq_or_currentUser hev f with hsame | ⟨⟨g, hleads, c, hc, hname⟩, -⟩
    · exact absurd hsame hne
    · obtain ⟨hg, hreaches⟩ : g ∈ e.filters ∧ (g = f ∨ e.filters.Reaches f.id g.id) := by
        rcases hleads.eq_or_below with rfl | ⟨hg, hbelow⟩
        · exact ⟨hf, .inl rfl⟩
        · exact ⟨hg, .inr ((FilterSet.below_iff_reaches hf).1 hbelow)⟩
      exact ⟨g, hg, hreaches, c, hc, he.asks g hg c hc hname⟩
  case values =>
    refine Evaluator.runIn_conditionPredicate_comparison hev hstandard
      (hfitted.fits f hf c hc).supported hpayload fun hname => ?_
    rw [← Condition.values_of_payload hpayload] at hname
    exact (he.asks f hf c hc hname).operand
  case elevated =>
    rcases Evaluator.compile_eq_or_currentUser hev f with hsame | ⟨-, hne⟩
    · exact hsame
    · exact absurd rfl hne

/-- **The acting user matters only where a condition asks for them**: no filter that is ever stored
over an empty repository gets more, from the system filters of the engine to the end of every run of
requests, as long as the schema stays and no extension brings a handler or an operand. -/
theorem asksByName_run_of_build {plan : EnginePlan} {disk : Disk} {r r' : Repository}
    (h : build plan disk today r = (.ok e, r')) (hr : r.filters = ∅) (hplain : e.catalogs.Plain)
    (rs : List (ActingUser × ChangeRequest)) :
    ∀ f ∈ (e.run (requests rs)).filters, (e.run (requests rs)).AsksByName f :=
  fun _ hf => ((asking_of_build h hr hplain).run rs).asksByName
    ((fitted_of_build h hr hplain.handlers).run rs) hf

/-- No system filters, under a schema in which a person has a boss among the users. -/
def bossDesk : EnginePlan where
  schema := some {
    entityTypes := .ofList [⟨"person", .ofList [
      { name := "boss", kind := .reference, relatedType := some userEntityType }]⟩] }
  directory := some {}
  storage := some {}

/-- A user asks for the people of whoever acts and of Bob, and makes another filter of that. -/
def ownPeople : List (ActingUser × ChangeRequest) :=
  [({ id := "ann" }, .create {
      id := some "own", name := "Own", entityType := "person"
      conditions := [.field "boss" 1 [.text "bob", Operand.currentUserName]] }),
    ({ id := "ann" }, .create {
      id := some "team", name := "Team", entityType := "person"
      conditions := [.subFilter "own"] })]

theorem asksByName_run_of_build_bossDesk : ∃ e r e' f,
    build bossDesk {} newYear.today {} = (.ok e, r) ∧ e.catalogs.Plain ∧
      e.run (requests ownPeople) = e' ∧ e'.filters.get? "team" = some f ∧
      ((e'.evaluator.compile f).runIn { user := some { id := "ann" }, today := newYear.today }).1 ≠
        ((e'.evaluator.compile f).runIn { user := none, today := newYear.today }).1 ∧
      ∃ g ∈ e'.filters, (g = f ∨ e'.filters.Reaches f.id g.id) ∧ ∃ c ∈ g.conditions,
        e'.catalogs.AsksForUser e'.schema g.filterType g.entityType c := by
  have hok : ((build bossDesk {} newYear.today {}).1.map fun e =>
      ((e.run (requests ownPeople)).filters.get? "team").map fun f =>
        let compiled := (e.run (requests ownPeople)).evaluator.compile f
        ((compiled.runIn { user := some { id := "ann" }, today := newYear.today }).1,
          (compiled.runIn { user := none, today := newYear.today }).1)) =
      .ok (some (.ok (.compare (.field "boss") .equals [.text "bob", .text "ann"]),
        .ok (.compare (.field "boss") .equals [.text "bob"]))) := by cbv
  rcases h : build bossDesk {} newYear.today {} with ⟨error | e, r⟩
  · rw [h] at hok
    cases hok
  · rw [h] at hok
    have hplain : e.catalogs.Plain :=
      EnginePlan.plain_of_catalogs (made_of_build h).catalogs rfl rfl rfl
    obtain ⟨f, hf, hresults⟩ := Option.map_eq_some_iff.1 (Except.ok.inj hok)
    obtain ⟨hann, hnobody⟩ := Prod.mk.inj hresults
    have hne : (((e.run (requests ownPeople)).evaluator.compile f).runIn
        { user := some { id := "ann" }, today := newYear.today }).1 ≠
        (((e.run (requests ownPeople)).evaluator.compile f).runIn
          { user := none, today := newYear.today }).1 := by
      rw [hann, hnobody]
      simp
    have hasks := asksByName_run_of_build h rfl hplain ownPeople f (Index.mem_of_get? hf)
    exact ⟨e, r, _, f, rfl, hplain, rfl, hf, hne, hasks.asks _ _ _ hne⟩

end Engine

end RecordFilters
