import RecordFilters.Proofs.Calendar.DateText
import RecordFilters.Proofs.Handler.Accepted

/-! # Conditions in held form

Whoever asks for a condition may write its values as they like: a flag as a word, a number as a text,
a day with fewer digits. What is accepted has them in the form in which the field holds its own
values. Conditions of all other kinds are accepted just as they describe themselves.

* `Handler.heldValue?_of_heldValue?`: a value in held form is its own held form.
* `Catalogs.heldPayload?`: the payload of a condition in held form.
* `Catalogs.heldPayload?_of_build`: what is accepted where a condition describes itself.
* `Catalogs.heldPayload?_eq_self`: what is accepted is in held form. -/

namespace RecordFilters

/-! ### Values -/

/-- Whether a value stands for an operand in filters of a type. -/
def Registry.namesOperand (registry : Registry) : Value → Bool
  | .text name => registry.operands.contains name
  | _ => false

namespace Handler

/-- A value in held form: an operand as it stands, any other value as fields of a kind hold it. -/
def heldValue? (registry : Registry) (kind : FieldKind) (v : Value) : Option Value :=
  if registry.namesOperand v then some v else cast? kind v

/-- The values of an operator in held form. -/
def heldValues? (registry : Registry) (kind : FieldKind) (o : Operator) (values : List Value) :
    Option (List Value) :=
  if o.arity = .flag then (values.head?.bind Value.flag?).map fun b => [.bool b]
  else values.mapM (heldValue? registry kind)

variable {registry : Registry} {kind : FieldKind} {o : Operator} {v w : Value}
  {values held : List Value}

/-- A day is read from the value that it is written as. -/
theorem day?_ofDay (d : Day) : (Value.ofDay d).day? = some d := Day.ofAnyText?_toText d

/-- What has been cast is cast to itself. -/
theorem cast?_of_cast? (h : cast? kind v = some w) : cast? kind w = some w := by
  cases kind with
  | string | reference | number | boolean =>
    obtain ⟨a, -, rfl⟩ := Option.map_eq_some_iff.1 h
    rfl
  | date =>
    obtain ⟨d, -, rfl⟩ := Option.map_eq_some_iff.1 h
    simp only [cast?, day?_ofDay, Option.map_some]
  | file => cases h

/-- A value in held form is its own held form, even if it turns out to name an operand. -/
theorem heldValue?_of_heldValue? (h : heldValue? registry kind v = some w) :
    heldValue? registry kind w = some w := by
  unfold heldValue? at h ⊢
  split at h
  next hnames =>
    cases h
    rw [if_pos hnames]
  next =>
    split
    · rfl
    · exact cast?_of_cast? h

theorem mapM_eq_self {α : Type} {f : α → Option α} {l l' : List α}
    (hf : ∀ a b, f a = some b → f b = some b) (h : l.mapM f = some l') : l'.mapM f = some l' := by
  induction l generalizing l' with
  | nil =>
    cases h
    rfl
  | cons a l ih =>
    rw [List.mapM_cons] at h
    obtain ⟨b, hb, h⟩ := Option.bind_eq_some_iff.1 h
    obtain ⟨r, hr, h⟩ := Option.bind_eq_some_iff.1 h
    cases h
    rw [List.mapM_cons, hf a b hb, ih hr]
    rfl

theorem heldValues?_of_heldValues? (h : heldValues? registry kind o values = some held) :
    heldValues? registry kind o held = some held := by
  unfold heldValues? at h ⊢
  split at h
  next hflag =>
    obtain ⟨b, -, rfl⟩ := Option.map_eq_some_iff.1 h
    rw [if_pos hflag]
    rfl
  next hflag =>
    rw [if_neg hflag]
    exact mapM_eq_self (fun _ _ => heldValue?_of_heldValue?) h

/-! ### What is accepted of values -/

variable {scope : BuildScope} {field : Option Field} {choices : List String} {reference : String}
  {d : Descriptor}

theorem namesOperand_of_operand? {found : Option Operand}
    (h : scope.operand? v reference = .ok found) :
    scope.registry.namesOperand v = found.isSome := by
  unfold BuildScope.operand? at h
  cases v with
  | text name =>
    show (scope.registry.operands.get? name).isSome = found.isSome
    dsimp only at h
    split at h
    next o ho =>
      cases h
      rw [ho]
    next hnone =>
      split at h
      next => cases h
      next =>
        cases h
        rw [hnone]
  | _ =>
    cases h
    rfl

/-- A value is accepted in held form. -/
theorem heldValue?_of_checkValue
    (h : checkValue scope reference o field kind choices v = .ok w) :
    heldValue? scope.registry kind v = some w := by
  unfold checkValue at h
  obtain ⟨found, hfound, h⟩ := bind_eq_ok_iff.1 h
  unfold heldValue?
  rw [namesOperand_of_operand? hfound]
  cases found with
  | some operand =>
    dsimp only at h
    split at h
    next =>
      cases h
      rfl
    next => cases h
  | none =>
    dsimp only at h
    split at h
    next => cases h
    next cast hcast =>
      split at h
      next =>
        cases h
        exact hcast
      next => cases h

theorem heldValues?_of_checkValues
    (h : checkValues scope d o field kind choices = .ok held) :
    heldValues? scope.registry kind o d.values = some held := by
  unfold checkValues at h
  unfold heldValues?
  split at h
  next => cases h
  next =>
    split at h
    next hflag =>
      rw [if_pos hflag]
      split at h
      next b hb =>
        cases h
        rw [hb]
        rfl
      next => cases h
    next hflag =>
      rw [if_neg hflag]
      obtain ⟨checked, hchecked, h⟩ := bind_eq_ok_iff.1 h
      obtain ⟨-, h⟩ := guarded_eq_ok_iff.1 h
      cases h
      exact mapM_eq_some_of_mapM_eq_ok (fun _ _ => heldValue?_of_checkValue) hchecked

/-! ### What is accepted where a condition describes itself -/

variable {scope : BuildScope} {kind : ConditionKind} {payload : Payload}

/-- A bound is read from its description, be it open or a day. -/
theorem readBound_ofDay? (fault : ValidationFault) (reference : String) (bound : Option Day) :
    readBound fault reference (.ofDay? bound) = .ok bound := by
  cases bound with
  | none => rfl
  | some d =>
    have hday : (Value.text d.toText).day? = some d := day?_ofDay d
    simp only [readBound, Value.ofDay?, Value.ofDay, Day.isBlankText_toText, hday,
      Bool.false_eq_true, if_false]

/-- A range is read from its description. -/
theorem readRange_describe {range range' : DateRange}
    (h : readRange ⟨kind, reference, none, range.describe⟩ = .ok range') : range' = range := by
  cases range with
  | named range =>
    simp only [readRange, DateRange.describe, NamedRange.ofName?_name] at h
    exact (Except.ok.inj h).symm
  | custom start stop =>
    simp only [readRange, DateRange.describe] at h
    obtain ⟨start', hstart, h⟩ := bind_eq_ok_iff.1 h
    obtain ⟨stop', hstop, h⟩ := bind_eq_ok_iff.1 h
    rw [readBound_ofDay?] at hstart hstop
    cases hstart
    cases hstop
    split at h
    next => cases h
    next =>
      split at h
      next => cases h
      next => exact (Except.ok.inj h).symm
    next => exact (Except.ok.inj h).symm

theorem dates_of_validateDateField {range : DateRange}
    (h : validateDateField scope ⟨kind, reference, none, range.describe⟩ = .ok payload) :
    payload = .dates range := by
  obtain ⟨field, -, h⟩ := bind_eq_ok_iff.1 h
  obtain ⟨-, h⟩ := guarded_eq_ok_iff.1 h
  obtain ⟨⟨⟩, -, h⟩ := bind_eq_ok_iff.1 h
  obtain ⟨range', hrange, h⟩ := bind_eq_ok_iff.1 h
  cases h
  rw [readRange_describe hrange]

theorem dates_of_validateDateCustomField {range : DateRange}
    (h : validateDateCustomField scope ⟨kind, reference, none, range.describe⟩ = .ok payload) :
    payload = .dates range := by
  obtain ⟨field, -, h⟩ := bind_eq_ok_iff.1 h
  obtain ⟨-, h⟩ := guarded_eq_ok_iff.1 h
  obtain ⟨-, h⟩ := guarded_eq_ok_iff.1 h
  obtain ⟨⟨⟩, -, h⟩ := bind_eq_ok_iff.1 h
  obtain ⟨range', hrange, h⟩ := bind_eq_ok_iff.1 h
  cases h
  rw [readRange_describe hrange]

theorem property_of_validateProperty {present : Bool}
    (h : validateProperty scope ⟨kind, reference, none, [.bool present]⟩ = .ok payload) :
    payload = .property present := by
  obtain ⟨p, -, h⟩ := bind_eq_ok_iff.1 h
  obtain ⟨⟨⟩, -, h⟩ := bind_eq_ok_iff.1 h
  obtain ⟨⟨⟩, -, h⟩ := bind_eq_ok_iff.1 h
  cases h
  rfl

/-- The object of a relation is read from its description, as much of it as there is. -/
theorem relation_of_validateRelation {c : Condition} {present : Bool}
    {object objectType : Option String} (hpayload : c.payload = .relation present object objectType)
    (hd : c.descriptor? = some d) (h : validateRelation scope d = .ok payload) :
    payload = .relation present object objectType := by
  unfold Condition.descriptor? at hd
  rw [hpayload] at hd
  cases hd
  obtain ⟨r, -, h⟩ := bind_eq_ok_iff.1 h
  obtain ⟨⟨⟩, -, h⟩ := bind_eq_ok_iff.1 h
  obtain ⟨⟨⟩, -, h⟩ := bind_eq_ok_iff.1 h
  obtain ⟨present', hpresent, h⟩ := bind_eq_ok_iff.1 h
  obtain ⟨⟨object', objectType'⟩, hobject, h⟩ := bind_eq_ok_iff.1 h
  have hread : (object', objectType') = (object, objectType) := by
    cases object <;> cases objectType <;> exact (Except.ok.inj hobject).symm
  cases hread
  cases hpresent
  dsimp only at h
  split at h
  next =>
    obtain ⟨-, h⟩ := guarded_eq_ok_iff.1 h
    exact (Except.ok.inj h).symm
  next => exact (Except.ok.inj h).symm

/-- The operator of a request. -/
theorem get?_of_requestedOperator {fieldKind : FieldKind}
    (h : requestedOperator scope d fieldKind = .ok o) :
    d.operator = some o.id ∧ scope.operators.get? o.id = some o := by
  unfold requestedOperator at h
  split at h
  next => cases h
  next id hid =>
    split at h
    next => cases h
    next ho =>
      split at h
      next =>
        cases h
        have hkey : o.id = id := Index.key_of_get? ho
        rw [hkey]
        exact ⟨hid, ho⟩
      next => cases h

end Handler

/-! ### Conditions -/

/-- The kind of the values of the field that a condition compares. -/
def Schema.valueKind? (s : Schema) (entityType : String) (c : Condition) : Option FieldKind :=
  match c.kind with
  | .field => (s.field? entityType c.reference).map Field.kind
  | .customField =>
    ((Uuid.ofText? c.reference).bind s.customField?).map fun field => field.kind.fieldKind
  | _ => none

/-- The payload of a condition in held form. Only a comparison has values of a field. -/
def Catalogs.heldPayload? (c : Catalogs) (schema : Schema) (filterType : FilterType)
    (entityType : String) (condition : Condition) : Option Payload :=
  match condition.payload with
  | .comparison operator values => do
    let registry ← c.registries.get? filterType
    let kind ← schema.valueKind? entityType condition
    let o ← c.operators.get? operator
    some (.comparison operator (← Handler.heldValues? registry kind o values))
  | payload => some payload

variable {c : Catalogs} {schema : Schema} {filters : FilterSet} {filterType : FilterType}
  {entityType : String} {d : Descriptor} {condition condition' : Condition}

theorem Schema.valueKind?_of_regularField {field : Field} (hkind : condition.kind = .field)
    (h : Handler.regularField schema entityType condition.reference = .ok field) :
    schema.valueKind? entityType condition = some field.kind := by
  unfold Handler.regularField at h
  unfold valueKind?
  rw [hkind]
  dsimp only
  split at h
  next => cases h
  next found hfound =>
    split at h
    next =>
      cases h
      rw [hfound]
      rfl
    next => cases h

theorem Schema.valueKind?_of_customField {field : CustomField} (hkind : condition.kind = .customField)
    (h : Handler.customField schema entityType condition.reference = .ok field) :
    schema.valueKind? entityType condition = some field.kind.fieldKind := by
  unfold Handler.customField at h
  unfold valueKind?
  rw [hkind]
  dsimp only
  split at h
  next => cases h
  next id hid =>
    split at h
    next => cases h
    next found hfound =>
      split at h
      next =>
        cases h
        rw [hid, Option.bind_some, hfound]
        rfl
      next => cases h

/-- A condition that describes itself keeps its kind and its reference. -/
theorem Condition.eq_of_descriptor? (h : condition.descriptor? = some d) :
    d.kind = condition.kind ∧ d.reference = condition.reference := by
  unfold descriptor? at h
  dsimp only at h
  split at h <;> cases h <;> exact ⟨rfl, rfl⟩

/-- A comparison is accepted with the values that it describes in held form. -/
theorem Catalogs.heldPayload?_of_comparison {registry : Registry} {kind : FieldKind} {o : Operator}
    {scope : BuildScope} {field : Option Field} {choices : List String} {held : List Value}
    (hd : condition.descriptor? = some d)
    (hpayload : ∃ operator values, condition.payload = .comparison operator values)
    (hregistry : c.registries.get? filterType = some registry) (hscope : scope.registry = registry)
    (hoperators : scope.operators = c.operators)
    (hkind : schema.valueKind? entityType condition = some kind)
    (ho : Handler.requestedOperator scope d kind = .ok o)
    (hheld : Handler.checkValues scope d o field kind choices = .ok held) :
    c.heldPayload? schema filterType entityType condition = some (.comparison o.id held) := by
  obtain ⟨operator, values, hpayload⟩ := hpayload
  unfold Condition.descriptor? at hd
  rw [hpayload] at hd
  cases hd
  obtain ⟨hid, hget⟩ := Handler.get?_of_requestedOperator ho
  have hvalues := Handler.heldValues?_of_checkValues hheld
  cases hid
  unfold heldPayload?
  rw [hpayload]
  rw [hscope] at hvalues
  rw [hoperators] at hget
  simp only [hregistry, hkind, hget, hvalues, Option.bind_eq_bind, Option.bind_some]

/-- **A condition that compares no field is accepted just as it describes itself.** -/
theorem Catalogs.payload_eq_of_build {handler : Handler} (hbuiltin : handler ∈ Handler.builtin)
    (hhandler : c.handlers.get? condition.kind = some handler)
    (hother : condition.kind ≠ .field ∧ condition.kind ≠ .customField)
    (hd : condition.descriptor? = some d)
    (h : c.build schema filters filterType entityType d = .ok condition') :
    condition'.payload = condition.payload := by
  obtain ⟨hkind, -⟩ := Condition.eq_of_descriptor? hd
  obtain ⟨registry, handler', -, -, hhandler', hvalidate⟩ := (built_of_build h).validated
  rw [hkind, hhandler] at hhandler'
  cases hhandler'
  have hshape := condition.payload_of_kind
  have hsame : handler.kind = condition.kind := Index.key_of_get? hhandler
  have hdescribed := hd
  unfold Condition.descriptor? at hd
  rw [← hsame] at hshape hother
  simp only [Handler.builtin, List.mem_cons, List.not_mem_nil, or_false] at hbuiltin
  rcases hbuiltin with rfl | rfl | rfl | rfl | rfl | rfl | rfl | rfl
  · exact absurd rfl hother.1
  · obtain ⟨range, hpayload⟩ := hshape
    rw [hpayload] at hd ⊢
    cases hd
    exact Handler.dates_of_validateDateField hvalidate
  · exact absurd rfl hother.2
  · obtain ⟨range, hpayload⟩ := hshape
    rw [hpayload] at hd ⊢
    cases hd
    exact Handler.dates_of_validateDateCustomField hvalidate
  · obtain ⟨present, object, objectType, hpayload⟩ := hshape
    rw [hpayload]
    exact Handler.relation_of_validateRelation hpayload hdescribed hvalidate
  · obtain ⟨present, id, hpayload⟩ := hshape
    rw [hpayload] at hd ⊢
    cases hd
    obtain ⟨present', id', sub, hpayload', hpresent, hid, -⟩ :=
      Handler.exists_subFilter_of_validateRelation hvalidate
    cases hpresent
    cases hid
    exact hpayload'
  · obtain ⟨present, hpayload⟩ := hshape
    rw [hpayload] at hd ⊢
    cases hd
    exact Handler.property_of_validateProperty hvalidate
  · have hpayload : condition.payload = .subFilter := hshape
    rw [hpayload]
    exact (Handler.exists_subFilter_of_validate hvalidate).1

/-- The kinds of conditions that compare a field. -/
theorem Condition.kind_of_payload_comparison {operator : OperatorId} {values : List Value}
    (h : condition.payload = .comparison operator values) :
    condition.kind = .field ∨ condition.kind = .customField := by
  obtain ⟨kind, reference, payload, fits⟩ := condition
  dsimp only at h
  subst h
  cases kind <;> first | exact .inl rfl | exact .inr rfl | cases fits

/-- The held form of a condition that compares no field is that condition. -/
theorem Catalogs.heldPayload?_of_other
    (hother : condition.kind ≠ .field ∧ condition.kind ≠ .customField) :
    c.heldPayload? schema filterType entityType condition = some condition.payload := by
  unfold heldPayload?
  split
  next operator values hpayload =>
    rcases Condition.kind_of_payload_comparison hpayload with h | h
    · exact absurd h hother.1
    · exact absurd h hother.2
  next => rfl

/-- **What is accepted where a condition describes itself** has the payload of that condition, in
held form. -/
theorem Catalogs.heldPayload?_of_build {handler : Handler} (hbuiltin : handler ∈ Handler.builtin)
    (hhandler : c.handlers.get? condition.kind = some handler)
    (hd : condition.descriptor? = some d)
    (h : c.build schema filters filterType entityType d = .ok condition') :
    c.heldPayload? schema filterType entityType condition = some condition'.payload := by
  by_cases hother : condition.kind ≠ .field ∧ condition.kind ≠ .customField
  · rw [payload_eq_of_build hbuiltin hhandler hother hd h]
    exact heldPayload?_of_other hother
  obtain ⟨hkind, hreference⟩ := Condition.eq_of_descriptor? hd
  obtain ⟨registry, handler', hregistry, -, hhandler', hvalidate⟩ := (built_of_build h).validated
  rw [hkind, hhandler] at hhandler'
  cases hhandler'
  have hshape := condition.payload_of_kind
  have hsame : handler.kind = condition.kind := Index.key_of_get? hhandler
  rw [← hsame] at hshape hother
  simp only [Handler.builtin, List.mem_cons, List.not_mem_nil, or_false] at hbuiltin
  rcases hbuiltin with rfl | rfl | rfl | rfl | rfl | rfl | rfl | rfl
  · obtain ⟨field, hfield, hvalidate⟩ := bind_eq_ok_iff.1 hvalidate
    obtain ⟨o, ho, hvalidate⟩ := bind_eq_ok_iff.1 hvalidate
    obtain ⟨held, hheld, hvalidate⟩ := bind_eq_ok_iff.1 hvalidate
    rw [hreference] at hfield
    rw [← Except.ok.inj hvalidate]
    exact heldPayload?_of_comparison hd hshape hregistry rfl rfl
      (Schema.valueKind?_of_regularField hsame.symm hfield) ho hheld
  · exact absurd (by decide) hother
  · obtain ⟨field, hfield, hvalidate⟩ := bind_eq_ok_iff.1 hvalidate
    obtain ⟨-, hvalidate⟩ := guarded_eq_ok_iff.1 hvalidate
    obtain ⟨-, hvalidate⟩ := guarded_eq_ok_iff.1 hvalidate
    obtain ⟨o, ho, hvalidate⟩ := bind_eq_ok_iff.1 hvalidate
    obtain ⟨-, hvalidate⟩ := guarded_eq_ok_iff.1 hvalidate
    obtain ⟨held, hheld, hvalidate⟩ := bind_eq_ok_iff.1 hvalidate
    rw [hreference] at hfield
    rw [← Except.ok.inj hvalidate]
    exact heldPayload?_of_comparison hd hshape hregistry rfl rfl
      (Schema.valueKind?_of_customField hsame.symm hfield) ho hheld
  all_goals exact absurd (by decide) hother

/-- **What is accepted is in held form itself.** -/
theorem Catalogs.heldPayload?_eq_self (hkind : condition'.kind = condition.kind)
    (hreference : condition'.reference = condition.reference)
    (h : c.heldPayload? schema filterType entityType condition = some condition'.payload) :
    c.heldPayload? schema filterType entityType condition' = some condition'.payload := by
  have hvalueKind : schema.valueKind? entityType condition' =
      schema.valueKind? entityType condition := by
    unfold Schema.valueKind?
    rw [hkind, hreference]
  unfold heldPayload? at h ⊢
  split at h
  next operator values hpayload =>
    obtain ⟨registry, hregistry, h⟩ := Option.bind_eq_some_iff.1 h
    obtain ⟨kind, hvalues, h⟩ := Option.bind_eq_some_iff.1 h
    obtain ⟨o, ho, h⟩ := Option.bind_eq_some_iff.1 h
    obtain ⟨held, hheld, h⟩ := Option.bind_eq_some_iff.1 h
    rw [← Option.some.inj h]
    simp only [hvalueKind, hregistry, hvalues, ho, Handler.heldValues?_of_heldValues? hheld,
      Option.bind_eq_bind, Option.bind_some]
  next payload hne =>
    split
    next operator values hpayload =>
      rw [hpayload] at h
      exact absurd (Option.some.inj h) (hne operator values)
    next => rfl

end RecordFilters
