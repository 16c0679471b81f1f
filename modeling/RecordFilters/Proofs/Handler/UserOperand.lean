import RecordFilters.Proofs.Evaluation.TwoUsers
import RecordFilters.Proofs.Handler.Idempotence

/-! # Where the name of the acting user may stand

The operand for the acting user is stored by its name, as a text among the texts. Validation takes
that name for the operand wherever it knows it, and then wants a field that refers to users and an
operator for any number of values; where filters of the type may not use the operand, the name is
rejected. Nothing else is brought into the form of that name. So it stands among the values of an
accepted condition only where it may.

* `Catalogs.AsksForUser`: a condition in which the name of the acting user stands rightly.
* `Catalogs.asksForUser_of_build`: an accepted condition with that name is one.
* `Catalogs.asksForUser_of_describes`: so is a condition that describes itself by an accepted
  request. -/

namespace RecordFilters

/-- The value that stands for the acting user. -/
def Operand.currentUserName : Value := .text currentUserId

set_option maxRecDepth 8000 in
/-- The name of the acting user is no flag. -/
theorem Operand.flag?_currentUserName : currentUserName.flag? = none := by rfl

/-- No extension brings a handler or an operand. -/
structure Catalogs.Plain (c : Catalogs) : Prop where
  handlers : c.handlers = Catalogs.standard.handlers
  operands : c.operands = .standard
  registered : ∀ registry ∈ c.registries, ∀ o ∈ registry.operands, o ∈ OperandCatalog.standard

/-- The only standard operand. -/
theorem OperandCatalog.eq_currentUser {o : Operand} (h : o ∈ OperandCatalog.standard) :
    o = .currentUser :=
  List.mem_singleton.1 (Index.mem_of_mem_ofList h)

/-! ### Requests -/

/-- A field of an entity type refers to users. -/
def Schema.RefersToUsers (schema : Schema) (entityType reference : String) : Prop :=
  ∃ field, schema.field? entityType reference = some field ∧ field.kind = .reference ∧
    field.relatedType = some userEntityType

/-- Filters of a type may use the operand of the acting user. -/
def Catalogs.OffersUser (c : Catalogs) (filterType : FilterType) : Prop :=
  ∃ registry, c.registries.get? filterType = some registry ∧
    registry.operands.get? Operand.currentUserId = some .currentUser

/-- The operand of the acting user may stand among the values of a request in a filter of a type on
an entity type: the request compares a field that refers to users, by an operator for any number of
values, and filters of the type may use the operand. -/
structure Descriptor.MayAsk (d : Descriptor) (c : Catalogs) (schema : Schema)
    (filterType : FilterType) (entityType : String) : Prop where
  kind : d.kind = .field
  field : schema.RefersToUsers entityType d.reference
  operator : ∃ o, d.operator = some o.id ∧ c.operators.get? o.id = some o ∧ o.arity = .atLeastOne
  operand : c.OffersUser filterType

namespace Handler

variable {scope : BuildScope} {d : Descriptor} {o : Operator} {field : Option Field}
  {kind : FieldKind} {choices : List String} {reference : String} {v w : Value}
  {held : List Value} {payload : Payload}

section

variable (hoperands : scope.operands = .standard)
  (hregistry : ∀ o ∈ scope.registry.operands, o ∈ OperandCatalog.standard)
include hoperands hregistry

/-- The name of the acting user is the operand, or it is rejected. -/
theorem get?_of_operand? {found : Option Operand}
    (h : scope.operand? Operand.currentUserName reference = .ok found) :
    found = some .currentUser ∧
      scope.registry.operands.get? Operand.currentUserId = some .currentUser := by
  unfold BuildScope.operand? Operand.currentUserName at h
  dsimp only at h
  split at h
  next o ho =>
    cases h
    obtain rfl := OperandCatalog.eq_currentUser (hregistry o (Index.mem_of_get? ho))
    exact ⟨rfl, ho⟩
  next =>
    rw [hoperands, if_pos (by rfl)] at h
    cases h

/-- A value that is the name of the acting user, or is accepted as that name, is accepted as the
operand. -/
theorem operandFits_of_checkValue
    (h : checkValue scope reference o field kind choices v = .ok w)
    (hname : v = Operand.currentUserName ∨ w = Operand.currentUserName) :
    scope.registry.operands.get? Operand.currentUserId = some .currentUser ∧
      operandFits o field .currentUser = true := by
  unfold checkValue at h
  obtain ⟨found, hfound, h⟩ := bind_eq_ok_iff.1 h
  have hv : v = Operand.currentUserName := by
    rcases hname with hname | rfl
    · exact hname
    cases found with
    | some operand =>
      dsimp only at h
      split at h
      next => exact Except.ok.inj h
      next => cases h
    | none =>
      dsimp only at h
      split at h
      next => cases h
      next cast hcast =>
        split at h
        next =>
          cases h
          exact Operand.isPlaceholder_of_mem_standard (o := .currentUser)
            (Index.mem_of_get? (k := Operand.currentUserId) rfl) kind v hcast
        next => cases h
  rw [hv] at hfound
  obtain ⟨rfl, hget⟩ := get?_of_operand? hoperands hregistry hfound
  refine ⟨hget, ?_⟩
  dsimp only at h
  split at h
  next hfits => exact hfits
  next => cases h

/-- Values among which the name of the acting user stands, or is accepted, are accepted only where
the operand fits. -/
theorem operandFits_of_checkValues (h : checkValues scope d o field kind choices = .ok held)
    (hname : Operand.currentUserName ∈ d.values ∨ Operand.currentUserName ∈ held) :
    scope.registry.operands.get? Operand.currentUserId = some .currentUser ∧
      operandFits o field .currentUser = true := by
  unfold checkValues at h
  split at h
  next => cases h
  next hcount =>
    split at h
    next hflag =>
      -- the only value is a flag, which the name of the acting user is not
      split at h
      next b hb =>
        cases h
        rw [hflag] at hcount
        have hlength : d.values.length = 1 := by simpa [Arity.accepts] using hcount
        obtain ⟨v, hv⟩ := List.length_eq_one_iff.1 hlength
        rw [hv] at hb hname
        simp only [List.mem_singleton] at hname
        rcases hname with rfl | hname
        · simp [Operand.flag?_currentUserName] at hb
        · cases hname
      next => cases h
    next =>
      obtain ⟨checked, hchecked, h⟩ := bind_eq_ok_iff.1 h
      obtain ⟨-, h⟩ := guarded_eq_ok_iff.1 h
      cases h
      rcases hname with hname | hname
      · obtain ⟨w, hw⟩ := exists_ok_of_mapM hchecked hname
        exact operandFits_of_checkValue hoperands hregistry hw (.inl rfl)
      · obtain ⟨v, -, hv⟩ := exists_of_mem_mapM hchecked hname
        exact operandFits_of_checkValue hoperands hregistry hv (.inr rfl)

end

theorem field?_of_regularField {schema : Schema} {entityType name : String} {field : Field}
    (h : regularField schema entityType name = .ok field) :
    schema.field? entityType name = some field := by
  unfold regularField at h
  split at h
  next => cases h
  next found hfound =>
    split at h
    next =>
      cases h
      exact hfound
    next => cases h

/-- An accepted comparison of a field. -/
theorem exists_of_validateField (h : validateField scope d = .ok payload) :
    ∃ field o held, scope.schema.field? scope.entityType d.reference = some field ∧
      d.operator = some o.id ∧ scope.operators.get? o.id = some o ∧
      checkValues scope d o (some field) field.kind [] = .ok held ∧
      payload = .comparison o.id held := by
  obtain ⟨field, hfield, h⟩ := bind_eq_ok_iff.1 h
  obtain ⟨o, ho, h⟩ := bind_eq_ok_iff.1 h
  obtain ⟨held, hheld, h⟩ := bind_eq_ok_iff.1 h
  obtain ⟨hid, hget⟩ := get?_of_requestedOperator ho
  exact ⟨field, o, held, field?_of_regularField hfield, hid, hget, hheld, (Except.ok.inj h).symm⟩

/-- An accepted comparison of a custom field. -/
theorem exists_of_validateCustomField (h : validateCustomField scope d = .ok payload) :
    ∃ o kind choices held, checkValues scope d o none kind choices = .ok held ∧
      payload = .comparison o.id held := by
  obtain ⟨field, -, h⟩ := bind_eq_ok_iff.1 h
  obtain ⟨-, h⟩ := guarded_eq_ok_iff.1 h
  obtain ⟨-, h⟩ := guarded_eq_ok_iff.1 h
  obtain ⟨o, -, h⟩ := bind_eq_ok_iff.1 h
  obtain ⟨-, h⟩ := guarded_eq_ok_iff.1 h
  obtain ⟨held, hheld, h⟩ := bind_eq_ok_iff.1 h
  exact ⟨o, _, _, held, hheld, (Except.ok.inj h).symm⟩

end Handler

/-! ### Conditions -/

/-- A condition of a filter of a type on an entity type asks for the acting user: it compares a
field that refers to users, by an operator for any number of values, with values among which the
name of the acting user stands, and filters of the type may use that operand. -/
structure Catalogs.AsksForUser (c : Catalogs) (schema : Schema) (filterType : FilterType)
    (entityType : String) (condition : Condition) : Prop where
  kind : condition.kind = .field
  field : schema.RefersToUsers entityType condition.reference
  comparison : ∃ o values, condition.payload = .comparison o.id values ∧
    c.operators.get? o.id = some o ∧ o.arity = .atLeastOne ∧ Operand.currentUserName ∈ values
  operand : c.OffersUser filterType

namespace Catalogs

variable {c : Catalogs} {schema : Schema} {s : FilterSet} {filterType : FilterType}
  {entityType : String} {d : Descriptor} {condition : Condition} {id : OperatorId}
  {values : List Value}

/-- A condition that says what such a request says. -/
theorem asksForUser_of_mayAsk (h : d.MayAsk c schema filterType entityType)
    (hkind : condition.kind = d.kind) (hreference : condition.reference = d.reference)
    (hoperator : d.operator = some id) (hpayload : condition.payload = .comparison id values)
    (hname : Operand.currentUserName ∈ values) :
    c.AsksForUser schema filterType entityType condition := by
  obtain ⟨o, ho, hget, harity⟩ := h.operator
  cases ho.symm.trans hoperator
  refine ⟨hkind.trans h.kind, ?_, ⟨o, values, hpayload, hget, harity, hname⟩, h.operand⟩
  rw [hreference]
  exact h.field

/-- **The name of the acting user stands only in requests where it may**, and is accepted in no
others. -/
theorem mayAsk_of_build (hc : c.Plain)
    (h : c.build schema s filterType entityType d = .ok condition)
    (hkind : d.kind = .field ∨ d.kind = .customField)
    (hname : Operand.currentUserName ∈ d.values ∨ Operand.currentUserName ∈ condition.values) :
    d.MayAsk c schema filterType entityType ∧
      ∃ id, d.operator = some id ∧ condition.payload = .comparison id condition.values := by
  obtain ⟨registry, handler, hregistry, -, hhandler, hvalidate⟩ := (built_of_build h).validated
  have hregistered := hc.registered registry (Index.mem_of_get? hregistry)
  rw [hc.handlers] at hhandler
  rcases hkind with hkind | hkind
  · have hbuiltin : (⟨.field, Handler.validateField, Handler.fieldPredicate⟩ : Handler) ∈
        Handler.builtin := by simp [Handler.builtin]
    rw [hkind, get?_standard_handlers hbuiltin] at hhandler
    cases hhandler
    obtain ⟨field, o, held, hfield, hid, hget, hheld, hpayload⟩ :=
      Handler.exists_of_validateField hvalidate
    have hvalues : condition.values = held := Condition.values_of_payload hpayload
    rw [hvalues] at hname ⊢
    obtain ⟨hoperand, hfits⟩ :=
      Handler.operandFits_of_checkValues hc.operands hregistered hheld hname
    obtain ⟨harity, hrefers⟩ := Bool.and_eq_true_iff.1 hfits
    obtain ⟨hreference, hrelated⟩ := Bool.and_eq_true_iff.1 hrefers
    exact ⟨⟨hkind, ⟨field, hfield, of_decide_eq_true hreference, of_decide_eq_true hrelated⟩,
      ⟨o, hid, hget, of_decide_eq_true harity⟩, ⟨registry, hregistry, hoperand⟩⟩, o.id, hid,
      hpayload⟩
  · have hbuiltin : (⟨.customField, Handler.validateCustomField, Handler.customFieldPredicate⟩ : Handler) ∈
        Handler.builtin := by simp [Handler.builtin]
    rw [hkind, get?_standard_handlers hbuiltin] at hhandler
    cases hhandler
    obtain ⟨o, kind, choices, held, hheld, hpayload⟩ :=
      Handler.exists_of_validateCustomField hvalidate
    rw [Condition.values_of_payload hpayload] at hname
    -- a custom field refers to no users
    obtain ⟨-, hfits⟩ := Handler.operandFits_of_checkValues hc.operands hregistered hheld hname
    exact absurd (Bool.and_eq_true_iff.1 hfits).2 Bool.false_ne_true

/-- **An accepted condition with the name of the acting user asks for that user.** -/
theorem asksForUser_of_build (hc : c.Plain)
    (h : c.build schema s filterType entityType d = .ok condition)
    (hname : Operand.currentUserName ∈ condition.values) :
    c.AsksForUser schema filterType entityType condition := by
  have hbuilt := built_of_build h
  obtain ⟨stored, hstored⟩ := Condition.payload_of_mem_values hname
  have hkind : d.kind = .field ∨ d.kind = .customField := by
    rw [← hbuilt.kind]
    exact Condition.kind_of_payload_comparison hstored
  obtain ⟨hmay, id, hid, hpayload⟩ := mayAsk_of_build hc h hkind (.inr hname)
  exact asksForUser_of_mayAsk hmay hbuilt.kind hbuilt.reference hid hpayload hname

/-- A condition with the name of the acting user asks for that user also if it is the request by
which the condition describes itself that is accepted. -/
theorem asksForUser_of_describes {built : Condition} (hc : c.Plain)
    (h : c.build schema s filterType entityType d = .ok built)
    (hd : condition.descriptor? = some d) (hname : Operand.currentUserName ∈ condition.values) :
    c.AsksForUser schema filterType entityType condition := by
  obtain ⟨id, hpayload⟩ := Condition.payload_of_mem_values hname
  unfold Condition.descriptor? at hd
  rw [hpayload] at hd
  cases hd
  obtain ⟨hmay, -⟩ := mayAsk_of_build hc h (Condition.kind_of_payload_comparison hpayload)
    (.inl hname)
  exact asksForUser_of_mayAsk hmay rfl rfl rfl hpayload hname

end Catalogs

end RecordFilters
