import RecordFilters.Proofs.Handler.HeldForm

/-! # Accepting a condition again

An accepted condition can be asked for by its own description. The request that it describes has the
kind, the reference and the operator of the first one, and the values as they were accepted: cast, in
the text form of days, a flag as a truth value. Each check that the first request has passed is passed
again, and nothing is changed a second time.

Operands are the one thing that stands in the way: a number is accepted for a text field as a text,
and if an operand has that text for a name, it is taken for the operand the second time, and rejected
where the operand may not stand. Names of placeholders are no such texts.

* `Number.exists_toText_eq`: what stands in the text of a number.
* `Operand.isPlaceholder_of_mem`: a name with an underscore is no other value's text.
* `Handler.checkValues_of_checkValues`: what is accepted of values is accepted as it is.
* `Handler.Stands`: a payload that is accepted again as it is.
* `Catalogs.eq_of_rebuild`: the description of an accepted condition asks for no other.
* `Catalogs.build_descriptor`: an accepted condition is what its own description asks for. -/

namespace RecordFilters

/-! ### Texts of numbers -/

namespace Number

open Text

theorem isDigit_of_mem_shortestDigits {tie : Tie} {rank : Nat} {c : Char}
    (h : c ∈ (shortestDigits tie rank).1) : c.isDigit = true := by
  unfold shortestDigits at h
  dsimp only at h
  -- the decimal stays a variable here: nobody has to compute it
  generalize shortest tie rank = decimal at h
  exact isDigit_of_mem_digits
    (List.mem_reverse.1 ((List.dropWhile_suffix _).subset (List.mem_reverse.1 h)))

theorem isDigit_or_point_of_mem_writePositional {ds : List Char} {places : Int} {c : Char}
    (hds : ∀ c ∈ ds, c.isDigit = true)
    (h : c ∈ NumberLayout.writePositional false ds places) : c.isDigit = true ∨ c = '.' := by
  have hzero : ('0' : Char).isDigit = true := rfl
  unfold NumberLayout.writePositional at h
  split at h
  next =>
    simp only [List.mem_cons, List.mem_append, List.mem_replicate] at h
    rcases h with rfl | rfl | ⟨-, rfl⟩ | h
    · exact Or.inl hzero
    · exact Or.inr rfl
    · exact Or.inl hzero
    · exact Or.inl (hds c h)
  next =>
    split at h
    next =>
      simp only [Bool.false_eq_true, if_false, List.append_nil, List.mem_append,
        List.mem_replicate] at h
      rcases h with h | ⟨-, rfl⟩
      · exact Or.inl (hds c h)
      · exact Or.inl hzero
    next =>
      rcases List.mem_append.1 h with h | h
      · exact Or.inl (hds c (List.mem_of_mem_take h))
      · rcases List.mem_cons.1 h with rfl | h
        · exact Or.inr rfl
        · exact Or.inl (hds c (List.mem_of_mem_drop h))

/-- The text of a number is a sign, if any, in front of digits and a point, or of a word. -/
theorem exists_toText_eq (n : Number) : ∃ sign body, n.toText.toList = sign ++ body ∧
    (sign = [] ∨ sign = ['-']) ∧
      ∀ c ∈ body, c.isDigit = true ∨ c = '.' ∨ c ∈ "NaN".toList ∨ c ∈ "inf".toList := by
  unfold toText
  cases n.whole? with
  | some i =>
    dsimp only
    rw [Text.ofInt, String.toList_ofList, numeral]
    split
    next => exact ⟨['-'], _, rfl, Or.inr rfl, fun c hc => Or.inl (isDigit_of_mem_digits hc)⟩
    next => exact ⟨[], _, rfl, Or.inl rfl, fun c hc => Or.inl (isDigit_of_mem_digits hc)⟩
  | none =>
    cases n with
    | nan => exact ⟨[], _, rfl, Or.inl rfl, fun c hc => Or.inr (Or.inr (Or.inl hc))⟩
    | infinite negative =>
      cases negative with
      | true => exact ⟨['-'], _, rfl, Or.inr rfl, fun c hc => Or.inr (Or.inr (Or.inr hc))⟩
      | false => exact ⟨[], _, rfl, Or.inl rfl, fun c hc => Or.inr (Or.inr (Or.inr hc))⟩
    | finite negative rank _ =>
      have hbody : ∀ c ∈ NumberLayout.plain.writeMagnitude rank, c.isDigit = true ∨ c = '.' ∨
          c ∈ "NaN".toList ∨ c ∈ "inf".toList := by
        intro c hc
        unfold NumberLayout.writeMagnitude at hc
        split at hc
        next =>
          rw [List.mem_singleton.1 hc]
          exact Or.inl rfl
        next =>
          have hdigits : ∀ c ∈ (shortestDigits NumberLayout.plain.tie rank).1,
              c.isDigit = true := fun c hc => isDigit_of_mem_shortestDigits hc
          generalize shortestDigits NumberLayout.plain.tie rank = written at hdigits hc
          obtain ⟨ds, places⟩ := written
          dsimp only at hdigits
          simp only [NumberLayout.plain, if_true] at hc
          exact (isDigit_or_point_of_mem_writePositional hdigits hc).imp_right Or.inl
      refine ⟨if negative then ['-'] else [], NumberLayout.plain.writeMagnitude rank, ?_, ?_, hbody⟩
      · unfold NumberLayout.write
        rw [String.toList_ofList]
      · cases negative with
        | true => exact Or.inr rfl
        | false => exact Or.inl rfl

theorem underscore_notMem_toText (n : Number) : '_' ∉ n.toText.toList := by
  obtain ⟨sign, body, heq, hsign, hbody⟩ := n.exists_toText_eq
  rw [heq, List.mem_append]
  rintro (h | h)
  · rcases hsign with rfl | rfl <;> exact absurd h (by decide)
  · exact absurd (hbody _ h) (by decide)

/-- A dash stands at the front of a number or nowhere. -/
theorem dash_notMem_tail_toText (n : Number) : '-' ∉ n.toText.toList.tail := by
  obtain ⟨sign, body, heq, hsign, hbody⟩ := n.exists_toText_eq
  have hdash : '-' ∉ body := fun h => absurd (hbody _ h) (by decide)
  rw [heq]
  rcases hsign with rfl | rfl
  · exact fun h => hdash (List.mem_of_mem_tail h)
  · exact hdash

end Number

/-! ### Names that are no text of another value -/

/-- An operand whose name is no text of another value: only the name itself is cast to it. -/
def Operand.IsPlaceholder (o : Operand) : Prop :=
  ∀ kind v, Handler.cast? kind v = some (.text o.typeId) → v = .text o.typeId

theorem Operand.isPlaceholder_of_mem {o : Operand} (h : '_' ∈ o.typeId.toList) :
    o.IsPlaceholder := by
  intro kind v hcast
  have htext : v.text? = some o.typeId → v = .text o.typeId := by
    intro htext
    cases v with
    | text s => rw [Option.some.inj htext]
    | number n =>
      rw [← Option.some.inj htext] at h
      exact absurd h n.underscore_notMem_toText
    | bool b =>
      rw [← Option.some.inj htext] at h
      cases b <;> exact absurd h (by decide)
    | _ => cases htext
  cases kind with
  | string | reference =>
    obtain ⟨s, hs, hsame⟩ := Option.map_eq_some_iff.1 hcast
    cases hsame
    exact htext hs
  | date =>
    obtain ⟨d, -, hsame⟩ := Option.map_eq_some_iff.1 hcast
    rw [← Value.text.inj hsame] at h
    rcases Day.isDigit_or_sign_of_mem_toText h with h | h | h <;> exact absurd h (by decide)
  | number | boolean =>
    obtain ⟨a, -, hsame⟩ := Option.map_eq_some_iff.1 hcast
    cases hsame
  | file => cases hcast

/-- The operands of this library are placeholders. -/
theorem Operand.isPlaceholder_of_mem_standard {o : Operand} (h : o ∈ OperandCatalog.standard) :
    o.IsPlaceholder := by
  obtain rfl : o = currentUser := List.mem_singleton.1 (Index.mem_of_mem_ofList h)
  exact isPlaceholder_of_mem (by decide)

/-- Of some values for fields of a kind, only the name of an operand is cast to that name. -/
def Operand.IsApart (o : Operand) (kind : FieldKind) (values : List Value) : Prop :=
  ∀ v ∈ values, Handler.cast? kind v = some (.text o.typeId) → v = .text o.typeId

theorem Operand.IsPlaceholder.isApart {o : Operand} (h : o.IsPlaceholder) (kind : FieldKind)
    (values : List Value) : o.IsApart kind values :=
  fun v _ => h kind v

/-- No operand that a request can run into is mistaken for a value. -/
def BuildScope.KeepsApart (scope : BuildScope) (kind : FieldKind) (values : List Value) : Prop :=
  (∀ o ∈ scope.registry.operands, o.IsApart kind values) ∧
    ∀ o ∈ scope.operands, o.IsApart kind values

namespace Handler

variable {scope : BuildScope} {d : Descriptor} {o : Operator} {field : Option Field}
  {kind : FieldKind} {choices : List String} {reference : String} {v w : Value}
  {held held' : List Value} {payload : Payload}

/-! ### Values -/

/-- What a value that names no operand is cast to names none either. -/
theorem operand?_of_cast? {values : List Value} (hscope : scope.KeepsApart kind values)
    (hv : v ∈ values) (hcast : cast? kind v = some w)
    (h : scope.operand? v reference = .ok none) : scope.operand? w reference = .ok none := by
  cases w with
  | text name =>
    by_cases hsame : v = .text name
    · rw [← hsame]
      exact h
    have hunnamed : ∀ operand : Operand, operand.IsApart kind values → operand.typeId ≠ name := by
      rintro operand hapart rfl
      exact hsame (hapart v hv hcast)
    have hregistry : scope.registry.operands.get? name = none :=
      Index.get?_eq_none_iff.2 fun operand hmem => hunnamed operand (hscope.1 operand hmem)
    have hknown : scope.operands.get? name = none :=
      Index.get?_eq_none_iff.2 fun operand hmem => hunnamed operand (hscope.2 operand hmem)
    unfold BuildScope.operand? Index.contains
    simp only [hregistry, hknown, Option.isSome_none, Bool.false_eq_true, if_false]
  | _ => rfl

theorem checkValue_of_checkValue {values : List Value} (hscope : scope.KeepsApart kind values)
    (hv : v ∈ values) (h : checkValue scope reference o field kind choices v = .ok w) :
    checkValue scope reference o field kind choices w = .ok w := by
  have hfirst := h
  unfold checkValue at h
  obtain ⟨found, hfound, h⟩ := bind_eq_ok_iff.1 h
  cases found with
  | some operand =>
    dsimp only at h
    split at h
    next =>
      cases h
      exact hfirst
    next => cases h
  | none =>
    dsimp only at h
    split at h
    next => cases h
    next cast hcast =>
      split at h
      next hchoice =>
        cases h
        unfold checkValue
        refine bind_eq_ok_iff.2 ⟨none, operand?_of_cast? hscope hv hcast hfound, ?_⟩
        simp only [cast?_of_cast? hcast, if_pos hchoice]
        rfl
      next => cases h

/-- Values that are accepted again where they are accepted at all are the same. -/
theorem eq_of_checkValues (h : checkValues scope d o field kind choices = .ok held)
    (h' : checkValues scope { d with values := held } o field kind choices = .ok held') :
    held' = held := by
  have hheld := heldValues?_of_heldValues? (heldValues?_of_checkValues h)
  have hheld' := heldValues?_of_checkValues h'
  exact Option.some.inj (hheld'.symm.trans hheld)

/-- **What is accepted of values is accepted as it is**, where no operand is mistaken for one. -/
theorem checkValues_of_checkValues (hscope : scope.KeepsApart kind d.values)
    (h : checkValues scope d o field kind choices = .ok held) :
    checkValues scope { d with values := held } o field kind choices = .ok held := by
  unfold checkValues at h ⊢
  split at h
  next => cases h
  next harity =>
    split at h
    next hflag =>
      split at h
      next b _ =>
        cases h
        rw [hflag]
        rfl
      next => cases h
    next hflag =>
      obtain ⟨checked, hchecked, h⟩ := bind_eq_ok_iff.1 h
      obtain ⟨hordered, h⟩ := guarded_eq_ok_iff.1 h
      cases h
      obtain ⟨hlength, hagain⟩ :=
        mapM_of_mapM (fun _ hv _ => checkValue_of_checkValue hscope hv) hchecked
      rw [← hlength] at harity
      rw [if_neg harity, if_neg hflag]
      exact bind_eq_ok_iff.2 ⟨held, hagain, guarded_eq_ok_iff.2 ⟨hordered, rfl⟩⟩

end Handler

/-! ### Ranges -/

/-- A range that a request may ask for has a bound, and no end before its start. -/
def DateRange.IsProper : DateRange → Prop
  | .custom none none => False
  | .custom (some a) (some b) => ¬ b < a
  | _ => True

namespace Handler

variable {d : Descriptor}

theorem isProper_of_readRange {range : DateRange} (h : readRange d = .ok range) :
    range.IsProper := by
  unfold readRange at h
  dsimp only at h
  split at h
  next =>
    split at h
    next =>
      cases h
      trivial
    next => cases h
  next => cases h
  next =>
    obtain ⟨start, -, h⟩ := bind_eq_ok_iff.1 h
    obtain ⟨stop, -, h⟩ := bind_eq_ok_iff.1 h
    rcases start with _ | a <;> rcases stop with _ | b
    · cases h
    · cases h
      trivial
    · cases h
      trivial
    · dsimp only at h
      split at h
      next => cases h
      next hordered =>
        cases h
        exact hordered
  next => cases h

/-- A range that has been read is read from its description. -/
theorem readRange_of_readRange {range : DateRange} (h : readRange d = .ok range) :
    readRange { d with values := range.describe } = .ok range := by
  have hproper := isProper_of_readRange h
  cases range with
  | named range => simp only [readRange, DateRange.describe, NamedRange.ofName?_name]
  | custom start stop =>
    simp only [readRange, DateRange.describe]
    refine bind_eq_ok_iff.2 ⟨start, readBound_ofDay? _ _ _, bind_eq_ok_iff.2
      ⟨stop, readBound_ofDay? _ _ _, ?_⟩⟩
    rcases start with _ | a <;> rcases stop with _ | b
    · exact hproper.elim
    · rfl
    · rfl
    · exact if_neg hproper

/-! ### Requests -/

variable {scope : BuildScope} {payload : Payload} {held : List Value}

/-- A request that describes a payload, and gets it or is rejected. It gets it where no operand was
mistaken for one of the values that were asked for at first. -/
structure Stands (validate : BuildScope → Descriptor → Except FilterError Payload)
    (scope : BuildScope) (asked : List Value) (d : Descriptor) (payload : Payload) : Prop where
  describes : ∀ c : Condition, c.kind = d.kind → c.reference = d.reference → c.payload = payload →
    c.descriptor? = some d
  same : ∀ payload', validate scope d = .ok payload' → payload' = payload
  again : ∀ c : Condition, c.kind = d.kind → c.reference = d.reference →
    (∀ kind, scope.schema.valueKind? scope.entityType c = some kind →
      scope.KeepsApart kind asked) → validate scope d = .ok payload

theorem operator_of_ensureNoOperator (h : d.ensureNoOperator = .ok ()) : d.operator = none := by
  unfold Descriptor.ensureNoOperator at h
  split at h
  next => cases h
  next hnone => exact hnone

theorem descriptor?_of_comparison {c : Condition} {id : OperatorId} (hid : d.operator = some id)
    (hkind : c.kind = d.kind) (hreference : c.reference = d.reference)
    (hpayload : c.payload = .comparison id held) :
    c.descriptor? = some { d with values := held } := by
  unfold Condition.descriptor?
  rw [hpayload, hkind, hreference, hid]

theorem descriptor?_of_dates {c : Condition} {range : DateRange} (hnone : d.ensureNoOperator = .ok ())
    (hkind : c.kind = d.kind) (hreference : c.reference = d.reference)
    (hpayload : c.payload = .dates range) :
    c.descriptor? = some { d with values := range.describe } := by
  unfold Condition.descriptor?
  rw [hpayload, hkind, hreference, operator_of_ensureNoOperator hnone]

/-- Where no operand is asked for, it is enough that the request gets the payload. -/
theorem Stands.of_eq_ok {validate : BuildScope → Descriptor → Except FilterError Payload}
    {asked : List Value}
    (hdescribes : ∀ c : Condition, c.kind = d.kind → c.reference = d.reference →
      c.payload = payload → c.descriptor? = some d)
    (h : validate scope d = .ok payload) : Stands validate scope asked d payload :=
  ⟨hdescribes, fun _ h' => Except.ok.inj (h'.symm.trans h), fun _ _ _ _ => h⟩

theorem stands_of_validateField (hfieldKind : d.kind = .field)
    (h : validateField scope d = .ok payload) :
    ∃ values, Stands validateField scope d.values { d with values := values } payload := by
  obtain ⟨field, hfield, h⟩ := bind_eq_ok_iff.1 h
  obtain ⟨o, ho, h⟩ := bind_eq_ok_iff.1 h
  obtain ⟨held, hheld, h⟩ := bind_eq_ok_iff.1 h
  cases h
  have hoperator := (get?_of_requestedOperator ho).1
  refine ⟨held, fun c => descriptor?_of_comparison hoperator, fun payload' h' => ?_,
    fun c hkind hreference hapart => ?_⟩
  · obtain ⟨field', hfield', h'⟩ := bind_eq_ok_iff.1 h'
    obtain ⟨o', ho', h'⟩ := bind_eq_ok_iff.1 h'
    obtain ⟨held', hheld', h'⟩ := bind_eq_ok_iff.1 h'
    cases h'
    cases hfield.symm.trans hfield'
    cases ho.symm.trans ho'
    rw [eq_of_checkValues hheld hheld']
  · have hscope : scope.KeepsApart field.kind d.values :=
      hapart _ (Schema.valueKind?_of_regularField (hkind.trans hfieldKind) (by rwa [hreference]))
    exact bind_eq_ok_iff.2 ⟨field, hfield, bind_eq_ok_iff.2 ⟨o, ho, bind_eq_ok_iff.2
      ⟨held, checkValues_of_checkValues hscope hheld, rfl⟩⟩⟩

theorem stands_of_validateCustomField (hcustomKind : d.kind = .customField)
    (h : validateCustomField scope d = .ok payload) :
    ∃ values, Stands validateCustomField scope d.values { d with values := values } payload := by
  obtain ⟨field, hfield, h⟩ := bind_eq_ok_iff.1 h
  obtain ⟨hdeleted, h⟩ := guarded_eq_ok_iff.1 h
  obtain ⟨hdate, h⟩ := guarded_eq_ok_iff.1 h
  obtain ⟨o, ho, h⟩ := bind_eq_ok_iff.1 h
  obtain ⟨hallowed, h⟩ := guarded_eq_ok_iff.1 h
  obtain ⟨held, hheld, h⟩ := bind_eq_ok_iff.1 h
  cases h
  have hoperator := (get?_of_requestedOperator ho).1
  refine ⟨held, fun c => descriptor?_of_comparison hoperator, fun payload' h' => ?_,
    fun c hkind hreference hapart => ?_⟩
  · obtain ⟨field', hfield', h'⟩ := bind_eq_ok_iff.1 h'
    obtain ⟨-, h'⟩ := guarded_eq_ok_iff.1 h'
    obtain ⟨-, h'⟩ := guarded_eq_ok_iff.1 h'
    obtain ⟨o', ho', h'⟩ := bind_eq_ok_iff.1 h'
    obtain ⟨-, h'⟩ := guarded_eq_ok_iff.1 h'
    obtain ⟨held', hheld', h'⟩ := bind_eq_ok_iff.1 h'
    cases h'
    cases hfield.symm.trans hfield'
    cases ho.symm.trans ho'
    rw [eq_of_checkValues hheld hheld']
  · have hscope : scope.KeepsApart field.kind.fieldKind d.values :=
      hapart _ (Schema.valueKind?_of_customField (hkind.trans hcustomKind) (by rwa [hreference]))
    refine bind_eq_ok_iff.2 ⟨field, hfield, guarded_eq_ok_iff.2 ⟨hdeleted, guarded_eq_ok_iff.2
      ⟨hdate, bind_eq_ok_iff.2 ⟨o, ho, guarded_eq_ok_iff.2 ⟨hallowed, ?_⟩⟩⟩⟩⟩
    exact bind_eq_ok_iff.2 ⟨held, checkValues_of_checkValues hscope hheld, rfl⟩

theorem stands_of_validateDateField (h : validateDateField scope d = .ok payload) :
    ∃ values, Stands validateDateField scope d.values { d with values := values } payload := by
  obtain ⟨field, hfield, h⟩ := bind_eq_ok_iff.1 h
  obtain ⟨hdate, h⟩ := guarded_eq_ok_iff.1 h
  obtain ⟨⟨⟩, hnone, h⟩ := bind_eq_ok_iff.1 h
  obtain ⟨range, hrange, h⟩ := bind_eq_ok_iff.1 h
  cases h
  refine ⟨range.describe, .of_eq_ok (fun c => descriptor?_of_dates hnone) ?_⟩
  exact bind_eq_ok_iff.2 ⟨field, hfield, guarded_eq_ok_iff.2 ⟨hdate, bind_eq_ok_iff.2
    ⟨(), hnone, bind_eq_ok_iff.2 ⟨range, readRange_of_readRange hrange, rfl⟩⟩⟩⟩

theorem stands_of_validateDateCustomField (h : validateDateCustomField scope d = .ok payload) :
    ∃ values, Stands validateDateCustomField scope d.values { d with values := values } payload := by
  obtain ⟨field, hfield, h⟩ := bind_eq_ok_iff.1 h
  obtain ⟨hdeleted, h⟩ := guarded_eq_ok_iff.1 h
  obtain ⟨hdate, h⟩ := guarded_eq_ok_iff.1 h
  obtain ⟨⟨⟩, hnone, h⟩ := bind_eq_ok_iff.1 h
  obtain ⟨range, hrange, h⟩ := bind_eq_ok_iff.1 h
  cases h
  refine ⟨range.describe, .of_eq_ok (fun c => descriptor?_of_dates hnone) ?_⟩
  exact bind_eq_ok_iff.2 ⟨field, hfield, guarded_eq_ok_iff.2 ⟨hdeleted, guarded_eq_ok_iff.2
    ⟨hdate, bind_eq_ok_iff.2 ⟨(), hnone, bind_eq_ok_iff.2
      ⟨range, readRange_of_readRange hrange, rfl⟩⟩⟩⟩⟩

/-- The object of a relation, as much of it as there is. -/
def describedObject (object objectType : Option String) : List (String × Value) :=
  object.toList.map (fun s => ("entity_id", Value.text s)) ++
    objectType.toList.map fun s => ("entity_type", Value.text s)

theorem stands_of_validateRelation (h : validateRelation scope d = .ok payload) :
    ∃ values, Stands validateRelation scope d.values { d with values := values } payload := by
  obtain ⟨r, hr, h⟩ := bind_eq_ok_iff.1 h
  obtain ⟨⟨⟩, hnone, h⟩ := bind_eq_ok_iff.1 h
  obtain ⟨⟨⟩, -, h⟩ := bind_eq_ok_iff.1 h
  obtain ⟨present, -, h⟩ := bind_eq_ok_iff.1 h
  obtain ⟨⟨object, objectType⟩, -, h⟩ := bind_eq_ok_iff.1 h
  dsimp only at h
  refine ⟨.bool present :: if (describedObject object objectType).isEmpty then []
    else [.object (describedObject object objectType)], ?_⟩
  have hpayload : payload = .relation present object objectType := by
    split at h
    next => exact (Except.ok.inj (guarded_eq_ok_iff.1 h).2).symm
    next => exact (Except.ok.inj h).symm
  refine .of_eq_ok (fun c hkind hreference hc => ?_) ?_
  · unfold Condition.descriptor?
    rw [hc, hpayload, hkind, hreference, operator_of_ensureNoOperator hnone]
    rfl
  · refine bind_eq_ok_iff.2 ⟨r, hr, bind_eq_ok_iff.2 ⟨(), hnone, bind_eq_ok_iff.2 ⟨(), ?_,
      bind_eq_ok_iff.2 ⟨present, rfl, bind_eq_ok_iff.2 ⟨(object, objectType), ?_, h⟩⟩⟩⟩⟩
    · cases object <;> cases objectType <;> rfl
    · cases object <;> cases objectType <;> rfl

theorem stands_of_validateRelationSubFilter (h : validateRelationSubFilter scope d = .ok payload) :
    ∃ values, Stands validateRelationSubFilter scope d.values { d with values := values } payload := by
  obtain ⟨r, hr, h⟩ := bind_eq_ok_iff.1 h
  obtain ⟨⟨⟩, hnone, h⟩ := bind_eq_ok_iff.1 h
  obtain ⟨present, -, h⟩ := bind_eq_ok_iff.1 h
  obtain ⟨id, -, h⟩ := bind_eq_ok_iff.1 h
  dsimp only at h
  refine ⟨[.bool present, .text id], ?_⟩
  have hpayload : payload = .relationSubFilter present id := by
    split at h
    next => cases h
    next =>
      obtain ⟨-, h⟩ := guarded_eq_ok_iff.1 h
      obtain ⟨-, h⟩ := guarded_eq_ok_iff.1 h
      exact (Except.ok.inj h).symm
  refine .of_eq_ok (fun c hkind hreference hc => ?_) ?_
  · unfold Condition.descriptor?
    rw [hc, hpayload, hkind, hreference, operator_of_ensureNoOperator hnone]
  · exact bind_eq_ok_iff.2 ⟨r, hr, bind_eq_ok_iff.2 ⟨(), hnone, bind_eq_ok_iff.2
      ⟨present, rfl, bind_eq_ok_iff.2 ⟨id, rfl, h⟩⟩⟩⟩

theorem stands_of_validateProperty (h : validateProperty scope d = .ok payload) :
    ∃ values, Stands validateProperty scope d.values { d with values := values } payload := by
  obtain ⟨p, hp, h⟩ := bind_eq_ok_iff.1 h
  obtain ⟨⟨⟩, hnone, h⟩ := bind_eq_ok_iff.1 h
  obtain ⟨⟨⟩, -, h⟩ := bind_eq_ok_iff.1 h
  obtain ⟨present, -, h⟩ := bind_eq_ok_iff.1 h
  cases h
  refine ⟨[.bool present], .of_eq_ok (fun c hkind hreference hpayload => ?_) ?_⟩
  · unfold Condition.descriptor?
    rw [hpayload, hkind, hreference, operator_of_ensureNoOperator hnone]
  · exact bind_eq_ok_iff.2 ⟨p, hp, bind_eq_ok_iff.2 ⟨(), hnone, rfl⟩⟩

theorem stands_of_validateSubFilter (h : validateSubFilter scope d = .ok payload) :
    ∃ values, Stands validateSubFilter scope d.values { d with values := values } payload := by
  obtain ⟨⟨⟩, hnone, h'⟩ := bind_eq_ok_iff.1 h
  obtain ⟨⟨⟩, -, h'⟩ := bind_eq_ok_iff.1 h'
  have hpayload := (exists_subFilter_of_validate h).1
  refine ⟨[], .of_eq_ok (fun c hkind hreference hc => ?_) ?_⟩
  · unfold Condition.descriptor?
    rw [hc, hpayload, hkind, hreference, operator_of_ensureNoOperator hnone]
  · exact bind_eq_ok_iff.2 ⟨(), hnone, bind_eq_ok_iff.2 ⟨(), rfl, h'⟩⟩

/-- **What a handler of this library accepts stands.** -/
theorem stands_of_mem_builtin {handler : Handler} (hbuiltin : handler ∈ builtin)
    (hkind : handler.kind = d.kind) (h : handler.validate scope d = .ok payload) :
    ∃ values, Stands handler.validate scope d.values { d with values := values } payload := by
  simp only [builtin, List.mem_cons, List.not_mem_nil, or_false] at hbuiltin
  rcases hbuiltin with rfl | rfl | rfl | rfl | rfl | rfl | rfl | rfl
  · exact stands_of_validateField hkind.symm h
  · exact stands_of_validateDateField h
  · exact stands_of_validateCustomField hkind.symm h
  · exact stands_of_validateDateCustomField h
  · exact stands_of_validateRelation h
  · exact stands_of_validateRelationSubFilter h
  · exact stands_of_validateProperty h
  · exact stands_of_validateSubFilter h

end Handler

/-! ### Conditions -/

namespace Catalogs

variable {c : Catalogs} {schema : Schema} {filters : FilterSet} {filterType : FilterType}
  {entityType : String} {d : Descriptor} {condition : Condition}

/-- What a condition has to go through to be accepted is enough. -/
theorem build_of_built (h : Built c schema filters filterType entityType d condition) :
    c.build schema filters filterType entityType d = .ok condition := by
  obtain ⟨registry, handler, hregistry, hallows, hhandler, hvalidate⟩ := h.validated
  have hmake : Condition.make d.kind d.reference condition.payload = .ok condition := by
    rw [← h.kind, ← h.reference]
    exact dif_pos condition.fits
  refine bind_eq_ok_iff.2 ⟨registry, registry_eq_ok_iff.2 hregistry, guarded_eq_ok_iff.2
    ⟨by simpa using h.knownEntityType, bind_eq_ok_iff.2 ⟨(), if_pos hallows, bind_eq_ok_iff.2
      ⟨handler, handler_eq_ok_iff.2 hhandler, bind_eq_ok_iff.2 ⟨_, hvalidate, hmake⟩⟩⟩⟩⟩

variable {registries : RegistryCatalog}

/-- An accepted condition has a description, which stands. -/
theorem exists_descriptor
    (h : ({ registries := registries } : Catalogs).build schema filters filterType entityType d =
      .ok condition) :
    ∃ registry handler values, registries.get? filterType = some registry ∧
      registry.allows d.kind = true ∧ Catalogs.standard.handlers.get? d.kind = some handler ∧
      condition.descriptor? = some { d with values := values } ∧
      Handler.Stands handler.validate
        ⟨entityType, registry, .standard, .standard, schema, filters⟩ d.values
        { d with values := values } condition.payload := by
  have hbuilt := built_of_build h
  obtain ⟨registry, handler, hregistry, hallows, hhandler, hvalidate⟩ := hbuilt.validated
  have hbuiltin : handler ∈ Handler.builtin := Index.mem_of_mem_ofList (Index.mem_of_get? hhandler)
  obtain ⟨values, hstands⟩ :=
    Handler.stands_of_mem_builtin hbuiltin (Index.key_of_get? hhandler) hvalidate
  exact ⟨registry, handler, values, hregistry, hallows, hhandler,
    hstands.describes condition hbuilt.kind hbuilt.reference rfl, hstands⟩

/-- **The description of an accepted condition asks for no other**: whoever asks for it gets the same
condition, or a rejection. -/
theorem eq_of_rebuild {d' : Descriptor} {condition' : Condition}
    (h : ({ registries := registries } : Catalogs).build schema filters filterType entityType d =
      .ok condition)
    (hd : condition.descriptor? = some d')
    (h' : ({ registries := registries } : Catalogs).build schema filters filterType entityType d' =
      .ok condition') : condition' = condition := by
  have hbuilt := built_of_build h
  obtain ⟨registry, handler, values, hregistry, -, hhandler, hdescriptor, hstands⟩ :=
    exists_descriptor h
  obtain rfl : { d with values := values } = d' := Option.some.inj (hdescriptor.symm.trans hd)
  have hbuilt' := built_of_build h'
  obtain ⟨registry', handler', hregistry', -, hhandler', hvalidate'⟩ := hbuilt'.validated
  cases hregistry.symm.trans hregistry'
  cases hhandler.symm.trans hhandler'
  exact Condition.eq_of_payload_eq (hbuilt'.kind.trans hbuilt.kind.symm)
    (hbuilt'.reference.trans hbuilt.reference.symm) (hstands.same _ hvalidate')

/-- **An accepted condition is what its own description asks for**, if no value of the first request
was cast to the name of an operand of the filter type. Such a name is a text like any other once it
stands among the values, so that it is taken for the operand. The operands of this library are
placeholders, to whose names nothing else is cast. -/
theorem build_descriptor
    (h : ({ registries := registries } : Catalogs).build schema filters filterType entityType d =
      .ok condition)
    (hapart : ∀ registry kind, registries.get? filterType = some registry →
      schema.valueKind? entityType condition = some kind →
      ∀ o ∈ registry.operands, o.IsApart kind d.values) :
    ∃ d', condition.descriptor? = some d' ∧
      ({ registries := registries } : Catalogs).build schema filters filterType entityType d' =
        .ok condition := by
  have hbuilt := built_of_build h
  obtain ⟨registry, handler, values, hregistry, hallows, hhandler, hdescriptor, hstands⟩ :=
    exists_descriptor h
  refine ⟨_, hdescriptor, build_of_built ⟨hbuilt.kind, hbuilt.reference, hbuilt.knownEntityType,
    registry, handler, hregistry, hallows, hhandler, ?_⟩⟩
  refine hstands.again condition hbuilt.kind hbuilt.reference fun kind hkind =>
    ⟨hapart registry kind hregistry hkind, fun o ho => ?_⟩
  exact (Operand.isPlaceholder_of_mem_standard ho).isApart kind d.values

/-- Persons with a day of birth. -/
def births : Schema where
  entityTypes := .ofList [⟨"person", .ofList [{ name := "born", kind := .date }]⟩]

/-- Filters of one type, which compare fields with operands of this library. -/
def reports : RegistryCatalog :=
  .ofList [{ filterType := ⟨"reports"⟩, kinds := .ofList [.field], operands := .standard }]

/-- Those born in the first months of a year, with days as they are typed and as they are written. -/
def bornEarly (first last : String) : Condition :=
  ⟨.field, "born", .comparison 22 [.text first, .text last], rfl⟩

theorem build_descriptor_bornEarly :
    ({ registries := reports } : Catalogs).build births ∅ ⟨"reports"⟩ "person"
        (.field "born" 22 [.text "2000-1-5", .text "2000-3-31"]) =
          .ok (bornEarly "2000-01-05" "2000-03-31") ∧
      ({ registries := reports } : Catalogs).build births ∅ ⟨"reports"⟩ "person"
        (.field "born" 22 [.text "2000-01-05", .text "2000-03-31"]) =
          .ok (bornEarly "2000-01-05" "2000-03-31") := by
  have hbuild : ({ registries := reports } : Catalogs).build births ∅ ⟨"reports"⟩ "person"
      (.field "born" 22 [.text "2000-1-5", .text "2000-3-31"]) =
        .ok (bornEarly "2000-01-05" "2000-03-31") := rfl
  obtain ⟨d', hd', hagain⟩ := build_descriptor hbuild fun registry kind hregistry _ o ho => by
    obtain rfl := List.mem_singleton.1 (Index.mem_of_get? hregistry)
    exact (Operand.isPlaceholder_of_mem_standard ho).isApart kind _
  cases hd'
  exact ⟨hbuild, hagain⟩

/-- An operand that stands for nobody, under a name that is also the text of a number. -/
def nobody : Operand where
  typeId := "0"
  name := "Nobody"
  accepts := Field.refersToUsers
  resolve _ _ := []

/-- Persons with a code. -/
def codes : Schema where
  entityTypes := .ofList [⟨"person", .ofList [{ name := "code", kind := .string }]⟩]

/-- Filters of one type, which may compare fields with nobody. -/
def rosters : RegistryCatalog :=
  .ofList [{ filterType := ⟨"rosters"⟩, kinds := .ofList [.field], operands := .ofList [nobody] }]

/-- Those with a certain code. -/
def withCode (code : String) : Condition := ⟨.field, "code", .comparison 1 [.text code], rfl⟩

/-- **A number is accepted as a text that names an operand**, and the condition is rejected when it is
asked for by its own description. -/
theorem rebuild_withCode_eq_error :
    ({ registries := rosters } : Catalogs).build codes ∅ ⟨"rosters"⟩ "person"
        (.field "code" 1 [.number (.ofInt 0)]) = .ok (withCode "0") ∧
      (withCode "0").descriptor? = some (.field "code" 1 [.text "0"]) ∧
      ({ registries := rosters } : Catalogs).build codes ∅ ⟨"rosters"⟩ "person"
        (.field "code" 1 [.text "0"]) =
          .error (.validation (.operandMisplaced "Nobody" "equals") ["code"]) := by
  have hbuild : ∀ n : Number, ({ registries := rosters } : Catalogs).build codes ∅ ⟨"rosters"⟩
      "person" (.field "code" 1 [.number n]) = .ok (withCode n.toText) := fun n => rfl
  have hzero : (Number.ofInt 0).toText = "0" := by decide +kernel
  refine ⟨?_, rfl, rfl⟩
  rw [hbuild, hzero]

end Catalogs

end RecordFilters
