import RecordFilters.Proofs.Results
import RecordFilters.Proofs.Value.Stored
import RecordFilters.Proofs.Calendar.DateText
import RecordFilters.Condition.Stored

/-! # Stored conditions, read again

Encoder and reader of conditions are written apart, and the reader allows more than the encoder
writes: lists for records, integers for numbers, no payload for a sub-filter.

* `Payload.ofJson?_toJson`: the payload of a condition is read back from its document.
* `Payload.isStorable_of_ofJson?`: a payload that has been read can be stored again.
* `StoredCondition.ofDocument?_toJson`: a stored condition is read back from its own document. -/

namespace RecordFilters

open Json Document

/-! ### Records -/

namespace Parts

variable {δ : Type} {names : List String} {members : List (String × δ)} {parts : Parts δ}

theorem named?_eq_self (hnames : ∀ m ∈ members, m.1 ∈ names)
    (hnodup : (members.map Prod.fst).Nodup) : named? names members = some members := by
  have hknown : (members.filter fun m => names.contains m.1) = members :=
    List.filter_eq_self.2 fun m hm => by simpa using hnames m hm
  unfold named?
  simp only [hknown]
  exact if_pos hnodup

theorem mem_of_mem_named? (h : named? names members = some parts) {m : String × δ}
    (hm : m ∈ parts) : m ∈ members := by
  simp only [named?] at h
  split at h
  · cases h
    exact List.mem_of_mem_filter hm
  · cases h

theorem mem_of_mem_ofItems? {items : List δ} (h : ofItems? names items = some parts)
    {m : String × δ} (hm : m ∈ parts) : m.2 ∈ items := by
  unfold ofItems? at h
  split at h
  · cases h
    exact (List.of_mem_zip hm).2
  · cases h

section Reading

variable {α : Type} {name first : String} {d : δ} {read : δ → Option α} {a : α}

theorem lookup_cons : List.lookup name ((first, d) :: parts) =
    if name = first then some d else parts.lookup name := by
  by_cases h : name = first
  · simp [h]
  · have hne : (name == first) = false := beq_false_of_ne h
    simp [List.lookup_cons, hne, h]

@[simp] theorem required_cons : required ((first, d) :: parts) name read =
    if name = first then read d else parts.required name read := by
  by_cases h : name = first <;> simp [required, lookup_cons, h]

@[simp] theorem optional_nil [Document δ] : optional ([] : Parts δ) name read = some none := rfl

@[simp] theorem optional_cons [Document δ] : optional ((first, d) :: parts) name read =
    if name = first then nullable? read d else parts.optional name read := by
  by_cases h : name = first <;> simp [optional, lookup_cons, h]

@[simp] theorem orDefault_cons : orDefault ((first, d) :: parts) name a read =
    if name = first then read d else parts.orDefault name a read := by
  by_cases h : name = first <;> simp [orDefault, lookup_cons, h]

theorem mem_of_required (h : parts.required name read = some a) :
    ∃ m ∈ parts, read m.2 = some a := by
  unfold required at h
  obtain ⟨d, hd, hread⟩ := Option.bind_eq_some_iff.1 h
  obtain ⟨l, r, hparts, -⟩ := List.lookup_eq_some_iff.1 hd
  exact ⟨(name, d), by rw [hparts]; simp, hread⟩

theorem mem_of_orDefault {b : α} (h : parts.orDefault name b read = some a) :
    a = b ∨ ∃ m ∈ parts, read m.2 = some a := by
  unfold orDefault at h
  split at h
  next d hd =>
    have hrequired : parts.required name read = some a := by
      rw [required, hd]
      exact h
    exact .inr (mem_of_required hrequired)
  next => exact .inl (Option.some.inj h).symm

end Reading

end Parts

namespace Json

theorem exactParts?_object {names : List String} {members : List (String × Json)}
    (hnames : ∀ m ∈ members, m.1 ∈ names) (hnodup : (members.map Prod.fst).Nodup) :
    exactParts? names (.object members) = some members := by
  have hall : (members.all fun m => names.contains m.1) = true :=
    List.all_eq_true.2 fun m hm => by simpa using hnames m hm
  simp only [exactParts?]
  rw [if_pos hall]
  exact Parts.named?_eq_self hnames hnodup

theorem parts?_object {names : List String} {members : List (String × Json)}
    (hnames : ∀ m ∈ members, m.1 ∈ names) (hnodup : (members.map Prod.fst).Nodup) :
    parts? names (Json.object members) = some members :=
  Parts.named?_eq_self hnames hnodup

theorem table?_object {names : List String} {members : List (String × Json)}
    (hnames : ∀ m ∈ members, m.1 ∈ names) (hnodup : (members.map Prod.fst).Nodup) :
    table? names (Json.object members) = some members :=
  Parts.named?_eq_self hnames hnodup

/-- The parts of a record under different names are all of its members or none. -/
theorem exactParts?_eq_ite {members : List (String × Json)} (hnodup : (members.map Prod.fst).Nodup)
    (names : List String) : exactParts? names (.object members) =
      if ∀ m ∈ members, m.1 ∈ names then some members else none := by
  split
  next hnames => exact exactParts?_object hnames hnodup
  next hnames =>
    have hall : ¬ (members.all fun m => names.contains m.1) = true := by simpa using hnames
    simp only [exactParts?]
    rw [if_neg hall]

/-- The parts of a kept record are kept. -/
theorem IsRegular.of_mem_exactParts? {names : List String} {j : Json} {parts : Parts Json}
    (h : j.IsRegular) (hparts : exactParts? names j = some parts) {m : String × Json}
    (hm : m ∈ parts) : m.2.IsRegular := by
  cases j with
  | object members =>
    simp only [exactParts?] at hparts
    split at hparts
    · exact h.of_mem_members (Parts.mem_of_mem_named? hparts hm)
    · cases hparts
  | array items => exact h.of_mem_items (Parts.mem_of_mem_ofItems? hparts hm)
  | _ => cases hparts

end Json

/-- A property of documents that passes on to their parts and items, and that makes regular what is
kept of them as JSON. -/
structure Document.IsHereditary {δ : Type} [Document δ] (P : δ → Prop) : Prop where
  of_mem_parts? {names : List String} {d : δ} {parts : Parts δ} (hd : P d)
    (hparts : parts? names d = some parts) {m : String × δ} (hm : m ∈ parts) : P m.2
  of_mem_items? {d a : δ} {items : List δ} (hd : P d) (hitems : items? d = some items)
    (ha : a ∈ items) : P a
  isRegular_of_json? {d : δ} {j : Json} (hd : P d) (hj : json? d = some j) : j.IsRegular

theorem Json.items?_eq_some_iff {j : Json} {items : List Json} :
    items? j = some items ↔ j = .array items := by
  constructor
  · intro h
    cases j <;> cases h
    rfl
  · rintro rfl
    rfl

theorem Json.isHereditary_inBounds : IsHereditary Json.InBounds where
  of_mem_parts? hd hparts m hm := by
    cases hd with
    | object hmembers => exact hmembers m (Parts.mem_of_mem_named? hparts hm)
    | array hitems => exact hitems m.2 (Parts.mem_of_mem_ofItems? hparts hm)
    | _ => cases hparts
  of_mem_items? hd hitems ha := by
    rw [items?_eq_some_iff.1 hitems] at hd
    exact inBounds_array.1 hd _ ha
  isRegular_of_json? hd hj := by
    cases hj
    exact hd.isRegular

/-! ### Words and lists -/

theorem readWord?_ofNat (n : UInt16) : readWord? (Json.ofNat n.toNat) = some n := by
  have hlt : (n.toNat : Int) < UInt16.size := by exact_mod_cast n.toNat_lt_size
  have hread : integer? (Json.ofNat n.toNat) = some (n.toNat : Int) := rfl
  unfold readWord? word? natural?
  rw [hread, Option.bind_some, if_pos ⟨Int.natCast_nonneg _, hlt⟩, Option.map_some,
    Int.toNat_natCast, UInt16.ofNat_toNat]

/-- A list is read item by item. -/
theorem listOf?_map {α β : Type} {read : Json → Option α} {write : β → Json} {f : β → α}
    {l : List β} (h : ∀ b ∈ l, read (write b) = some (f b)) :
    listOf? read (.array (l.map write)) = some (l.map f) := by
  show (l.map write).mapM read = some (l.map f)
  induction l with
  | nil => rfl
  | cons b r ih =>
    have hrest := ih fun c hc => h c (List.mem_cons_of_mem _ hc)
    simp [h b List.mem_cons_self, hrest]

/-- What is read from a list is read from one of its items. -/
theorem exists_of_mem_listOf? {δ α : Type} [Document δ] {read : δ → Option α} {d : δ} {l : List α}
    {a : α} (h : listOf? read d = some l) (ha : a ∈ l) :
    ∃ items, items? d = some items ∧ ∃ d' ∈ items, read d' = some a := by
  obtain ⟨items, hitems, hread⟩ := Option.bind_eq_some_iff.1 h
  exact ⟨items, hitems, exists_of_mem_mapM? hread ha⟩

/-! ### Date ranges -/

namespace DateRange

/-- The document of an optional day. -/
def dayJson (d : Option Day) : Json := ofOption (.string ·.toText) d

theorem isCanonical_dayJson (d : Option Day) : (dayJson d).IsCanonical := by
  cases d <;> rfl

theorem nullable?_dayJson (d : Option Day) : nullable? storedDay? (dayJson d) = some d := by
  cases d with
  | none => rfl
  | some d =>
    have hday : storedDay? (.string d.toText) = some d := Day.ofDateText?_toText d
    show (storedDay? (.string d.toText)).map some = _
    rw [hday, Option.map_some]

/-- Fixed bounds are read in either order. -/
theorem ofJson?_custom {start stop : Option Day} {members : List (String × Json)}
    (h : members = [("start", dayJson start), ("end", dayJson stop)] ∨
      members = [("end", dayJson stop), ("start", dayJson start)]) :
    ofJson? (.object [("custom", .object members)]) = some (.custom start stop) := by
  have hparts : exactParts? ["start", "end"] (.object members) = some members := by
    refine exactParts?_object ?_ ?_ <;> rcases h with rfl | rfl <;> simp
  have hstart : Parts.optional members "start" storedDay? = some start := by
    rcases h with rfl | rfl <;> exact nullable?_dayJson start
  have hstop : Parts.optional members "end" storedDay? = some stop := by
    rcases h with rfl | rfl <;> exact nullable?_dayJson stop
  simp [ofJson?, case?, hparts, hstart, hstop]

theorem ofJson?_toJson (range : DateRange) : ofJson? range.toJson = some range := by
  cases range with
  | named range => simp [ofJson?, toJson, case?, bareCase?, NamedRange.ofName?_name]
  | custom start stop => exact ofJson?_custom (.inl rfl)

/-- The bounds change places when the document is put in order. -/
theorem ofJson?_canonical_toJson (range : DateRange) :
    ofJson? range.toJson.canonical = some range := by
  cases range with
  | named range =>
    have hcanonical : (toJson (.named range)).canonical = toJson (.named range) := rfl
    rw [hcanonical, ofJson?_toJson]
  | custom start stop =>
    have hlt : "end" < "start" := by decide
    have hbounds : sortMembers [("start", dayJson start), ("end", dayJson stop)] =
        [("end", dayJson stop), ("start", dayJson start)] :=
      sortMembers_cons_of_lt (List.pairwise_singleton _ _) (List.forall_mem_singleton.2 hlt)
    have hcanonical : (toJson (.custom start stop)).canonical =
        .object [("custom", .object [("end", dayJson stop), ("start", dayJson start)])] := by
      have hmembers : canonicalMembers [("start", dayJson start), ("end", dayJson stop)] =
          [("start", dayJson start), ("end", dayJson stop)] :=
        canonicalMembers_eq_self (by simp [isCanonical_dayJson])
      show Json.object (sortMembers [("custom", .object (sortMembers (canonicalMembers
        [("start", dayJson start), ("end", dayJson stop)])))]) = _
      rw [hmembers, hbounds]
      rfl
    rw [hcanonical]
    exact ofJson?_custom (.inr rfl)

end DateRange

/-! ### Payloads -/

namespace Payload

variable {kind : ConditionKind} {p : Payload} {j : Json} {members : List (String × Json)}

/-- A payload with finite numbers only; the document of an extension is in its canonical form. -/
def IsStorable : Payload → Prop
  | .comparison _ values => ∀ v ∈ values, v.IsStorable
  | .raw j => j.IsCanonical
  | _ => True

theorem listOf?_toJson {values : List Value} (h : ∀ v ∈ values, v.IsStorable) :
    listOf? (some ∘ Value.ofJson) (.array (values.map Value.toJson)) = some values := by
  have hread : listOf? (some ∘ Value.ofJson) (.array (values.map Value.toJson)) =
      some (values.map id) := listOf?_map fun v hv => congrArg some (Value.ofJson_toJson (h v hv))
  rwa [List.map_id] at hread

/-- A record without other parts is read from its own members. -/
theorem ofJson?_comparison {operator : OperatorId} {values : List Value} {d e : Json}
    (hkind : kind = .field ∨ kind = .customField) (hoperator : readWord? d = some operator)
    (hvalues : listOf? (some ∘ Value.ofJson) e = some values) :
    ofJson? kind (.object [("operator", d), ("values", e)]) =
      some (.comparison operator values) := by
  have hparts : exactParts? ["operator", "values"] (.object [("operator", d), ("values", e)]) =
      some [("operator", d), ("values", e)] := exactParts?_object (by simp) (by simp)
  rcases hkind with rfl | rfl <;> simp [ofJson?, hparts, hoperator, hvalues]

/-- The members of a relation's payload: what is not given is left out. -/
def relationMembers (present : Bool) (object objectType : Option String) : List (String × Json) :=
  ("has", .bool present) :: object.toList.map (fun s => ("entity_id", .string s)) ++
    objectType.toList.map fun s => ("entity_type", .string s)

theorem nodup_relationMembers (present : Bool) (object objectType : Option String) :
    ((relationMembers present object objectType).map Prod.fst).Nodup := by
  cases object <;> cases objectType <;> simp [relationMembers]

theorem ofJson?_relation (present : Bool) (object objectType : Option String) :
    ofJson? .relation (.object (relationMembers present object objectType)) =
      some (.relation present object objectType) := by
  have htext : ∀ s, nullable? text? (Json.string s) = some (some s) := fun _ => rfl
  have hparts : exactParts? ["has", "entity_id", "entity_type"]
      (.object (relationMembers present object objectType)) =
      some (relationMembers present object objectType) := by
    refine exactParts?_object ?_ (nodup_relationMembers _ _ _)
    cases object <;> cases objectType <;> simp [relationMembers]
  have hpresent : Parts.required (relationMembers present object objectType) "has" flag? =
      some present := rfl
  have hobject : Parts.optional (relationMembers present object objectType) "entity_id" text? =
      some object := by
    cases object <;> cases objectType <;> simp [relationMembers, htext]
  have htype : Parts.optional (relationMembers present object objectType) "entity_type" text? =
      some objectType := by
    cases object <;> cases objectType <;> simp [relationMembers, htext]
  simp [ofJson?, hparts, hpresent, hobject, htype]

/-- **The payload of a condition is read back.** -/
theorem ofJson?_toJson (hfits : p.fits kind = true) (h : p.IsStorable) :
    ofJson? kind p.toJson = some p := by
  cases p with
  | comparison operator values =>
    refine ofJson?_comparison ?_ (readWord?_ofNat operator) (listOf?_toJson h)
    cases kind <;> cases hfits <;> simp
  | dates range =>
    have hrange := DateRange.ofJson?_toJson range
    cases kind <;> cases hfits <;> simp [ofJson?, toJson, hrange]
  | relation present object objectType =>
    cases kind <;> cases hfits
    exact ofJson?_relation present object objectType
  | relationSubFilter present filter =>
    have hpresent : flag? (Json.bool present) = some present := rfl
    have hfilter : text? (Json.string filter) = some filter := rfl
    cases kind <;> cases hfits
    rw [toJson, ofJson?, exactParts?_object]
    · simp [hpresent, hfilter]
    · simp
    · simp
  | property present =>
    have hpresent : flag? (Json.bool present) = some present := rfl
    cases kind <;> cases hfits
    rw [toJson, ofJson?, exactParts?_object]
    · simp [hpresent]
    · simp
    · simp
  | subFilter =>
    cases kind <;> cases hfits
    rfl
  | raw j =>
    cases kind <;> cases hfits
    rfl

/-! ### Payloads in order -/

/-- Whether the members of a payload stand in order does not matter. -/
theorem ofJson?_sortMembers
    (hkind : kind ∈ [.subFilter, .field, .relation, .relationSubFilter, .property, .customField])
    (hnodup : (members.map Prod.fst).Nodup) :
    ofJson? kind (.object (sortMembers members)) = ofJson? kind (.object members) := by
  have hsorted := (sorted_sortMembers members).nodup
  have hmem : ∀ m, m ∈ sortMembers members ↔ m ∈ members := fun m => mem_sortMembers hnodup
  have hlookup := lookup_sortMembers hnodup
  simp only [List.mem_cons, List.not_mem_nil, or_false] at hkind
  rcases hkind with rfl | rfl | rfl | rfl | rfl | rfl <;>
    simp only [ofJson?, exactParts?_eq_ite hnodup, exactParts?_eq_ite hsorted, hmem] <;>
    split <;> simp [Parts.required, Parts.optional, hlookup]

theorem ofJson?_canonical_object
    (hkind : kind ∈ [.subFilter, .field, .relation, .relationSubFilter, .property, .customField])
    (hnodup : (members.map Prod.fst).Nodup) (hmembers : ∀ m ∈ members, m.2.IsCanonical) :
    ofJson? kind (Json.object members).canonical = ofJson? kind (.object members) := by
  rw [canonical, canonicalMembers_eq_self hmembers, ofJson?_sortMembers hkind hnodup]

/-- **The payload of a condition is read back from its document in order.** -/
theorem ofJson?_canonical_toJson (hfits : p.fits kind = true) (h : p.IsStorable) :
    ofJson? kind p.toJson.canonical = some p := by
  refine Eq.trans ?_ (ofJson?_toJson hfits h)
  cases p with
  | comparison operator values =>
    have hvalues : (Json.array (values.map Value.toJson)).IsCanonical :=
      isCanonical_array (List.forall_mem_map.2 fun v hv => Value.isCanonical_toJson (h v hv))
    refine ofJson?_canonical_object ?_ (by simp) (by simpa using ⟨rfl, hvalues⟩)
    cases kind <;> cases hfits <;> simp
  | dates range =>
    have hread := DateRange.ofJson?_toJson range
    have hcanonical := DateRange.ofJson?_canonical_toJson range
    cases kind <;> cases hfits <;> simp [ofJson?, toJson, hread, hcanonical]
  | relation present object objectType =>
    have hmembers : ∀ m ∈ relationMembers present object objectType, m.2.IsCanonical := by
      cases object <;> cases objectType <;> simp [relationMembers, IsCanonical, canonical]
    refine ofJson?_canonical_object ?_ (nodup_relationMembers _ _ _) hmembers
    cases kind <;> cases hfits
    simp
  | relationSubFilter present filter =>
    refine ofJson?_canonical_object ?_ (by simp) (by simp [IsCanonical, canonical])
    cases kind <;> cases hfits
    simp
  | property | subFilter => rfl
  | raw j =>
    have hj : j.canonical = j := h
    show ofJson? kind j.canonical = ofJson? kind j
    rw [hj]

theorem isStorable_comparison {parts : Parts Json} {names : List String} {operator : OperatorId}
    {values : List Value} (hj : j.IsRegular) (hparts : exactParts? names j = some parts)
    (hvalues : parts.required "values" (listOf? (some ∘ Value.ofJson)) = some values) :
    (comparison operator values).IsStorable := by
  obtain ⟨m, hm, hread⟩ := Parts.mem_of_required hvalues
  have hregular : m.2.IsRegular := hj.of_mem_exactParts? hparts hm
  intro v hv
  obtain ⟨items, hitems, d, hd, hv⟩ := exists_of_mem_listOf? hread hv
  cases hv
  rw [items?_eq_some_iff.1 hitems] at hregular
  exact Value.isStorable_of_isRegular (hregular.of_mem_items hd)

/-- **A payload that has been read can be stored.** -/
theorem isStorable_of_ofJson? (hj : j.IsRegular) (h : ofJson? kind j = some p) : p.IsStorable := by
  have hfits := fits_of_ofJson? h
  cases p with
  | comparison operator values =>
    cases kind <;> cases hfits
    all_goals
      simp only [ofJson?, Option.bind_eq_bind, Option.bind_eq_some_iff, Option.some.injEq] at h
      obtain ⟨parts, hparts, operator', -, values', hvalues, heq⟩ := h
      cases heq
      exact isStorable_comparison hj hparts hvalues
  | raw j' =>
    cases kind <;> cases hfits
    cases h
    exact hj.isCanonical
  | _ => trivial

end Payload

/-! ### Conditions -/

namespace StoredCondition

variable {s : StoredCondition} {j : Json}

/-- A stored condition as it is read from a document. -/
def canonical (s : StoredCondition) : StoredCondition := { s with value := s.value.canonical }

/-- A record of all parts is read from its own members. -/
theorem ofDocument?_object {kind : UInt16} {d : Json} (hkind : readWord? d = some kind)
    (reference : String) (value : Json) :
    ofDocument? (Json.object [("kind", d), ("ref", .string reference), ("value", value)]) =
      some ⟨kind, reference, value.canonical⟩ := by
  have hreference : text? (Json.string reference) = some reference := rfl
  have hvalue : json? value = some value.canonical := rfl
  rw [ofDocument?, parts?_object]
  · simp [hkind, hreference, hvalue]
  · simp
  · simp

/-- **A stored condition is read back from its document.** -/
theorem ofDocument?_toJson (s : StoredCondition) : ofDocument? s.toJson = some s.canonical :=
  ofDocument?_object (readWord?_ofNat s.kind) s.reference s.value

/-- What a stored condition holds is kept as it has been read. -/
theorem isRegular_value_of_ofDocument? {δ : Type} [Document δ] {P : δ → Prop}
    (hP : IsHereditary P) {d : δ} (hd : P d) (h : ofDocument? d = some s) : s.value.IsRegular := by
  simp only [ofDocument?, Option.bind_eq_bind, Option.bind_eq_some_iff, Option.some.injEq] at h
  obtain ⟨parts, hparts, kind, -, reference, -, value, hvalue, rfl⟩ := h
  rcases Parts.mem_of_orDefault hvalue with rfl | ⟨m, hm, hread⟩
  · exact ⟨.null, rfl⟩
  · exact hP.isRegular_of_json? (hP.of_mem_parts? hd hparts hm) hread

theorem payload_eq_value (h : ConditionKind.ofId s.kind = .subFilter → s.value ≠ .null) :
    s.payload = s.value := by
  unfold payload
  split
  next hkind hvalue => exact absurd hvalue (h hkind)
  next => rfl

theorem isRegular_payload (h : s.value.IsRegular) : s.payload.IsRegular := by
  unfold payload
  split
  · exact ⟨.object nofun, rfl⟩
  · exact h

end StoredCondition

namespace Condition

variable {c : Condition} {s : StoredCondition}

/-- A condition whose payload can be stored. -/
def IsStorable (c : Condition) : Prop := c.payload.IsStorable

theorem ofStored?_eq_some_iff : ofStored? s = some c ↔ c.kind = .ofId s.kind ∧
    c.reference = s.reference ∧ Payload.ofJson? c.kind s.payload = some c.payload := by
  unfold ofStored?
  constructor
  · intro h
    split at h
    next p hp =>
      cases h
      exact ⟨rfl, rfl, hp⟩
    next => cases h
  · obtain ⟨kind, reference, payload, fits⟩ := c
    rintro ⟨rfl, rfl, hpayload⟩
    split
    next p hp =>
      cases hp.symm.trans hpayload
      rfl
    next hp => cases hp.symm.trans hpayload

theorem payload_of_subFilter (hkind : c.kind = .subFilter) : c.payload = .subFilter := by
  obtain ⟨kind, reference, payload, fits⟩ := c
  cases hkind
  cases payload <;> cases fits
  rfl

/-- The payload of a sub-filter is written and not left out. -/
theorem payload_toStored (c : Condition) : c.toStored.payload = c.payload.toJson := by
  refine StoredCondition.payload_eq_value fun hkind => ?_
  have hpayload := payload_of_subFilter ((ConditionKind.ofId_id c.kind).symm.trans hkind)
  show c.payload.toJson ≠ .null
  rw [hpayload]
  nofun

theorem payload_canonical_toStored (c : Condition) :
    c.toStored.canonical.payload = c.payload.toJson.canonical := by
  refine StoredCondition.payload_eq_value fun hkind => ?_
  have hpayload := payload_of_subFilter ((ConditionKind.ofId_id c.kind).symm.trans hkind)
  show c.payload.toJson.canonical ≠ .null
  rw [hpayload]
  nofun

/-- **A condition is read back from its stored form.** -/
theorem ofStored?_toStored (h : c.IsStorable) : ofStored? c.toStored = some c := by
  refine ofStored?_eq_some_iff.2 ⟨(ConditionKind.ofId_id c.kind).symm, rfl, ?_⟩
  rw [payload_toStored]
  exact Payload.ofJson?_toJson c.fits h

/-- **A condition is read back from its stored form in order.** -/
theorem ofStored?_canonical_toStored (h : c.IsStorable) :
    ofStored? c.toStored.canonical = some c := by
  refine ofStored?_eq_some_iff.2 ⟨(ConditionKind.ofId_id c.kind).symm, rfl, ?_⟩
  rw [payload_canonical_toStored]
  exact Payload.ofJson?_canonical_toJson c.fits h

/-- **A condition that has been read can be stored.** -/
theorem isStorable_of_ofStored? (hs : s.value.IsRegular) (h : ofStored? s = some c) :
    c.IsStorable := by
  obtain ⟨-, -, hpayload⟩ := ofStored?_eq_some_iff.1 h
  exact Payload.isStorable_of_ofJson? (StoredCondition.isRegular_payload hs) hpayload

end Condition

end RecordFilters
