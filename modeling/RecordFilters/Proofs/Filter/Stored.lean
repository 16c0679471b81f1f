import RecordFilters.Proofs.Condition.Stored
import RecordFilters.Filter.Stored

/-! # Stored filters, read again

* `Filter.ofStored_toStored`, `Filter.exists_ofDocument?_toJson`: a filter whose numbers are finite
  is read back, from its stored form and from its document.
* `Filter.isStorable_of_isHereditary`: whatever document a filter has been read from, it can be
  stored again.
* `Filter.stored_normal`: reading and storing brings all documents of a filter to one form. -/

namespace RecordFilters

open Json Document

/-! ### Owners -/

theorem Ownership.ofDocument?_toJson (o : Ownership) : ofDocument? o.toJson = some o := by
  have htext : ∀ s, text? (Json.string s) = some s := fun _ => rfl
  cases o with
  | everyone => rfl
  | user id =>
    show ofTable? (Json.object [("user_id", .string id)]) = _
    rw [ofTable?, table?_object]
    · simp [htext]
    · simp
    · simp
  | team id =>
    have hother : table? ["user_id"] (Json.object [("team_id", .string id)]) = some [] := rfl
    show ofTable? (Json.object [("team_id", .string id)]) = _
    rw [ofTable?, hother, table?_object]
    · simp [htext, Parts.required]
    · simp
    · simp

namespace StoredFilter

variable {s : StoredFilter} {l : List StoredCondition} {conditions : List Condition}
  {c : Condition}

/-! ### Records -/

/-- A stored filter as it is read from a document. -/
def canonical (s : StoredFilter) : StoredFilter :=
  { s with conditions := s.conditions.map StoredCondition.canonical }

/-- A record of all parts is read from its own members. -/
theorem ofDocument?_object {owner list : Json} {conditions : List StoredCondition}
    (howner : Ownership.ofDocument? owner = some s.owner)
    (hlist : listOf? StoredCondition.ofDocument? list = some conditions) :
    ofDocument? (Json.object [("id", .string s.id), ("name", .string s.name),
      ("entity_type", .string s.entityType), ("filter_type", .string s.filterType.id),
      ("is_custom", .bool s.isCustom), ("use_or", .bool s.useOr), ("owner", owner),
      ("conditions", list)]) = some { s with conditions := conditions } := by
  have htext : ∀ s, text? (Json.string s) = some s := fun _ => rfl
  have hflag : ∀ b, flag? (Json.bool b) = some b := fun _ => rfl
  rw [ofDocument?, parts?_object]
  · simp [htext, hflag, howner, hlist]
  · simp
  · simp

/-- **A stored filter is read back from its document.** -/
theorem ofDocument?_toJson (s : StoredFilter) : ofDocument? s.toJson = some s.canonical :=
  ofDocument?_object (Ownership.ofDocument?_toJson s.owner)
    (listOf?_map fun c _ => StoredCondition.ofDocument?_toJson c)

theorem isRegular_value_of_ofDocument? {δ : Type} [Document δ] {P : δ → Prop}
    (hP : IsHereditary P) {d : δ} (hd : P d) (h : ofDocument? d = some s) {c : StoredCondition}
    (hc : c ∈ s.conditions) : c.value.IsRegular := by
  simp only [ofDocument?, Option.bind_eq_bind, Option.bind_eq_some_iff, Option.some.injEq] at h
  obtain ⟨parts, hparts, id, -, name, -, entityType, -, filterType, -, isCustom, -, useOr, -,
    owner, -, conditions, hconditions, rfl⟩ := h
  obtain ⟨m, hm, hread⟩ := Parts.mem_of_required hconditions
  obtain ⟨items, hitems, d', hd', hread⟩ := exists_of_mem_listOf? hread hc
  have hitem : P d' := hP.of_mem_items? (hP.of_mem_parts? hd hparts hm) hitems hd'
  exact StoredCondition.isRegular_value_of_ofDocument? hP hitem hread

/-! ### Conditions -/

/-- Conditions that are read back one by one are read back together. -/
theorem conditions?_map {write : Condition → StoredCondition}
    (h : ∀ c ∈ conditions, Condition.ofStored? (write c) = some c) :
    conditions? (conditions.map write) = .ok conditions := by
  induction conditions with
  | nil => rfl
  | cons c r ih =>
    have hrest := ih fun c' hc' => h c' (List.mem_cons_of_mem _ hc')
    rw [List.map_cons, conditions?, h c List.mem_cons_self, hrest]
    rfl

/-- Every condition of a filter has been read from one of the stored ones. -/
theorem exists_of_mem_conditions? (h : conditions? l = .ok conditions) (hc : c ∈ conditions) :
    ∃ s ∈ l, Condition.ofStored? s = some c := by
  induction l generalizing conditions with
  | nil =>
    cases h
    cases hc
  | cons s r ih =>
    unfold conditions? at h
    split at h
    next => cases h
    next first hfirst =>
      cases hrest : conditions? r with
      | error fault =>
        rw [hrest] at h
        cases h
      | ok rest =>
        rw [hrest] at h
        cases h
        rcases List.mem_cons.1 hc with rfl | hc
        · exact ⟨s, List.mem_cons_self, hfirst⟩
        · obtain ⟨s', hs', hread⟩ := ih hrest hc
          exact ⟨s', List.mem_cons_of_mem _ hs', hread⟩

end StoredFilter

namespace Filter

variable {f : Filter} {s : StoredFilter} {j : Json}

/-- A filter whose conditions can be stored: all of their numbers are finite. -/
def IsStorable (f : Filter) : Prop := ∀ c ∈ f.conditions, c.IsStorable

theorem conditions?_of_ofStored (h : ofStored s = .ok f) :
    StoredFilter.conditions? s.conditions = .ok f.conditions := by
  unfold ofStored at h
  split at h
  next => cases h
  next conditions hconditions =>
    split at h
    next => cases h; exact hconditions
    next => cases h

/-- Conditions in whichever stored form they are read back from make up the filter. -/
theorem ofStored_map {write : Condition → StoredCondition}
    (h : ∀ c ∈ f.conditions, Condition.ofStored? (write c) = some c) :
    ofStored { f.toStored with conditions := f.conditions.map write } = .ok f := by
  unfold ofStored
  simp only [StoredFilter.conditions?_map h, dif_pos f.conditions_ne_nil]
  rfl

/-- **A filter is read back from its stored form.** -/
theorem ofStored_toStored (h : f.IsStorable) : ofStored f.toStored = .ok f :=
  ofStored_map fun c hc => Condition.ofStored?_toStored (h c hc)

theorem ofStored_canonical_toStored (h : f.IsStorable) : ofStored f.toStored.canonical = .ok f := by
  have hwritten : f.toStored.canonical =
      { f.toStored with conditions := f.conditions.map fun c => c.toStored.canonical } := by
    simp [StoredFilter.canonical, toStored]
  rw [hwritten]
  exact ofStored_map fun c hc => Condition.ofStored?_canonical_toStored (h c hc)

/-- **A filter is read back from its document.** -/
theorem exists_ofDocument?_toJson (h : f.IsStorable) :
    ∃ s, StoredFilter.ofDocument? f.toJson = some s ∧ ofStored s = .ok f :=
  ⟨f.toStored.canonical, StoredFilter.ofDocument?_toJson f.toStored, ofStored_canonical_toStored h⟩

/-- **A filter that has been read can be stored**, in whichever format it was written. -/
theorem isStorable_of_isHereditary {δ : Type} [Document δ] {P : δ → Prop} (hP : IsHereditary P)
    {d : δ} (hd : P d) (hs : StoredFilter.ofDocument? d = some s) (hf : ofStored s = .ok f) :
    f.IsStorable := by
  intro c hc
  obtain ⟨c', hc', hread⟩ := StoredFilter.exists_of_mem_conditions? (conditions?_of_ofStored hf) hc
  have hregular := StoredFilter.isRegular_value_of_ofDocument? hP hd hs hc'
  exact Condition.isStorable_of_ofStored? hregular hread

theorem isStorable_of_ofDocument? (hj : j.InBounds) (hs : StoredFilter.ofDocument? j = some s)
    (hf : ofStored s = .ok f) : f.IsStorable :=
  isStorable_of_isHereditary isHereditary_inBounds hj hs hf

/-- **Stored filters have one form.** A filter whose numbers are finite is read back from its stored
form and from its document. Whatever document a filter has been read from, it is such a filter, and
storing and reading it again changes nothing any more. -/
theorem stored_normal :
    (∀ f : Filter, f.IsStorable → ofStored f.toStored = .ok f ∧
      ∃ s, StoredFilter.ofDocument? f.toJson = some s ∧ ofStored s = .ok f) ∧
    ∀ (j : Json) (s : StoredFilter) (f : Filter), j.InBounds →
      StoredFilter.ofDocument? j = some s → ofStored s = .ok f →
        f.IsStorable ∧
        (∀ c ∈ f.conditions,
          ConditionKind.ofId c.kind.id = c.kind ∧ c.payload.fits c.kind = true) ∧
        ofStored f.toStored = .ok f ∧
        (ofStored f.toStored).map toStored = (ofStored s).map toStored := by
  refine ⟨fun f hf => ⟨ofStored_toStored hf, exists_ofDocument?_toJson hf⟩, ?_⟩
  intro j s f hj hs hf
  have hstorable : f.IsStorable := isStorable_of_ofDocument? hj hs hf
  have hback : ofStored f.toStored = .ok f := ofStored_toStored hstorable
  refine ⟨hstorable, fun c _ => ⟨ConditionKind.ofId_id c.kind, c.fits⟩, hback, ?_⟩
  rw [hback, hf]

/-- A document of a filter that leaves out what may be left out: lists stand for records, an integer
for a number, and the sub-filter has no payload. The payload of an extension names a member
twice. -/
def loose : Json :=
  .object [
    ("conditions", .array [
      .array [.whole 5, .string "age", .array [.whole 9, .array [.whole 18]]],
      .object [("ref", .string "vip"), ("kind", .whole 1)],
      .object [("kind", .whole 300), ("ref", .string "near"),
        ("value", .object [("km", .whole 4), ("at", .null), ("km", .whole 5)])]]),
    ("entity_type", .string "person"), ("name", .string "Grown up"), ("id", .string "adult")]

/-- The filter in that document. -/
def grownUp : Filter where
  id := "adult"
  name := "Grown up"
  entityType := "person"
  conditions := [
    ⟨.field, "age", .comparison 9 [.number (.ofInt 18)], rfl⟩, .onSubFilter "vip",
    ⟨.other 300 (by decide), "near", .raw (.object [("at", .null), ("km", .whole 5)]), rfl⟩]
  conditions_ne_nil := by simp

theorem inBounds_loose : loose.InBounds := by
  simp [loose, Number.leastWhole, UInt64.size, InBounds.null, InBounds.string]

theorem stored_normal_loose : ∃ s, StoredFilter.ofDocument? loose = some s ∧
    ofStored s = .ok grownUp ∧ grownUp.IsStorable ∧ ofStored grownUp.toStored = .ok grownUp ∧
    ∃ s, StoredFilter.ofDocument? grownUp.toJson = some s ∧ ofStored s = .ok grownUp := by
  obtain ⟨s, hs, hf⟩ : ∃ s, StoredFilter.ofDocument? loose = some s ∧ ofStored s = .ok grownUp := by
    refine ⟨_, rfl, ?_⟩
    rfl
  obtain ⟨hstorable, -, hback, -⟩ := stored_normal.2 loose s grownUp inBounds_loose hs hf
  exact ⟨s, hs, hf, hstorable, hback, (stored_normal.1 grownUp hstorable).2⟩

end Filter

end RecordFilters
