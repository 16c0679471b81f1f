import RecordFilters.Proofs.Evaluation.Registries

/-! # Evaluation agrees with the meaning

The predicate of a filter is put together from those of its conditions, and remembered. What is
remembered of a stored filter means what the filter means, and an evaluation that succeeds keeps it
so; by induction on the levels that are left, the predicate of every filter means what the filter
means.

* `usableParts_spec`: the parts of a filter mean what its conditions say.
* `compiles_compileWithin`: the predicate of a stored filter.
* `apply_means`: the records that are found, where names of operands are unambiguous. -/

namespace RecordFilters

namespace Setting

variable {s : Setting} {f : Filter} {m : Record → Bool}

/-- The meaning of a filter, where it has one. -/
noncomputable def meaning (s : Setting) (f : Filter) : Record → Bool :=
  open Classical in if h : ∃ m, s.Means f m then h.choose else fun _ => false

theorem Means.meaning_eq (h : s.Means f m) : s.meaning f = m := by
  have hm : ∃ m, s.Means f m := ⟨m, h⟩
  unfold meaning
  rw [dif_pos hm]
  exact hm.choose_spec.unique h

/-- What is remembered means what the stored filters mean. -/
def Remembers (s : Setting) (ctx : Context) : Prop :=
  ∀ entry ∈ ctx.memo, ∃ g ∈ s.filters, g.id = entry.1 ∧
    ∃ m, s.Means g m ∧ ∀ r, entry.2.holds s.records r = m r

/-- A step makes the predicate of a filter. -/
structure Compiles (s : Setting) (x : Evaluation Predicate) (f : Filter) : Prop where
  ok : ∀ {ctx p ctx'}, ctx.today = s.today → x.runIn ctx = (.ok p, ctx') →
    ctx.Grows s.registries ctx' ∧ (s.AgreedBy ctx' → s.Remembers ctx →
      s.Remembers ctx' ∧ ∃ m, s.Means f m ∧ ∀ r, p.holds s.records r = m r)
  /-- What fails is not left out. -/
  error : ∀ {ctx e ctx'}, ctx.today = s.today → x.runIn ctx = (.error e, ctx') →
    e.isConfig = false

end Setting

namespace Evaluator

open Evaluation

variable {ev : Evaluator} {f : Filter} {records : RecordSet} {user : Option ActingUser}
  {today : Day} {ctx ctx' : Context} {nested : Filter → Evaluation Predicate}

/-! ### The parts of a filter -/

theorem holds_combine {useOr : Bool} {parts : List Predicate} {r : Record} :
    (combine useOr parts).holds records r =
      if parts.isEmpty then true
      else if useOr then parts.any (·.holds records r) else parts.all (·.holds records r) := by
  unfold combine
  split
  next => rw [Predicate.holds_always]
  next =>
    split
    next => rw [Predicate.holds_either]
    next => rw [Predicate.holds_both]

/-- How a condition is treated among the conditions of a filter. -/
theorem runIn_usableParts_cons (c : Condition) (l : List Condition) :
    (ev.usableParts f nested (c :: l)).runIn ctx =
      match (ev.conditionPredicate f nested c).runIn ctx with
      | (.ok p, ctx₁) =>
        (((ev.usableParts f nested l).runIn ctx₁).1.map (p :: ·),
          ((ev.usableParts f nested l).runIn ctx₁).2)
      | (.error e, ctx₁) =>
        if e.isConfig then (ev.usableParts f nested l).runIn ctx₁ else (.error e, ctx₁) := by
  rw [usableParts, runIn_bind, runIn_tryCatch, runIn_map]
  rcases (ev.conditionPredicate f nested c).runIn ctx with ⟨e | p, ctx₁⟩
  · dsimp only [Except.map]
    by_cases he : e.isConfig = true
    · simp only [he, if_true, runIn_pure]
      rw [runIn_bind]
      rcases (ev.usableParts f nested l).runIn ctx₁ with ⟨e | parts, ctx₂⟩ <;> rfl
    · simp only [he]
      rfl
  · dsimp only [Except.map]
    rw [runIn_bind]
    rcases (ev.usableParts f nested l).runIn ctx₁ with ⟨e | parts, ctx₂⟩ <;> rfl

theorem runIn_map_eq_ok {α β : Type} {x : Except FilterError α × Context} {k : α → β} {b : β}
    (h : (x.1.map k, x.2) = (.ok b, ctx')) : ∃ a, x = (.ok a, ctx') ∧ k a = b := by
  obtain ⟨e | a, ctx₁⟩ := x
  · cases h
  · cases h
    exact ⟨a, rfl, rfl⟩

/-- **The parts of a filter mean what its conditions say.** -/
theorem usableParts_spec (hev : ev.catalogs.HasStandard) {s : Setting}
    (hs : s = ev.setting records user today)
    (hnested : ∀ g ∈ ev.filters, s.Compiles (nested g) g) {l : List Condition}
    {parts : List Predicate} (hday : ctx.today = today)
    (h : (ev.usableParts f nested l).runIn ctx = (.ok parts, ctx')) :
    ctx.Grows s.registries ctx' ∧ (s.AgreedBy ctx' → s.Remembers ctx →
      s.Remembers ctx' ∧ (∀ g ∈ l.filterMap (s.consulted? f), s.Means g (s.meaning g)) ∧
        parts.map (fun p r => p.holds s.records r) = l.filterMap (s.test? s.meaning f)) := by
  induction l generalizing ctx parts with
  | nil =>
    cases h
    exact ⟨Context.Grows.refl _ _, fun _ hmemo => ⟨hmemo, by simp, rfl⟩⟩
  | cons c l ih =>
    have hc := conditionPredicate_spec hev hday records user nested s.meaning f c
    rw [← hs] at hc
    rw [runIn_usableParts_cons] at h
    cases hconsulted : s.consulted? f c with
    | none =>
      rw [hconsulted] at hc
      rw [List.filterMap_cons_none hconsulted]
      cases htest : s.test? s.meaning f c with
      | none =>
        rw [htest] at hc
        obtain ⟨e, hrun, he⟩ := hc
        rw [hrun] at h
        dsimp only at h
        rw [if_pos he] at h
        rw [List.filterMap_cons_none htest]
        exact ih hday h
      | some test =>
        rw [htest] at hc
        obtain ⟨p, ctx₁, hrun, hmemo, hgrows, hholds⟩ := hc
        rw [hrun] at h
        dsimp only at h
        obtain ⟨rest, hrest, rfl⟩ := runIn_map_eq_ok h
        obtain ⟨hgrows', hrest⟩ := ih (hgrows.today.trans hday) hrest
        refine ⟨hgrows.trans hgrows', fun hagrees hremembers => ?_⟩
        have hremembers₁ : s.Remembers ctx₁ := by
          unfold Setting.Remembers
          rw [hmemo]
          exact hremembers
        obtain ⟨hremembers', hmeans, hparts⟩ := hrest hagrees hremembers₁
        refine ⟨hremembers', hmeans, ?_⟩
        rw [List.filterMap_cons_some htest, List.map_cons, hparts]
        exact congrArg (· :: _) (funext (hholds (hagrees.of_grows hgrows')))
    | some g =>
      rw [hconsulted] at hc
      obtain ⟨wrap, heq, hwrap⟩ := hc
      have hg : g ∈ ev.filters := by
        have hmem := FilterSet.mem_of_consulted? hconsulted
        rw [hs] at hmem
        exact hmem
      rw [heq, runIn_map] at h
      rcases hrun : (nested g).runIn ctx with ⟨e | p, ctx₁⟩
      · have he := (hnested g hg).error (hday.trans (by rw [hs]; rfl)) hrun
        rw [hrun] at h
        simp [Except.map, he] at h
      · obtain ⟨hgrows, hcompiled⟩ := (hnested g hg).ok (hday.trans (by rw [hs]; rfl)) hrun
        rw [hrun] at h
        obtain ⟨rest, hrest, rfl⟩ := runIn_map_eq_ok h
        obtain ⟨hgrows', hrest⟩ := ih (hgrows.today.trans hday) hrest
        refine ⟨hgrows.trans hgrows', fun hagrees hremembers => ?_⟩
        obtain ⟨hremembers₁, m, hmeans, hholds⟩ :=
          hcompiled (hagrees.of_grows hgrows') hremembers
        obtain ⟨hremembers', hmeans', hparts⟩ := hrest hagrees hremembers₁
        have hmeaning : s.meaning g = m := hmeans.meaning_eq
        obtain ⟨test, htest, hwrapped⟩ := hwrap s.meaning p fun r => by rw [hmeaning, hholds]
        refine ⟨hremembers', ?_, ?_⟩
        · rw [List.filterMap_cons_some hconsulted]
          refine List.forall_mem_cons.2 ⟨?_, hmeans'⟩
          rw [hmeaning]
          exact hmeans
        · rw [List.filterMap_cons_some htest, List.map_cons, hparts]
          exact congrArg (· :: _) (funext hwrapped)

/-- What is left out does not fail, and what fails is no error of configuration. -/
theorem isConfig_of_usableParts {l : List Condition} {e : FilterError}
    (h : (ev.usableParts f nested l).runIn ctx = (.error e, ctx')) : e.isConfig = false := by
  induction l generalizing ctx with
  | nil => cases h
  | cons c l ih =>
    rw [runIn_usableParts_cons] at h
    rcases hrun : (ev.conditionPredicate f nested c).runIn ctx with ⟨e₁ | p, ctx₁⟩
    · rw [hrun] at h
      dsimp only at h
      by_cases he : e₁.isConfig = true
      · rw [if_pos he] at h
        exact ih h
      · rw [if_neg he] at h
        cases h
        exact Bool.eq_false_iff.2 he
    · rw [hrun] at h
      dsimp only at h
      rcases hrest : (ev.usableParts f nested l).runIn ctx₁ with ⟨e₂ | parts, ctx₂⟩
      · rw [hrest] at h
        cases h
        exact ih hrest
      · rw [hrest] at h
        cases h

/-! ### The predicate of a filter -/

theorem runIn_compileWithin_known {levels : Nat} {entry : FilterId × Predicate}
    (h : ctx.memo.get? f.id = some entry) :
    (ev.compileWithin (levels + 1) f).runIn ctx = (.ok entry.2, ctx) := by
  rw [compileWithin, runIn_bind_ok (runIn_remembered? f.id), h]
  rfl

theorem runIn_compileWithin_new {levels : Nat} (h : ctx.memo.get? f.id = none) :
    (ev.compileWithin (levels + 1) f).runIn ctx =
      match (ev.usableParts f (ev.compileWithin levels) f.conditions).runIn ctx with
      | (.ok parts, ctx') => (.ok (combine f.useOr parts),
          { ctx' with memo := ctx'.memo.insert (f.id, combine f.useOr parts) })
      | (.error e, ctx') => (.error e, ctx') := by
  rw [compileWithin, runIn_bind_ok (runIn_remembered? f.id), h]
  dsimp only [Option.map_none]
  rw [runIn_bind]
  rcases (ev.usableParts f (ev.compileWithin levels) f.conditions).runIn ctx with
    ⟨e | parts, ctx'⟩ <;> rfl

theorem isConfig_of_compileWithin {levels : Nat} {e : FilterError}
    (h : (ev.compileWithin levels f).runIn ctx = (.error e, ctx')) : e.isConfig = false := by
  cases levels with
  | zero =>
    cases h
    rfl
  | succ levels =>
    cases hknown : ctx.memo.get? f.id with
    | some entry =>
      rw [runIn_compileWithin_known hknown] at h
      cases h
    | none =>
      rw [runIn_compileWithin_new hknown] at h
      rcases hparts : (ev.usableParts f (ev.compileWithin levels) f.conditions).runIn ctx with
        ⟨e₁ | parts, ctx₁⟩
      · rw [hparts] at h
        cases h
        exact isConfig_of_usableParts hparts
      · rw [hparts] at h
        cases h

/-- **What is left out is what says nothing**: a condition fails with an error of configuration
exactly if it refers to something that is not there. -/
theorem isConfig_iff_test?_eq_none (hev : ev.catalogs.HasStandard) (hday : ctx.today = today)
    (sub : Filter → Record → Bool) (levels : Nat) (c : Condition) :
    (∃ e ctx', (ev.conditionPredicate f (ev.compileWithin levels) c).runIn ctx = (.error e, ctx') ∧
      e.isConfig = true) ↔ (ev.setting records user today).test? sub f c = none := by
  have hc := conditionPredicate_spec hev hday records user (ev.compileWithin levels) sub f c
  cases hconsulted : (ev.setting records user today).consulted? f c with
  | none =>
    rw [hconsulted] at hc
    cases htest : (ev.setting records user today).test? sub f c with
    | none =>
      rw [htest] at hc
      obtain ⟨e, hrun, he⟩ := hc
      exact ⟨fun _ => rfl, fun _ => ⟨e, ctx, hrun, he⟩⟩
    | some test =>
      rw [htest] at hc
      obtain ⟨p, ctx₁, hrun, -⟩ := hc
      rw [hrun]
      exact ⟨fun ⟨_, _, h, _⟩ => (by cases h), fun h => (by cases h)⟩
  | some g =>
    rw [hconsulted] at hc
    obtain ⟨wrap, heq, hwrap⟩ := hc
    constructor
    · rintro ⟨e, ctx', hrun, he⟩
      rw [heq, runIn_map] at hrun
      rcases hnested : (ev.compileWithin levels g).runIn ctx with ⟨e₁ | p, ctx₁⟩
      · rw [hnested] at hrun
        cases hrun
        rw [isConfig_of_compileWithin hnested] at he
        cases he
      · rw [hnested] at hrun
        cases hrun
    · intro hnone
      obtain ⟨test, htest, -⟩ := hwrap (fun _ _ => true) .always fun _ => Predicate.holds_always
      have same := Setting.isSome_test? (s := ev.setting records user today) sub
        (fun _ _ => true) f c
      rw [hnone, htest] at same
      cases same

/-- A filter that is not remembered is compiled to what it means. -/
theorem compileWithin_new (hev : ev.catalogs.HasStandard) {s : Setting}
    (hs : s = ev.setting records user today) {levels : Nat}
    (hnested : ∀ g ∈ ev.filters, s.Compiles (ev.compileWithin levels g) g) {p : Predicate}
    (hday : ctx.today = today) (hnew : ctx.memo.get? f.id = none)
    (h : (ev.compileWithin (levels + 1) f).runIn ctx = (.ok p, ctx')) :
    ctx.Grows s.registries ctx' ∧ (s.AgreedBy ctx' → s.Remembers ctx →
      (f ∈ ev.filters → s.Remembers ctx') ∧
        ∃ m, s.Means f m ∧ ∀ r, p.holds s.records r = m r) := by
  rw [runIn_compileWithin_new hnew] at h
  rcases hparts : (ev.usableParts f (ev.compileWithin levels) f.conditions).runIn ctx with
    ⟨e | parts, ctx₁⟩
  · rw [hparts] at h
    cases h
  · rw [hparts] at h
    obtain ⟨hgrows, hspec⟩ := usableParts_spec hev hs hnested hday hparts
    cases h
    refine ⟨hgrows.remember _ _, fun hagrees hremembers => ?_⟩
    obtain ⟨hremembers₁, hmeans, hparts⟩ := hspec hagrees hremembers
    have holds : ∀ r, (combine f.useOr parts).holds s.records r = s.satisfies s.meaning f r := by
      intro r
      rw [holds_combine]
      unfold Setting.satisfies
      rw [← hparts]
      simp only [List.isEmpty_map, List.any_map, List.all_map]
      rfl
    have hf : s.Means f (s.satisfies s.meaning f) := .of s.meaning hmeans
    refine ⟨fun hstored entry hentry => ?_, _, hf, holds⟩
    rcases Index.mem_insert.1 hentry with rfl | ⟨hentry, -⟩
    · refine ⟨f, ?_, rfl, _, hf, holds⟩
      rw [hs]
      exact hstored
    · exact hremembers₁ entry hentry

/-- **The predicate of a stored filter means what the filter means**, however many levels are
left. -/
theorem compiles_compileWithin (hev : ev.catalogs.HasStandard) {s : Setting}
    (hs : s = ev.setting records user today) (levels : Nat) :
    ∀ g ∈ ev.filters, s.Compiles (ev.compileWithin levels g) g := by
  induction levels with
  | zero =>
    intro g _
    refine ⟨fun _ h => ?_, fun _ h => isConfig_of_compileWithin h⟩
    cases h
  | succ levels ih =>
    intro g hg
    refine ⟨fun {ctx p ctx'} hday h => ?_, fun _ h => isConfig_of_compileWithin h⟩
    cases hknown : ctx.memo.get? g.id with
    | some entry =>
      rw [runIn_compileWithin_known hknown] at h
      cases h
      refine ⟨Context.Grows.refl _ _, fun _ hremembers => ⟨hremembers, ?_⟩⟩
      obtain ⟨hentry, hid⟩ := Index.get?_eq_some_iff.1 hknown
      obtain ⟨g', hg', hid', hm⟩ := hremembers entry hentry
      have same : g' = g := by
        rw [hs] at hg'
        exact Index.eq_of_key_eq hg' hg (hid'.trans hid)
      rw [← same]
      exact hm
    | none =>
      have hday : ctx.today = today := hday.trans (by rw [hs]; rfl)
      obtain ⟨hgrows, hspec⟩ := compileWithin_new hev hs ih hday hknown h
      refine ⟨hgrows, fun hagrees hremembers => ?_⟩
      obtain ⟨hremembers', hm⟩ := hspec hagrees hremembers
      exact ⟨hremembers' hg, hm⟩

/-! ### The records of a filter -/

/-- Where operands of one name are resolved alike in all filters to which a filter leads, the
predicate that a fresh context makes of it holds of the records that satisfy it. -/
theorem exists_means_of_compile (hev : ev.catalogs.HasStandard) (records : RecordSet)
    (hmemo : ctx.memo = ∅) (hresolved : ctx.resolved = ∅)
    (hnames : ev.catalogs.registries.UnambiguousAmong (ev.typesMet f) ctx.user ctx.today)
    {p : Predicate} (h : (ev.compile f).runIn ctx = (.ok p, ctx')) :
    ∃ m, (ev.setting records ctx.user ctx.today).Means f m ∧ ∀ r, p.holds records r = m r := by
  -- no other registry is looked up, so that the names are unambiguous in those that count
  let ev' := ev.withRegistries (ev.catalogs.registries.only (ev.typesMet f))
  have hclosed : ∀ g, ev.Leads f g → ∀ g' ∈ ev.consulted g, ev.Leads f g' :=
    fun _ hlead _ hg' => hlead.tail hg'
  have hsame : ∀ g, ev.Leads f g → (ev.catalogs.registries.only (ev.typesMet f)).get?
      g.filterType = ev.catalogs.registries.get? g.filterType :=
    fun g hlead => RegistryCatalog.get?_only ⟨g, hlead, rfl⟩
  have hcompile : ev'.compile f = ev.compile f :=
    compileWithin_withRegistries hev.handlers hclosed hsame _ .refl
  have hev' : ev'.catalogs.HasStandard := ⟨hev.handlers, hev.operators⟩
  have hnew : ctx.memo.get? f.id = none := by rw [hmemo]; rfl
  have hremembers : (ev'.setting records ctx.user ctx.today).Remembers ctx := by
    intro entry hentry
    rw [hmemo] at hentry
    exact absurd hentry Index.not_mem_empty
  rw [← hcompile] at h
  obtain ⟨hgrows, hspec⟩ :=
    compileWithin_new hev' rfl (compiles_compileWithin hev' rfl _) rfl hnew h
  obtain ⟨-, m, hmeans, hholds⟩ := hspec (hgrows.agreesWith hresolved hnames.only) hremembers
  exact ⟨m, hmeans.withRegistries hclosed hsame .refl, hholds⟩

/-- **An evaluation finds the records that satisfy the filter**, each once and in order. A context
knows an operand by its name alone; so where a filter leads to filters of other types, no two of
these may hold different operands under one name. -/
theorem apply_means (hev : ev.catalogs.HasStandard) {storage storage' : Storage}
    {ids : List RecordId} (hmemo : ctx.memo = ∅) (hresolved : ctx.resolved = ∅)
    (hnames : ev.catalogs.registries.UnambiguousAmong (ev.typesMet f) ctx.user ctx.today)
    (h : ev.apply f ctx storage = (.ok ids, ctx', storage')) :
    ∃ m, (ev.setting storage.records ctx.user ctx.today).Means f m ∧
      ids.Pairwise (· < ·) ∧ ∀ id, id ∈ ids ↔
        ∃ r ∈ storage.records, r.id = id ∧ r.entityType = f.entityType ∧ m r = true := by
  unfold apply at h
  rcases hcompile : (ev.compile f).runIn ctx with ⟨e | p, ctx₁⟩
  · rw [hcompile] at h
    cases h
  · rw [hcompile] at h
    obtain ⟨m, hmeans, hholds⟩ :=
      exists_means_of_compile hev storage.records hmemo hresolved hnames hcompile
    refine ⟨m, hmeans, ?_⟩
    dsimp only at h
    split at h
    next hnever =>
      cases h
      refine ⟨List.Pairwise.nil, fun id => ⟨fun hid => absurd hid List.not_mem_nil, ?_⟩⟩
      rintro ⟨r, -, -, -, hm⟩
      rw [← hholds, Predicate.isNever_iff.1 hnever, Predicate.holds_never] at hm
      cases hm
    next =>
      unfold Storage.fetch at h
      cases hfailure : storage.failure with
      | some message =>
        rw [hfailure] at h
        cases h
      | none =>
        rw [hfailure] at h
        cases h
        refine ⟨?_, fun id => ?_⟩
        · exact List.pairwise_map.2 (storage.records.sorted.filter _)
        · unfold RecordSet.select
          simp only [List.mem_map, List.mem_filter, Bool.and_eq_true, decide_eq_true_eq, hholds]
          constructor
          · rintro ⟨r, ⟨hr, htype, hm⟩, rfl⟩
            exact ⟨r, hr, rfl, htype, hm⟩
          · rintro ⟨r, hr, rfl, htype, hm⟩
            exact ⟨r, ⟨hr, htype, hm⟩, rfl⟩

/-- Those with a property. -/
def vips : Filter where
  id := "vips"
  name := "VIPs"
  entityType := "person"
  conditions := [.onProperty "vip" true]
  conditions_ne_nil := Condition.onProperty_ne_nil _ _

/-- Those who manage no one with the property. -/
def withoutVips : Filter where
  id := "without"
  name := "Without VIPs"
  entityType := "person"
  conditions := [.onRelationSubFilter "manages" false "vips"]
  conditions_ne_nil := by simp

/-- One stored filter. -/
def office : Evaluator where
  catalogs := .standard
  schema := {
    entityTypes := .ofList [⟨"person", ∅⟩], relationTypes := .ofList [{ id := "manages" }]
    propertyTypes := .ofList [{ id := "vip" }] }
  filters := .ofList [vips]
  maxDepth := 1

/-- Two who manage someone; only one of those managed has the property. -/
def staff : Storage where
  records := .ofList [
    { id := "ann", entityType := "person", relations := [("manages", "bob")] },
    { id := "bob", entityType := "person", properties := .ofList ["vip"] },
    { id := "cat", entityType := "person", relations := [("manages", "ann")] }]

/-- A fresh context. -/
def newYear : Context where
  today := ⟨2024, 1, 1, by decide, by decide, by decide⟩

theorem apply_means_office :
    office.catalogs.registries.UnambiguousAmong (office.typesMet withoutVips) none newYear.today ∧
      ∃ m, (office.setting staff.records none newYear.today).Means withoutVips m ∧
        ["bob", "cat"].Pairwise (· < ·) ∧ ∀ id, id ∈ ["bob", "cat"] ↔
          ∃ r ∈ staff.records, r.id = id ∧ r.entityType = "person" ∧ m r = true := by
  have hnames : office.catalogs.registries.UnambiguousAmong (office.typesMet withoutVips) none
      newYear.today :=
    (RegistryCatalog.unambiguous_standard _ _).among _
  have h : office.apply withoutVips newYear staff = (.ok ["bob", "cat"], _, _) := rfl
  exact ⟨hnames, apply_means ⟨rfl, rfl⟩ rfl rfl hnames h⟩

/-- An operand under the name of the current user that stands for someone else. -/
def headOfOffice : Operand where
  typeId := Operand.currentUserId
  name := "Head of the office"
  accepts := Field.refersToUsers
  resolve _ _ := [.text "eve"]

/-- The current user as a boss, with what else is asked of a person. -/
def underBoss (id : FilterId) (others : List Condition) : Filter where
  id := id
  name := "Team"
  entityType := "person"
  conditions := ⟨.field, "boss", .comparison 1 [.text Operand.currentUserId], rfl⟩ :: others
  conditions_ne_nil := List.cons_ne_nil _ _

def leafTeam : Filter := underBoss "leaf" []

/-- The same condition in a filter of another type, where the name stands for the head. -/
def headsTeam : Filter := { underBoss "heads" [] with filterType := ⟨"reports"⟩ }

/-- Those whose boss is both. -/
def sharedTeam : Filter := underBoss "shared" [.onSubFilter "heads"]

/-- Two filter types with different operands of one name. -/
def branches : Evaluator where
  catalogs := {
    operands := .ofList [headOfOffice]
    registries := .ofList [.regular, .credentials,
      { filterType := ⟨"reports"⟩, kinds := .ofList [.field], operands := .ofList [headOfOffice] }] }
  schema := {
    entityTypes := .ofList [⟨"person", .ofList [
      { name := "boss", kind := .reference, relatedType := some userEntityType }]⟩] }
  filters := .ofList [headsTeam, leafTeam, sharedTeam]
  maxDepth := 1

/-- One person, whose boss is not the head of the office. -/
def crew : Storage where
  records := .ofList [
    { id := "bob", entityType := "person", fields := .ofList [("boss", .text "ann")] }]

/-- A fresh context of a user. -/
def annsContext : Context := { user := some { id := "ann" }, today := newYear.today }

/-- **Operands of one name are taken for each other**: the one that is resolved first gives its values
to the others, and what is found is not what satisfies the filter. -/
theorem apply_sharedTeam_ne :
    branches.catalogs.HasStandard ∧
      (branches.apply sharedTeam annsContext crew).1 = .ok ["bob"] ∧
      ¬ ∃ m, (branches.setting crew.records annsContext.user annsContext.today).Means sharedTeam m ∧
        ["bob"].Pairwise (· < ·) ∧ ∀ id, id ∈ ["bob"] ↔
          ∃ r ∈ crew.records, r.id = id ∧ r.entityType = "person" ∧ m r = true := by
  refine ⟨⟨rfl, rfl⟩, rfl, ?_⟩
  rintro ⟨m, hm, -, hids⟩
  let s := branches.setting crew.records annsContext.user annsContext.today
  let heads : Filter → Record → Bool := fun g => s.satisfies (fun _ _ => false) g
  have hheads : s.Means headsTeam (heads headsTeam) := .of _ fun g hg => absurd hg List.not_mem_nil
  have hshared : s.Means sharedTeam (s.satisfies heads sharedTeam) := by
    refine .of heads fun g hg => ?_
    obtain rfl : g = headsTeam := List.mem_singleton.1 hg
    exact hheads
  obtain ⟨r, hr, -, -, htrue⟩ := (hids "bob").1 List.mem_cons_self
  obtain rfl := List.mem_singleton.1 hr
  rw [hm.unique hshared] at htrue
  cases htrue

end Evaluator

end RecordFilters
