import RecordFilters.Proofs.Engine.InstalledOwnership
import RecordFilters.Proofs.Evaluation.Agreement
import RecordFilters.Proofs.Handler.HeldForm

/-! # System filters and filters of users

The conditions of a new system filter are gone through as if a user had asked for them, but what is
stored is the filter as it was given. A user who asks for the same conditions gets them in held form.
So the two filters are the same, and select the same records, where the system filter is in held form
to begin with.

* `Evaluator.apply_eq_of_conditions_eq`: filters that differ in nothing but id, name and owner.
* `Engine.built_of_installed`: what a user gets who asks for the conditions of a system filter.
* `Engine.apply_installed_ne`: a system filter that is not may select other records. -/

namespace RecordFilters

/-! ### Filters with the same conditions -/

namespace Evaluator

variable {ev : Evaluator} {f g : Filter} {ctx : Context}

/-- A filter is compiled from its types, its conditions and their connection. -/
theorem usableParts_eq (hentity : f.entityType = g.entityType) (htype : f.filterType = g.filterType)
    (nested : Filter → Evaluation Predicate) (l : List Condition) :
    ev.usableParts f nested l = ev.usableParts g nested l := by
  have hscope : ev.scope f nested = ev.scope g nested := by
    unfold scope
    rw [hentity, htype]
  induction l with
  | nil => rfl
  | cons c l ih =>
    unfold usableParts conditionPredicate
    rw [hscope, ih]

/-- **Filters that differ in nothing but id, name and owner select the same records**, where neither
has been compiled before. -/
theorem apply_eq_of_conditions_eq (hentity : f.entityType = g.entityType)
    (htype : f.filterType = g.filterType) (huseOr : f.useOr = g.useOr)
    (hconditions : f.conditions = g.conditions) (hf : ctx.memo.get? f.id = none)
    (hg : ctx.memo.get? g.id = none) (storage : Storage) :
    (ev.apply f ctx storage).1 = (ev.apply g ctx storage).1 := by
  unfold apply compile
  rw [runIn_compileWithin_new hf, runIn_compileWithin_new hg, usableParts_eq hentity htype,
    hconditions, huseOr]
  rcases (ev.usableParts g (ev.compileWithin ev.maxDepth) g.conditions).runIn ctx with
    ⟨error | parts, ctx'⟩
  · rfl
  · dsimp only
    rw [hentity]
    split <;> rfl

end Evaluator

/-! ### Kinds that are left to this library -/

/-- Only the conditions of this library describe themselves. -/
theorem Condition.kind_mem_builtin {c : Condition} {d : Descriptor} (h : c.descriptor? = some d) :
    ∃ handler ∈ Handler.builtin, handler.kind = c.kind := by
  have hshape := c.payload_of_kind
  cases hkind : c.kind with
  | other =>
    rw [hkind] at hshape
    obtain ⟨document, hpayload⟩ := hshape
    unfold descriptor? at h
    rw [hpayload] at h
    cases h
  | _ => simp [Handler.builtin]

/-- A kind of conditions for which a plan brings no handler. -/
def EnginePlan.Leaves (plan : EnginePlan) (kind : ConditionKind) : Prop :=
  ∀ handler ∈ plan.handlers, handler.kind ≠ kind

namespace Engine

variable {plan : EnginePlan} {disk : Disk} {today : Day} {r r' : Repository} {e : Engine}
  {u : ActingUser} {f f' : Filter} {c c' : Condition} {d : Descriptor}

/-- Whether a condition of a filter is in held form. -/
def IsHeld (e : Engine) (f : Filter) (c : Condition) : Prop :=
  e.catalogs.heldPayload? e.schema f.filterType f.entityType c = some c.payload

/-! ### New system filters -/

/-- The conditions of a new system filter are accepted where they describe themselves. -/
theorem Made.exists_build (h : Made plan disk r e) (hf : f ∈ e.filters)
    (hfresh : r.contains f.id = false) (hc : c ∈ f.conditions) (hd : c.descriptor? = some d) :
    ∃ c', e.catalogs.build e.schema e.filters f.filterType f.entityType d = .ok c' := by
  rcases h.passed f hf with hold | hpassed
  · have hcontains : r.contains f.id = true := Index.contains_iff.2 ⟨f, hold, rfl⟩
    rw [hfresh] at hcontains
    cases hcontains
  · have hchecked := hpassed.conditions c hc
    unfold Installation.checkCondition at hchecked
    rw [hd] at hchecked
    obtain ⟨c', hbuild, -⟩ := map_eq_ok_iff.1 hchecked
    exact ⟨c', hbuild⟩

/-- What is accepted has the payload of the condition, in held form. -/
theorem Made.heldPayload? (h : Made plan disk r e) (hd : c.descriptor? = some d)
    (hleaves : plan.Leaves c.kind)
    (hbuild : e.catalogs.build e.schema e.filters f.filterType f.entityType d = .ok c') :
    e.catalogs.heldPayload? e.schema f.filterType f.entityType c = some c'.payload := by
  obtain ⟨handler, hbuiltin, hkind⟩ := Condition.kind_mem_builtin hd
  have hplan : ∀ extension ∈ plan.handlers, extension.kind ≠ handler.kind := by
    rw [hkind]
    exact hleaves
  have hhandler := EnginePlan.get?_handlers h.catalogs hbuiltin hplan
  rw [hkind] at hhandler
  exact Catalogs.heldPayload?_of_build hbuiltin hhandler hd hbuild

/-- A condition in held form is accepted as it is. -/
theorem Made.build_eq (h : Made plan disk r e) (hf : f ∈ e.filters)
    (hfresh : r.contains f.id = false) (hc : c ∈ f.conditions) (hd : c.descriptor? = some d)
    (hleaves : plan.Leaves c.kind) (hheld : e.IsHeld f c) :
    e.catalogs.build e.schema e.filters f.filterType f.entityType d = .ok c := by
  obtain ⟨c', hbuild⟩ := h.exists_build hf hfresh hc hd
  have hpayload := h.heldPayload? hd hleaves hbuild
  have hbuilt := built_of_build hbuild
  obtain ⟨hkind, hreference⟩ := Condition.eq_of_descriptor? hd
  rw [hheld] at hpayload
  have hsame : c' = c := Condition.eq_of_payload_eq (hbuilt.kind.trans hkind)
    (hbuilt.reference.trans hreference) (Option.some.inj hpayload).symm
  rw [hbuild, hsame]

/-- All conditions in held form are accepted together as they are. -/
theorem Made.buildAll_eq (h : Made plan disk r e) (hf : f ∈ e.filters)
    (hfresh : r.contains f.id = false) {l : List Condition} {ds : List Descriptor}
    (hl : ∀ c ∈ l, c ∈ f.conditions ∧ plan.Leaves c.kind ∧ e.IsHeld f c)
    (hds : l.mapM Condition.descriptor? = some ds) :
    e.catalogs.buildAll e.schema e.filters f.filterType f.entityType ds = .ok l := by
  unfold Catalogs.buildAll
  induction l generalizing ds with
  | nil =>
    cases hds
    rfl
  | cons c l ih =>
    rw [List.mapM_cons] at hds
    obtain ⟨d, hd, hds⟩ := Option.bind_eq_some_iff.1 hds
    obtain ⟨rest, hrest, hds⟩ := Option.bind_eq_some_iff.1 hds
    cases hds
    obtain ⟨hc, hleaves, hheld⟩ := hl c List.mem_cons_self
    rw [List.mapM_cons, h.build_eq hf hfresh hc hd hleaves hheld,
      ih (fun c hc => hl c (List.mem_cons_of_mem _ hc)) hrest]
    rfl

/-- A filter that a user makes has passed as a new one. -/
theorem created_of_create {request : FilterRequest} (h : (e.create u request).1 = .ok f) :
    ∃ id, Created e u id request f := by
  have houtcome := create_outcome e u request
  rw [h] at houtcome
  generalize (e.create u request).2.filters = filters at houtcome
  cases houtcome with
  | empty asked | updated asked | deleted asked => cases asked
  | created asked fresh prepared =>
    cases asked
    exact ⟨_, created_of_prepareCreate prepared⟩

/-- **What a user gets who asks for the conditions of a system filter.** Each condition of a new
system filter that describes itself is accepted from a user, as a condition of the same kind on the
same reference; and where the kind is left to this library, with the payload that the system filter
has, in held form. It is the same condition just if that of the system filter is in held form. If
all are, a user who makes a filter of these descriptions and of the same types gets the same
conditions, and this filter selects what the system filter selects. -/
theorem built_of_installed (h : build plan disk today r = (.ok e, r')) (hf : f ∈ e.filters)
    (hfresh : r.contains f.id = false) :
    (∀ c ∈ f.conditions, ∀ d, c.descriptor? = some d →
      ∃ c', e.catalogs.build e.schema e.filters f.filterType f.entityType d = .ok c' ∧
        c'.kind = c.kind ∧ c'.reference = c.reference ∧
        (plan.Leaves c.kind →
          e.catalogs.heldPayload? e.schema f.filterType f.entityType c = some c'.payload ∧
            e.IsHeld f c' ∧ (c' = c ↔ e.IsHeld f c))) ∧
    ((∀ c ∈ f.conditions, plan.Leaves c.kind ∧ e.IsHeld f c) →
      ∀ u request f', f.conditions.mapM Condition.descriptor? = some request.conditions →
        request.entityType = f.entityType → request.filterType = f.filterType →
        request.useOr = f.useOr → (e.create u request).1 = .ok f' →
          f'.conditions = f.conditions ∧
            ∀ (ev : Evaluator) (ctx : Context) (storage : Storage), ctx.memo.get? f.id = none →
              ctx.memo.get? f'.id = none →
                (ev.apply f' ctx storage).1 = (ev.apply f ctx storage).1) := by
  have hmade := made_of_build h
  refine ⟨fun c hc d hd => ?_, fun hheld u request f' hds hentity htype huseOr hcreate => ?_⟩
  · obtain ⟨c', hbuild⟩ := hmade.exists_build hf hfresh hc hd
    have hbuilt := built_of_build hbuild
    obtain ⟨hkind, hreference⟩ := Condition.eq_of_descriptor? hd
    have hkind := hbuilt.kind.trans hkind
    have hreference := hbuilt.reference.trans hreference
    refine ⟨c', hbuild, hkind, hreference, fun hleaves => ?_⟩
    have hpayload := hmade.heldPayload? hd hleaves hbuild
    refine ⟨hpayload, Catalogs.heldPayload?_eq_self hkind hreference hpayload, ?_, fun hheld => ?_⟩
    · rintro rfl
      exact hpayload
    · rw [hmade.build_eq hf hfresh hc hd hleaves hheld] at hbuild
      exact (Except.ok.inj hbuild).symm
  · obtain ⟨id, hcreated⟩ := created_of_create hcreate
    have hentity := hcreated.entityType.trans hentity
    have htype := hcreated.filterType.trans htype
    have hconditions : f'.conditions = f.conditions := by
      have hbuilt := hcreated.built
      rw [hentity, htype,
        hmade.buildAll_eq hf hfresh (fun c hc => ⟨hc, hheld c hc⟩) hds] at hbuilt
      exact (Except.ok.inj hbuilt).symm
    refine ⟨hconditions, fun ev ctx storage hmemo hmemo' => ?_⟩
    exact Evaluator.apply_eq_of_conditions_eq hentity htype (hcreated.useOr.trans huseOr)
      hconditions hmemo' hmemo storage

/-! ### A flag as a digit -/

/-- A test of whether a person is active. -/
def activeIs (v : Value) : Condition := ⟨.field, "active", .comparison 1 [v], rfl⟩

/-- That test as a system filter. -/
def actives (v : Value) : Filter := (onPersons "actives" .everyone (activeIs v)).asSystem

/-- An engine with the system filter, over one record that is active. -/
def activeDesk (v : Value) : Engine where
  config := {}
  schema := {
    entityTypes := .ofList [⟨"person", .ofList [{ name := "active", kind := .boolean }]⟩] }
  directory := {}
  storage := { records := .ofList [
    { id := "cat", entityType := "person", fields := .ofList [("active", .bool true)] }] }
  repository := { filters := .ofList [actives v] }

/-- What the engine is made of. -/
def activePlan (v : Value) : EnginePlan where
  schema := some (activeDesk v).schema
  directory := some (activeDesk v).directory
  storage := some (activeDesk v).storage
  systemFilters := [actives v]

/-- The request of a user for the same test. -/
def askActive (v : Value) : FilterRequest where
  id := some "mine"
  name := "Mine"
  entityType := "person"
  conditions := [.field "active" 1 [v]]

/-- A filter of that user. -/
def myActives (v : Value) : Filter where
  id := "mine"
  name := "Mine"
  entityType := "person"
  conditions := [activeIs v]
  conditions_ne_nil := by simp

/-- A flag that is written as one is in held form, and the filter of the user is the same. -/
theorem built_of_installed_flag :
    let e := activeDesk (.bool true)
    build (activePlan (.bool true)) {} ⟨2024, 1, 1, by decide, by decide, by decide⟩ {} =
        (.ok e, e.repository) ∧
      e.catalogs.build e.schema e.filters .regular "person" (.field "active" 1 [.bool true]) =
        .ok (activeIs (.bool true)) ∧
      (e.create { id := "ann" } (askActive (.bool true))).1 = .ok (myActives (.bool true)) ∧
      ∀ storage, (e.evaluator.apply (myActives (.bool true)) Evaluator.newYear storage).1 =
        (e.evaluator.apply (actives (.bool true)) Evaluator.newYear storage).1 := by
  intro e
  have hbuild : build (activePlan (.bool true)) {} ⟨2024, 1, 1, by decide, by decide, by decide⟩
      {} = (.ok e, e.repository) := by cbv
  have hcreate : (e.create { id := "ann" } (askActive (.bool true))).1 =
      .ok (myActives (.bool true)) := by cbv
  have hmem : actives (.bool true) ∈ e.filters := List.mem_singleton_self _
  have hleaves : (activePlan (.bool true)).Leaves .field := by
    intro handler hmem
    cases hmem
  obtain ⟨hconditions, hsame⟩ := built_of_installed hbuild hmem rfl
  obtain ⟨c', haccepted, -, -, hlibrary⟩ :=
    hconditions (activeIs (.bool true)) (List.mem_singleton_self _) _ rfl
  have hc' : c' = activeIs (.bool true) := (hlibrary hleaves).2.2.2 rfl
  rw [hc'] at haccepted
  have hall : ∀ c ∈ (actives (.bool true)).conditions,
      (activePlan (.bool true)).Leaves c.kind ∧ e.IsHeld (actives (.bool true)) c := by
    intro c hc
    obtain rfl := List.mem_singleton.1 hc
    exact ⟨hleaves, rfl⟩
  obtain ⟨-, hselect⟩ := hsame hall _ _ _ rfl rfl rfl rfl hcreate
  exact ⟨hbuild, haccepted, hcreate, fun storage => hselect _ _ storage rfl rfl⟩

theorem build_digit : build (activePlan (.text "1")) {}
    ⟨2024, 1, 1, by decide, by decide, by decide⟩ {} =
      (.ok (activeDesk (.text "1")), (activeDesk (.text "1")).repository) := by
  cbv

theorem create_digit : ((activeDesk (.text "1")).create { id := "ann" }
    (askActive (.text "1"))).1 = .ok (myActives (.bool true)) := by
  cbv

/-- **A system filter with a flag as a digit selects other records** than the filter that a user
gets for the same digit. The user gets the flag, and the record has the flag. -/
theorem apply_installed_ne :
    let e := activeDesk (.text "1")
    build (activePlan (.text "1")) {} ⟨2024, 1, 1, by decide, by decide, by decide⟩ {} =
        (.ok e, e.repository) ∧
      (activeIs (.text "1")).descriptor? = some (.field "active" 1 [.text "1"]) ∧
      e.catalogs.build e.schema e.filters .regular "person" (.field "active" 1 [.text "1"]) =
        .ok (activeIs (.bool true)) ∧
      activeIs (.bool true) ≠ activeIs (.text "1") ∧
      (e.create { id := "ann" } (askActive (.text "1"))).1 = .ok (myActives (.bool true)) ∧
      (e.evaluator.apply (actives (.text "1")) Evaluator.newYear e.storage).1 = .ok [] ∧
      (e.evaluator.apply (myActives (.bool true)) Evaluator.newYear e.storage).1 =
        .ok ["cat"] := by
  refine ⟨build_digit, rfl, rfl, fun heq => ?_, create_digit, rfl, rfl⟩
  cases congrArg Condition.payload heq

end Engine

end RecordFilters
