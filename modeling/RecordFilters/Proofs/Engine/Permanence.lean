import RecordFilters.Proofs.Engine.Ownership

/-! # System filters are permanent

Users live with the system filters that an engine has. They may change the conditions of a public
one and nothing else about it, with elevated rights or without, and they make no system filter. Each
of four checks forbids one part of this: deletion and renaming are denied to everybody, a system
filter may not become private, and a candidate is custom just as the filter before it is.

* `Filter.Lasts`: what stays of a system filter.
* `Undergoes`: the engines that come of one by requests.
* `lasts_of_undergoes`: every public system filter lasts, and no other filter becomes one. -/

namespace RecordFilters

/-- What lasts of a system filter: its id, name and types, that it is one, and that it is public. -/
structure Filter.Lasts (s s' : Filter) : Prop where
  id : s'.id = s.id
  name : s'.name = s.name
  entityType : s'.entityType = s.entityType
  filterType : s'.filterType = s.filterType
  system : s'.isCustom = false
  isPublic : s'.isPrivate = false

namespace Filter.Lasts

variable {s s' s'' : Filter}

theorem refl (hsystem : s.isCustom = false) (hpublic : s.isPrivate = false) : s.Lasts s :=
  ⟨rfl, rfl, rfl, rfl, hsystem, hpublic⟩

theorem trans (h : s.Lasts s') (h' : s'.Lasts s'') : s.Lasts s'' :=
  ⟨h'.id.trans h.id, h'.name.trans h.name, h'.entityType.trans h.entityType,
    h'.filterType.trans h.filterType, h'.system, h'.isPublic⟩

end Filter.Lasts

namespace Engine

variable {e : Engine} {u : ActingUser} {r : ChangeRequest} {s f previous : Filter}
  {update : FilterUpdate}

/-! ### The four checks -/

/-- Nobody deletes a system filter. -/
theorem isCustom_of_ensureDeletable (h : e.ensureDeletable u f = .ok ()) : f.isCustom = true := by
  obtain ⟨⟨⟩, hdelete, -⟩ := bind_eq_ok_iff.1 h
  have hgranted := isGranted_of_ensure hdelete
  by_contra hsystem
  simp [Filter.canDelete, hsystem, Access.isGranted] at hgranted

/-- Nobody renames a system filter. -/
theorem Updated.name_eq (h : Updated e u previous update f) (hsystem : previous.isCustom = false) :
    f.name = previous.name := by
  by_contra hname
  have hgranted := h.renamable hname
  simp [Filter.canRename, hsystem, Access.isGranted] at hgranted

/-- A system filter is public once it has been updated. -/
theorem Updated.isPrivate_eq_false (h : Updated e u previous update f)
    (hsystem : previous.isCustom = false) : f.isPrivate = false := by
  obtain ⟨-, hvalid⟩ := checkGraph_eq_ok_iff.1 h.checked
  have hcustom := (Authorization.validated_of_validate hvalid).custom
  rw [h.isCustom, hsystem] at hcustom
  exact Bool.eq_false_iff.2 fun hprivate => absurd (hcustom hprivate) (by simp)

theorem Updated.lasts (h : Updated e u previous update f) (hsystem : previous.isCustom = false) :
    previous.Lasts f where
  id := h.id
  name := h.name_eq hsystem
  entityType := h.entityType
  filterType := h.filterType
  system := h.isCustom.trans hsystem
  isPublic := h.isPrivate_eq_false hsystem

/-! ### One request -/

/-- **A public system filter outlasts every request.** -/
theorem exists_lasts_of_answer (u : ActingUser) (r : ChangeRequest) (hs : s ∈ e.filters)
    (hsystem : s.isCustom = false) (hpublic : s.isPrivate = false) :
    ∃ s' ∈ (e.answer u r).2.filters, s.Lasts s' := by
  have hsame : s.Lasts s := .refl hsystem hpublic
  have h := answer_outcome e u r
  generalize (e.answer u r).2.filters = filters at h ⊢
  generalize (e.answer u r).1 = answer at h
  cases h with
  | rejected | empty => exact ⟨s, hs, hsame⟩
  | @created id _ f _ fresh prepared =>
    have hid : s.id ≠ f.id := by
      rintro hid
      have hcontains : e.filters.contains id = true :=
        Index.contains_iff.2 ⟨s, hs, hid.trans (created_of_prepareCreate prepared).id⟩
      rw [fresh] at hcontains
      cases hcontains
    exact ⟨s, Index.mem_insert.2 (.inr ⟨hs, hid⟩), hsame⟩
  | @updated id _ previous f _ _ stored prepared =>
    have hf := updated_of_prepareUpdate prepared
    by_cases hid : s.id = f.id
    · have hprevious : s = previous :=
        Index.eq_of_key_eq hs (Index.mem_of_get? stored) (hid.trans hf.id)
      rw [hprevious] at hsystem ⊢
      exact ⟨f, Index.mem_insert.2 (.inl rfl), hf.lasts hsystem⟩
    · exact ⟨s, Index.mem_insert.2 (.inr ⟨hs, hid⟩), hsame⟩
  | @deleted id f _ stored deletable =>
    have hid : s.id ≠ id := by
      rintro rfl
      have hsf : s = f :=
        Index.eq_of_key_eq hs (Index.mem_of_get? stored) (Index.key_of_get? stored).symm
      have hcustom := isCustom_of_ensureDeletable deletable
      rw [← hsf, hsystem] at hcustom
      cases hcustom
    exact ⟨s, Index.mem_erase.2 ⟨hs, hid⟩, hsame⟩

/-- **No request makes a system filter**, neither out of nothing nor out of a custom filter. -/
theorem exists_system_of_answer (hf : f ∈ (e.answer u r).2.filters) (hsystem : f.isCustom = false) :
    ∃ s ∈ e.filters, s.id = f.id ∧ s.isCustom = false := by
  have h := answer_outcome e u r
  generalize (e.answer u r).2.filters = filters at h hf
  generalize (e.answer u r).1 = answer at h
  cases h with
  | rejected | empty => exact ⟨f, hf, rfl, hsystem⟩
  | @created _ _ g _ _ prepared =>
    rcases Index.mem_insert.1 hf with rfl | ⟨hf, -⟩
    · rw [(created_of_prepareCreate prepared).isCustom] at hsystem
      cases hsystem
    · exact ⟨f, hf, rfl, hsystem⟩
  | @updated _ _ previous g _ _ stored prepared =>
    rcases Index.mem_insert.1 hf with rfl | ⟨hf, -⟩
    · have hupdated := updated_of_prepareUpdate prepared
      exact ⟨previous, Index.mem_of_get? stored, hupdated.id.symm,
        hupdated.isCustom.symm.trans hsystem⟩
    · exact ⟨f, hf, rfl, hsystem⟩
  | deleted => exact ⟨f, (Index.mem_erase.1 hf).1, rfl, hsystem⟩

/-! ### All requests -/

/-- An engine comes of another by requests of any users, be they for changes or for the records of a
filter, while whatever is not a stored filter may change around it. -/
inductive Undergoes (e : Engine) : Engine → Prop
  | same : Undergoes e e
  | request {e'} (before : Undergoes e e') (u : ActingUser) (r : ChangeRequest) :
      Undergoes e (e'.answer u r).2
  | applied {e'} (before : Undergoes e e') (ctx : Context) (id : FilterId) :
      Undergoes e (e'.apply ctx id).2.2
  | around {e' e''} (before : Undergoes e e') (same : e''.filters = e'.filters) : Undergoes e e''

/-- A run of requests is of that kind. -/
theorem undergoes_run (e : Engine) (rs : List (ActingUser × ChangeRequest)) :
    Undergoes e (e.run (requests rs)) :=
  run_requests_induction (fun _ u r h => .request h u r) .same rs

/-- Evaluating a filter stores nothing. -/
theorem filters_apply (e : Engine) (ctx : Context) (id : FilterId) :
    (e.apply ctx id).2.2.filters = e.filters := by
  unfold apply
  split <;> rfl

/-- **System filters are permanent.** Whatever users ask of an engine, and with whatever rights, a
public system filter stays stored under its id, with its name and its types, and stays a public
system filter. All system filters that there are then were system filters before. -/
theorem lasts_of_undergoes {e' : Engine} (h : Undergoes e e') :
    (∀ s ∈ e.filters, s.isCustom = false → s.isPrivate = false →
      ∃ s', e'.filters.get? s.id = some s' ∧ s.Lasts s') ∧
    ∀ f ∈ e'.filters, f.isCustom = false → ∃ s ∈ e.filters, s.id = f.id ∧ s.isCustom = false := by
  have hlasts : ∀ s ∈ e.filters, s.isCustom = false → s.isPrivate = false →
      ∃ s' ∈ e'.filters, s.Lasts s' := by
    intro s hs hsystem hpublic
    induction h with
    | same => exact ⟨s, hs, .refl hsystem hpublic⟩
    | request before u r ih =>
      obtain ⟨s', hs', hlasts⟩ := ih
      obtain ⟨s'', hs'', hlasts'⟩ := exists_lasts_of_answer u r hs' hlasts.system hlasts.isPublic
      exact ⟨s'', hs'', hlasts.trans hlasts'⟩
    | applied before ctx id ih =>
      rw [filters_apply]
      exact ih
    | around before same ih =>
      rw [same]
      exact ih
  constructor
  · intro s hs hsystem hpublic
    obtain ⟨s', hs', hlasts⟩ := hlasts s hs hsystem hpublic
    exact ⟨s', Index.get?_eq_some_iff.2 ⟨hs', hlasts.id⟩, hlasts⟩
  · clear hlasts
    induction h with
    | same => exact fun f hf hsystem => ⟨f, hf, rfl, hsystem⟩
    | request before u r ih =>
      intro f hf hsystem
      obtain ⟨g, hg, hid, hgsystem⟩ := exists_system_of_answer hf hsystem
      obtain ⟨s, hs, hsid, hssystem⟩ := ih g hg hgsystem
      exact ⟨s, hs, hsid.trans hid, hssystem⟩
    | applied before ctx id ih =>
      rw [filters_apply]
      exact ih
    | around before same ih =>
      rw [same]
      exact ih

/-- A system filter. -/
def vips : Filter where
  id := "vips"
  name := "VIPs"
  entityType := "person"
  isCustom := false
  conditions := [.onProperty "vip" true]
  conditions_ne_nil := Condition.onProperty_ne_nil _ _

/-- An engine with that filter. -/
def vipDesk : Engine where
  config := {}
  schema := {
    entityTypes := .ofList [⟨"person", ∅⟩], propertyTypes := .ofList [{ id := "vip" }] }
  directory := { users := .ofList ["ann"] }
  storage := {}
  repository.filters := .ofList [vips]

/-- What a user with elevated rights tries with the filter. Only the change of nothing but its
conditions is accepted. -/
def trials : List (ActingUser × ChangeRequest) :=
  let ann : ActingUser := { id := "ann", elevated := true }
  [(ann, .delete "vips"), (ann, .rename "vips" "Guests"), (ann, .changeOwnership "vips" (.user "ann")),
    (ann, .update "vips" { name := some "Guests", conditions := some ([.property "vip" false], true) }),
    (ann, .setConditions "vips" [.property "vip" false] true),
    (ann, .create { id := some "vips", name := "Guests", entityType := "person",
                    conditions := [.property "vip" true] })]

theorem lasts_of_undergoes_vips :
    (∃ f, (vipDesk.run (requests trials)).filters.get? "vips" = some f ∧ vips.Lasts f ∧
      f.conditions = [.onProperty "vip" false]) ∧
    ∀ f ∈ (vipDesk.run (requests trials)).filters, f.isCustom = false → f.id = "vips" := by
  have hvips : vips ∈ vipDesk.filters := Index.mem_of_get? (k := "vips") rfl
  obtain ⟨hlasts, hsystem⟩ := lasts_of_undergoes (undergoes_run vipDesk trials)
  constructor
  · obtain ⟨f, hf, hlast⟩ := hlasts vips hvips rfl rfl
    have hconditions : ((vipDesk.run (requests trials)).filters.get? "vips").map
        Filter.conditions = some [.onProperty "vip" false] := by cbv
    have hf' : (vipDesk.run (requests trials)).filters.get? "vips" = some f := hf
    rw [hf'] at hconditions
    exact ⟨f, hf, hlast, Option.some.inj hconditions⟩
  · intro f hf hcustom
    obtain ⟨s, hs, hid, -⟩ := hsystem f hf hcustom
    have hs : s ∈ [vips] := hs
    rw [← hid, List.mem_singleton.1 hs]
    rfl

end Engine

end RecordFilters
