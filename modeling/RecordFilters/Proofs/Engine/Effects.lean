import RecordFilters.Proofs.Engine.Candidate

/-! # What a request leaves behind

A rejected request leaves the stored filters as they were, whichever of its checks has failed and
whatever it had changed of its candidate by then. An accepted one changes what is stored under one
id, and there it stores the filter that it answers.

* `Revises`: how an updated filter stands to the one before, part by part.
* `HasEffect`: what an accepted request has done to the stored filters.
* `answer_effect`: every request is without a trace or has its effect. -/

namespace RecordFilters

namespace Engine

variable {e : Engine} {u : ActingUser} {r : ChangeRequest} {id : FilterId} {previous f : Filter}
  {update : FilterUpdate} {s : FilterSet}

/-- How a filter stands to the one whose place it takes: the parts that an update names are as it
asks, and all others are as they were. -/
structure Revises (e : Engine) (previous : Filter) (update : FilterUpdate) (f : Filter) :
    Prop where
  id : f.id = previous.id
  entityType : f.entityType = previous.entityType
  filterType : f.filterType = previous.filterType
  isCustom : f.isCustom = previous.isCustom
  name : f.name = update.name.getD previous.name
  ownership : f.ownership = update.ownership.getD previous.ownership
  kept : update.conditions = none →
    f.conditions = previous.conditions ∧ f.useOr = previous.useOr
  replaced : ∀ ds useOr, update.conditions = some (ds, useOr) →
    e.catalogs.buildAll e.schema e.filters previous.filterType previous.entityType ds =
      .ok f.conditions ∧ f.useOr = useOr

theorem Updated.revises (h : Updated e u previous update f) : e.Revises previous update f := by
  refine ⟨h.id, h.entityType, h.filterType, h.isCustom, h.name, h.ownership, h.kept, ?_⟩
  intro ds useOr hds
  have hbuilt := h.built ds useOr hds
  rw [h.filterType, h.entityType] at hbuilt
  exact hbuilt

/-- An update of no part asks for the filter as it is. -/
theorem revises_of_isEmpty (h : update.isEmpty = true) : e.Revises previous update previous := by
  obtain ⟨name, ownership, conditions⟩ := update
  simp only [FilterUpdate.isEmpty, Bool.and_eq_true, Option.isNone_iff_eq_none] at h
  obtain ⟨⟨rfl, rfl⟩, rfl⟩ := h
  refine ⟨rfl, rfl, rfl, rfl, rfl, rfl, fun _ => ⟨rfl, rfl⟩, ?_⟩
  intro ds useOr hds
  cases hds

/-- What a request that is answered with a filter has done: nothing is changed but what is stored
under the id of that filter. A filter has been added, has been taken out, or has been put in the
place of the one that the request names. -/
def HasEffect (e : Engine) (r : ChangeRequest) (f : Filter) (s : FilterSet) : Prop :=
  (∀ id, id ≠ f.id → s.get? id = e.filters.get? id) ∧
    match r with
    | .create request => (∀ id, request.id = some id → f.id = id) ∧
        e.filters.get? f.id = none ∧ s.get? f.id = some f
    | .delete id => f.id = id ∧ e.filters.get? id = some f ∧ s.get? id = none
    | r => ∃ id update previous, r.update? = some (id, update) ∧
        e.filters.get? id = some previous ∧ s.get? id = some f ∧ e.Revises previous update f

/-- A request that amounts to an update has the effect of one. -/
theorem hasEffect_of_update (asked : r.update? = some (id, update))
    (frame : ∀ id', id' ≠ f.id → s.get? id' = e.filters.get? id')
    (stored : e.filters.get? id = some previous) (saved : s.get? id = some f)
    (revises : e.Revises previous update f) : e.HasEffect r f s := by
  refine ⟨frame, ?_⟩
  cases r with
  | create | delete => cases asked
  | _ => exact ⟨id, update, previous, asked, stored, saved, revises⟩

/-- A filter that is put in place is found under its id, and what is found elsewhere stays. -/
theorem get?_insert_cases (s : FilterSet) (f : Filter) :
    (s.insert f).get? f.id = some f ∧ ∀ id, id ≠ f.id → (s.insert f).get? id = s.get? id := by
  refine ⟨?_, fun id hid => ?_⟩
  · rw [Index.get?_insert, if_pos rfl]
  · rw [Index.get?_insert, if_neg hid]

/-- A change that is answered has been kept by the repository. -/
theorem eq_of_afterChange {α : Type} {answer : α → Filter}
    {change : Except RepositoryError α × Repository}
    (h : (e.afterChange answer change).1 = .ok f) : ∃ a, answer a = f := by
  obtain ⟨_ | a, repository⟩ := change
  · cases h
  · cases h
    exact ⟨a, rfl⟩

/-- A new filter has the id that its request asks for. -/
theorem id_of_create {request : FilterRequest} (h : (e.create u request).1 = .ok f)
    (hid : request.id = some id) : f.id = id := by
  unfold create chooseId at h
  rw [hid] at h
  dsimp only at h
  split at h
  next => cases h
  next =>
    split at h
    next => cases h
    next candidate prepared =>
      obtain ⟨⟨⟩, rfl⟩ := eq_of_afterChange h
      exact (created_of_prepareCreate prepared).id

/-- **Every request leaves no trace or has its effect.** One that is rejected leaves the stored
filters exactly as they were. One that is answered with a filter changes nothing but what is stored
under the id of that filter: a new filter comes in under an id that was free, a deleted one goes, and
an updated one takes the place of the one before, with the parts that the update names and all others
kept. No filter is ever without conditions. -/
theorem answer_effect (e : Engine) (u : ActingUser) (r : ChangeRequest) :
    match (e.answer u r).1 with
    | .error _ => (e.answer u r).2.filters = e.filters
    | .ok f => e.HasEffect r f (e.answer u r).2.filters ∧ f.conditions ≠ [] := by
  have named : ∀ request id f, r = .create request → request.id = some id →
      (e.answer u r).1 = .ok f → f.id = id := by
    rintro request id f rfl hid h
    exact id_of_create h hid
  have h := answer_outcome e u r
  generalize (e.answer u r).2.filters = filters at h ⊢
  generalize (e.answer u r).1 = answer at h named ⊢
  cases h with
  | rejected => rfl
  | @empty id update previous asked isEmpty stored =>
    exact ⟨hasEffect_of_update asked (fun _ _ => rfl) stored stored (revises_of_isEmpty isEmpty),
      previous.conditions_ne_nil⟩
  | @created id request f asked fresh prepared =>
    subst asked
    have hf := created_of_prepareCreate prepared
    obtain ⟨here, elsewhere⟩ := get?_insert_cases e.filters f
    refine ⟨⟨elsewhere, fun id hid => named request id f rfl hid rfl, ?_, here⟩,
      f.conditions_ne_nil⟩
    rw [hf.id]
    exact Option.isNone_iff_eq_none.1 (Option.isSome_eq_false_iff.1 fresh)
  | @updated id update previous f asked isEmpty stored prepared =>
    have hf := updated_of_prepareUpdate prepared
    obtain ⟨here, elsewhere⟩ := get?_insert_cases e.filters f
    have hid : f.id = id := hf.id.trans (Index.key_of_get? stored)
    rw [hid] at here
    exact ⟨hasEffect_of_update asked elsewhere stored here hf.revises, f.conditions_ne_nil⟩
  | @deleted id f asked stored deletable =>
    subst asked
    have hid : f.id = id := Index.key_of_get? stored
    refine ⟨⟨fun id' hne => ?_, hid, stored, ?_⟩, f.conditions_ne_nil⟩
    · rw [hid] at hne
      rw [Index.get?_erase, if_neg hne]
    · rw [Index.get?_erase, if_pos rfl]

/-- A stored filter under a schema with one property. -/
def pinboard : Engine where
  config := {}
  schema := {
    entityTypes := .ofList [⟨"person", ∅⟩], propertyTypes := .ofList [{ id := "vip" }] }
  directory := { users := .ofList ["ann"] }
  storage := {}
  repository.filters := .ofList [
    { id := "list", name := "List", entityType := "person"
      conditions := [.onProperty "vip" true]
      conditions_ne_nil := Condition.onProperty_ne_nil _ _ }]

/-- The name, the owner and the conditions of a filter. -/
def parts (f : Filter) : String × Ownership × Bool × List String :=
  (f.name, f.ownership, f.useOr, f.conditions.map Condition.reference)

/-- A new name and new conditions go with an owner who does not exist: nothing of it stays. -/
example : ((pinboard.answer { id := "ann" } (.update "list" {
      name := some "Mine", ownership := some (.user "bob")
      conditions := some ([.property "vip" false, .property "vip" true], true) })).2.filters.get?
        "list").map parts = some ("List", .everyone, false, ["vip"]) := by cbv

/-- With an owner who does, all of it is stored at once. -/
example : ((pinboard.answer { id := "ann" } (.update "list" {
      name := some "Mine", ownership := some (.user "ann")
      conditions := some ([.property "vip" false, .property "vip" true], true) })).2.filters.get?
        "list").map parts = some ("Mine", .user "ann", true, ["vip", "vip"]) := by cbv

end Engine

end RecordFilters
