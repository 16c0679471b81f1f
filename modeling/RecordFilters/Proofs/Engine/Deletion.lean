import RecordFilters.Proofs.Engine.InstalledOwnership
import RecordFilters.Proofs.Graph.Ancestry

/-! # Deleting a filter

Whether a filter may be deleted can be asked for before it is tried. The question and the deletion
look at the same things in the same order: whether the filter is stored, whether it lets the user
delete it, and what depends on it. In memory nothing else can fail, so what is answered is what
happens.

* `Engine.Deletion`: the ways in which a deletion can go, each with what is answered about it.
* `Engine.dependents_spec`: which filters depend on one, in which order, and what else does.
* `Engine.canDelete_tells`: the answer is granted just if the deletion succeeds, and a refusal has
  the same cause in both. -/

namespace RecordFilters

namespace Engine

variable {e : Engine} {u : ActingUser} {id : FilterId} {f : Filter}

/-- What is answered about the deletion of a filter, and how the deletion goes. -/
inductive Deletion (e : Engine) (u : ActingUser) (id : FilterId) :
    Except EngineError Access → Except EngineError Filter → Prop
  /-- There is no such filter. -/
  | missing (absent : e.filters.get? id = none) :
      Deletion e u id (.error (.repository (.notFound id))) (.error (.repository (.notFound id)))
  /-- The filter does not let the user delete it. -/
  | barred {f : Filter} {why : Denial} (stored : e.filters.get? id = some f)
      (denied : f.canDelete u = .denied why) :
      Deletion e u id (.ok (.denied why)) (.error (.filter (.validation (.denied why) [id])))
  /-- Something depends on the filter. -/
  | inUse {f : Filter} (stored : e.filters.get? id = some f) (granted : f.canDelete u = .granted)
      (used : e.dependents id ≠ []) :
      Deletion e u id (.ok (.denied (.inUse (e.dependents id))))
        (.error (.filter (.conflict (.filterInUse id) (e.dependents id))))
  /-- The filter is taken out. -/
  | done {f : Filter} (stored : e.filters.get? id = some f) (granted : f.canDelete u = .granted)
      (unused : e.dependents id = []) : Deletion e u id (.ok .granted) (.ok f)

theorem ensureDeletable_of_denied {why : Denial} (h : f.canDelete u = .denied why) :
    e.ensureDeletable u f = .error (.validation (.denied why) [f.id]) := by
  unfold ensureDeletable
  rw [h]
  rfl

theorem ensureDeletable_of_granted (h : f.canDelete u = .granted) :
    e.ensureDeletable u f = if e.dependents f.id = [] then .ok ()
      else .error (.conflict (.filterInUse f.id) (e.dependents f.id)) := by
  unfold ensureDeletable dependents
  rw [h]
  cases e.authorization.dependents f.id <;> rfl

theorem canDelete_of_get? (hstored : e.filters.get? id = some f) :
    e.canDelete u id = .ok (e.authorization.canDelete u f) := by
  unfold canDelete
  rw [require_eq_ok_iff.2 hstored]
  rfl

/-- In memory a filter that may be deleted is. -/
theorem delete_of_get? (hmemory : e.repository.backing = none)
    (hstored : e.filters.get? id = some f) :
    (e.delete u id).1 = ((e.ensureDeletable u f).mapError .filter).map fun _ => f := by
  have hremove : e.repository.remove id =
      (.ok f, { e.repository with filters := e.repository.filters.erase id }) := by
    rw [Repository.remove_eq_commit, show e.repository.get? id = some f from hstored]
    exact Repository.commit_of_memory hmemory _ f
  unfold delete
  rw [require_eq_ok_iff.2 hstored]
  cases hensured : e.ensureDeletable u f with
  | error error => simp only [hensured]; rfl
  | ok =>
    simp only [hensured, hremove]
    rfl

/-- **A deletion goes as it is answered.** -/
theorem deletion_of_memory (hmemory : e.repository.backing = none) (u : ActingUser)
    (id : FilterId) : e.Deletion u id (e.canDelete u id) (e.delete u id).1 := by
  cases hstored : e.filters.get? id with
  | none =>
    have hmissing : e.require id = .error (.repository (.notFound id)) := by
      unfold require
      rw [show e.repository.get? id = none from hstored]
    unfold canDelete delete
    rw [hmissing]
    exact .missing hstored
  | some f =>
    have hid : f.id = id := Index.key_of_get? hstored
    rw [canDelete_of_get? hstored, delete_of_get? hmemory hstored]
    unfold Authorization.canDelete
    cases hstatic : f.canDelete u with
    | denied why =>
      rw [ensureDeletable_of_denied hstatic, hid]
      exact .barred hstored hstatic
    | granted =>
      rw [ensureDeletable_of_granted hstatic, hid]
      have hsame : e.authorization.dependents id = e.dependents id := rfl
      by_cases hunused : e.dependents id = []
      · simp only [hsame, hunused]
        exact .done hstored hstatic hunused
      · simp only [hsame, if_neg hunused, List.isEmpty_iff]
        exact .inUse hstored hstatic hunused

/-! ### What a deletion says -/

section

variable {access : Except EngineError Access} {result : Except EngineError Filter}

theorem Deletion.granted_iff (h : e.Deletion u id access result) :
    access = .ok .granted ↔ ∃ f, result = .ok f := by
  cases h with
  | missing | barred | inUse => simp
  | done => simp

theorem Deletion.notFound_iff (h : e.Deletion u id access result) :
    (access = .error (.repository (.notFound id)) ↔ e.filters.get? id = none) ∧
      (result = .error (.repository (.notFound id)) ↔ e.filters.get? id = none) := by
  cases h with
  | missing absent => simp [absent]
  | barred stored | inUse stored | done stored => simp [stored]

/-- What a refusal says, by whether the filter itself lets the user delete it. -/
theorem Deletion.refusal (h : e.Deletion u id access result) (hstored : e.filters.get? id = some f)
    {error : EngineError} (hrefused : result = .error error) :
    match f.canDelete u with
    | .denied why =>
      error = .filter (.validation (.denied why) [id]) ∧ access = .ok (.denied why)
    | .granted =>
      error = .filter (.conflict (.filterInUse id) (e.dependents id)) ∧
        access = .ok (.denied (.inUse (e.dependents id))) := by
  cases h with
  | missing absent =>
    rw [absent] at hstored
    cases hstored
  | barred stored denied =>
    cases stored.symm.trans hstored
    cases hrefused
    rw [denied]
    exact ⟨rfl, rfl⟩
  | inUse stored granted =>
    cases stored.symm.trans hstored
    cases hrefused
    rw [granted]
    exact ⟨rfl, rfl⟩
  | done => cases hrefused

end

/-- What depends on a filter: the stored filters with a condition that points at it, in the order of
their ids, whoever may see them, and after them the labels of what uses it from outside. -/
theorem dependents_spec (e : Engine) (id : FilterId) :
    ∃ parents, e.dependents id = parents ++ e.references.labelsOf id ∧ parents.Pairwise (· < ·) ∧
      ∀ parent, parent ∈ parents ↔ ∃ g ∈ e.filters, g.id = parent ∧
        ∃ c ∈ g.conditions, c.subFilterId? = some id := by
  refine ⟨e.filters.parentsOf id, rfl, FilterSet.pairwise_parentsOf e.filters id, fun parent => ?_⟩
  simp only [FilterSet.mem_parentsOf, Filter.mem_subFilterIds]

/-- **What is answered about a deletion is what happens.** In memory the answer is granted just if
the deletion succeeds, and a filter is missing for both or for neither. A deletion that the filter
denies is rejected for that reason; one that only its dependents stand against is in conflict with
all of these, and they are what is answered as well. -/
theorem canDelete_tells (hmemory : e.repository.backing = none) (u : ActingUser) (id : FilterId) :
    (e.canDelete u id = .ok .granted ↔ ∃ f, (e.delete u id).1 = .ok f) ∧
    ((e.canDelete u id = .error (.repository (.notFound id)) ↔ e.filters.get? id = none) ∧
      ((e.delete u id).1 = .error (.repository (.notFound id)) ↔ e.filters.get? id = none)) ∧
    (∀ f error, e.filters.get? id = some f → (e.delete u id).1 = .error error →
      match f.canDelete u with
      | .denied why =>
        error = .filter (.validation (.denied why) [id]) ∧ e.canDelete u id = .ok (.denied why)
      | .granted =>
        error = .filter (.conflict (.filterInUse id) (e.dependents id)) ∧
          e.canDelete u id = .ok (.denied (.inUse (e.dependents id)))) ∧
    ∃ parents, e.dependents id = parents ++ e.references.labelsOf id ∧ parents.Pairwise (· < ·) ∧
      ∀ parent, parent ∈ parents ↔ ∃ g ∈ e.filters, g.id = parent ∧
        ∃ c ∈ g.conditions, c.subFilterId? = some id := by
  have hdeletion := deletion_of_memory hmemory u id
  exact ⟨hdeletion.granted_iff, hdeletion.notFound_iff,
    fun _ _ hstored hrefused => hdeletion.refusal hstored hrefused, dependents_spec e id⟩

/-- A public filter that a private one is made of and that a report uses. -/
def usedDesk : Engine where
  config := {}
  schema := diaryDesk.schema
  directory := diaryDesk.directory
  references := .ofList [⟨"vips", .ofList ["report"]⟩]
  storage := {}
  repository.filters := .ofList [onPersons "vips" .everyone (.onProperty "vip" true),
    onPersons "diary" (.user "ann") (.onSubFilter "vips")]

/-- A user is told of all that stands against a deletion, even of a filter closed to them. -/
theorem canDelete_tells_usedDesk :
    let bob : ActingUser := { id := "bob" }
    usedDesk.repository.backing = none ∧
      (usedDesk.delete bob "vips").1 =
        .error (.filter (.conflict (.filterInUse "vips") ["diary", "report"])) ∧
      usedDesk.canDelete bob "vips" = .ok (.denied (.inUse ["diary", "report"])) ∧
      usedDesk.canDelete bob "diary" = .ok (.denied .delete) ∧
      ¬ ∃ f, (usedDesk.delete bob "diary").1 = .ok f := by
  intro bob
  obtain ⟨-, -, hrefused, -⟩ := canDelete_tells (e := usedDesk) rfl bob "vips"
  obtain ⟨hgranted, -⟩ := canDelete_tells (e := usedDesk) rfl bob "diary"
  have hdelete : (usedDesk.delete bob "vips").1 =
      .error (.filter (.conflict (.filterInUse "vips") ["diary", "report"])) := by cbv
  have hstored : usedDesk.filters.get? "vips" =
      some (onPersons "vips" .everyone (.onProperty "vip" true)) := by cbv
  have hdiary : usedDesk.canDelete bob "diary" = .ok (.denied .delete) := by cbv
  refine ⟨rfl, hdelete, (hrefused _ _ hstored hdelete).2, hdiary, fun h => ?_⟩
  rw [hgranted.2 h] at hdiary
  cases hdiary

end Engine

end RecordFilters
