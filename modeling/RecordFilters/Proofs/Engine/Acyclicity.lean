import RecordFilters.Proofs.Engine.Candidate
import RecordFilters.Proofs.Engine.Installing
import RecordFilters.Proofs.Graph.Walks

/-! # No cycles over whole runs

Every filter that is stored has been searched for a way back to itself: a filter of a user against
the stored filters, the system filters of an engine all together against the filters that there
would be with them. So where there is no cycle, none is ever closed, whatever the conditions point
at and however the schema and the directory change.

* `acyclic_of_build`: what making an engine keeps.
* `acyclic_answer`: what a request keeps.
* `acyclic_run_of_build`: what is kept from the repository to the end of a run. -/

namespace RecordFilters

namespace Engine

variable {today : Day} {r r' : Repository}

/-- **Making an engine closes no cycle.** -/
theorem acyclic_of_build {plan : EnginePlan} {disk : Disk} {e : Engine}
    (h : build plan disk today r = (.ok e, r')) (hr : r.filters.Acyclic) : e.filters.Acyclic :=
  hr.of_mem fun f hf => ((made_of_build h).passed f hf).imp_right fun hpassed =>
    GraphWalk.not_below_of_checkAcyclic hpassed.acyclic

/-! ### Requests and runs -/

/-- **A request closes no cycle.** -/
theorem acyclic_answer {e : Engine} (hs : e.filters.Acyclic) (u : ActingUser) (r : ChangeRequest) :
    (e.answer u r).2.filters.Acyclic := by
  have h := answer_outcome e u r
  generalize (e.answer u r).2.filters = filters at h ⊢
  generalize (e.answer u r).1 = answer at h
  cases h with
  | rejected | empty => exact hs
  | created _ _ prepared =>
    have hchecked := (created_of_prepareCreate prepared).checked
    exact hs.insert (GraphWalk.not_below_of_checkAcyclic (checkGraph_eq_ok_iff.1 hchecked).1)
  | updated _ _ _ prepared =>
    have hchecked := (updated_of_prepareUpdate prepared).checked
    exact hs.insert (GraphWalk.not_below_of_checkAcyclic (checkGraph_eq_ok_iff.1 hchecked).1)
  | deleted => exact hs.erase _

/-- No run closes a cycle, whatever happens to the schema and the directory meanwhile. -/
theorem acyclic_run {e : Engine} (hs : e.filters.Acyclic) (events : List Event) :
    (e.run events).filters.Acyclic := by
  refine run_induction (P := fun e => e.filters.Acyclic) ?_ hs events
  intro e event hs
  cases event with
  | request u r => exact acyclic_answer hs u r
  | schema | directory => exact hs

/-- **Over a repository without cycles an engine never has any**, from its system filters to the end
of every run. -/
theorem acyclic_run_of_build {plan : EnginePlan} {disk : Disk} {e : Engine}
    (h : build plan disk today r = (.ok e, r')) (hr : r.filters.Acyclic) (events : List Event) :
    (e.run events).filters.Acyclic :=
  acyclic_run (acyclic_of_build h hr) events

/-- A system filter to which a stored filter has pointed before it was there. -/
def lateLeaf : EnginePlan where
  schema := some {
    entityTypes := .ofList [⟨"person", ∅⟩], propertyTypes := .ofList [⟨"senior", []⟩] }
  directory := some {}
  storage := some {}
  systemFilters := [
    { id := "leaf", name := "Leaf", entityType := "person"
      conditions := [.onProperty "senior" true]
      conditions_ne_nil := Condition.onProperty_ne_nil _ _ }]

/-- The stored filter. -/
def earlyTop : Repository where
  filters := .ofList [
    { id := "top", name := "Top", entityType := "person"
      conditions := [.onSubFilter "leaf"]
      conditions_ne_nil := Condition.onSubFilter_ne_nil _ }]

theorem acyclic_run_of_build_lateLeaf : ∃ e r,
    build lateLeaf {} ⟨2024, 1, 1, by decide, by decide, by decide⟩ earlyTop = (.ok e, r) ∧
      (e.run [.request { id := "ann" } (.setConditions "leaf" [.subFilter "top"] false),
        .schema {}, .request { id := "ann" } (.delete "top")]).filters.Acyclic := by
  have hr : earlyTop.filters.Acyclic :=
    FilterSet.Acyclic.of_rank (fun id => if id = "top" then 1 else 0) (by decide)
  have hok : (build lateLeaf {} ⟨2024, 1, 1, by decide, by decide, by decide⟩ earlyTop).1.isOk =
      true := by cbv
  rcases h : build lateLeaf {} ⟨2024, 1, 1, by decide, by decide, by decide⟩ earlyTop
    with ⟨error | e, r⟩
  · rw [h] at hok
    cases hok
  · exact ⟨e, r, rfl, acyclic_run_of_build h hr _⟩

end Engine

end RecordFilters
