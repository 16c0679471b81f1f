import RecordFilters.Proofs.Engine.References

/-! # References over the life of a repository

Over one repository there may be many engines, one after the other, and each answers requests while
the data around it change. Through all of this no reference dangles, and no filter is taken away
while anything uses it.

* `Descends`: the engines that there may be, in time, over the repository of one.
* `dependents_eq_nil_of_removed`: what a request may take away.
* `complete_of_descends`: what is kept from the first engine on. -/

namespace RecordFilters

namespace Engine

/-- An engine comes after another over its repository: after requests of any users, after changes of
the data around it, or made anew over what is stored by then. -/
inductive Descends (e : Engine) : Engine → Prop
  | same : Descends e e
  | request {e'} (before : Descends e e') (u : ActingUser) (r : ChangeRequest) :
      Descends e (e'.answer u r).2
  | around {e'} (before : Descends e e') (schema : Schema) (directory : Directory)
      (references : References) (storage : Storage) :
      Descends e { e' with
        schema := schema, directory := directory, references := references, storage := storage }
  /-- The extensions of the plan leave the conditions on other filters to this library. -/
  | made {e' e'' plan disk today repository} (before : Descends e e')
      (extensions : ∀ handler ∈ plan.handlers, handler.kind.referencesFilter = false)
      (built : build plan disk today e'.repository = (.ok e'', repository)) : Descends e e''

variable {e e' : Engine} {u : ActingUser} {r : ChangeRequest} {id : FilterId}

/-- All references are followed, and the catalogs see to it. -/
structure Intact (e : Engine) : Prop where
  handlers : e.catalogs.HasReferenceHandlers
  complete : e.filters.Complete

theorem Intact.answer (h : e.Intact) (u : ActingUser) (r : ChangeRequest) :
    (e.answer u r).2.Intact := by
  have hcomplete := complete_answer h.handlers.checksReferences h.complete u r
  obtain ⟨repository, heq⟩ := answer_eq e u r
  rw [heq] at hcomplete ⊢
  exact ⟨h.handlers, hcomplete⟩

theorem Intact.descends (h : e.Intact) (hd : Descends e e') : e'.Intact := by
  induction hd with
  | same => exact h
  | request before u r ih => exact ih.answer u r
  | around before schema directory references storage ih => exact ⟨ih.handlers, ih.complete⟩
  | made before extensions built ih =>
    have hhandlers := hasReferenceHandlers_of_build built extensions
    exact ⟨hhandlers, complete_of_build built hhandlers ih.complete⟩

/-- **A request takes away only what nothing depends on**, neither a filter nor a record outside. -/
theorem dependents_eq_nil_of_removed (hid : e.filters.contains id = true)
    (hgone : (e.answer u r).2.filters.contains id = false) : e.dependents id = [] := by
  have h := answer_outcome e u r
  generalize (e.answer u r).2.filters = filters at h hgone
  generalize (e.answer u r).1 = answer at h
  cases h with
  | rejected | empty =>
    rw [hid] at hgone
    cases hgone
  | @created _ _ f | @updated _ _ _ f =>
    have hstored := Index.contains_insert (a := f).2 (Or.inr hid)
    rw [hgone] at hstored
    cases hstored
  | @deleted id' f _ stored deletable =>
    by_cases heq : id = id'
    · obtain ⟨hparents, hlabels⟩ := dependents_eq_nil_of_ensureDeletable deletable
      rw [Index.key_of_get? stored, ← heq] at hparents hlabels
      exact List.append_eq_nil_iff.2 ⟨hparents, hlabels⟩
    · have hstored := Index.contains_erase.2 ⟨heq, hid⟩
      rw [hgone] at hstored
      cases hstored

/-- **Where no reference dangles, none ever does**, whatever is asked and however often an engine is
made over the repository. A filter that a record outside still uses stays: no request takes it away,
and making an engine takes away nothing at all. -/
theorem complete_of_descends (hc : e.catalogs.HasReferenceHandlers) (hs : e.filters.Complete)
    (h : Descends e e') :
    (∀ f ∈ e'.filters, ∀ id ∈ f.subFilterIds, e'.filters.contains id = true) ∧
      (∀ u r id, e'.filters.contains id = true → e'.references.labelsOf id ≠ [] →
        (e'.answer u r).2.filters.contains id = true) ∧
      ∀ plan disk today id, e'.filters.contains id = true →
        (build plan disk today e'.repository).2.filters.contains id = true := by
  have hintact : e'.Intact := Intact.descends ⟨hc, hs⟩ h
  refine ⟨FilterSet.complete_iff.1 hintact.complete, fun u r id hid hused => ?_,
    fun plan disk today id hid => ?_⟩
  · by_contra hgone
    have hnone := dependents_eq_nil_of_removed hid (Bool.eq_false_iff.2 hgone)
    exact hused (List.append_eq_nil_iff.1 hnone).2
  · obtain ⟨f, hf, hfid⟩ := Index.contains_iff.1 hid
    exact Index.contains_iff.2 ⟨f, mem_build_of_mem plan disk today hf, hfid⟩

/-- A stored filter under a schema with one property. -/
def archive : Engine where
  config := {}
  schema := {
    entityTypes := .ofList [⟨"person", ∅⟩], propertyTypes := .ofList [{ id := "vip" }] }
  directory := {}
  storage := {}
  repository.filters := .ofList [
    { id := "vips", name := "VIPs", entityType := "person"
      conditions := [.onProperty "vip" true]
      conditions_ne_nil := Condition.onProperty_ne_nil _ _ }]

/-- Two system filters of which the first points at the second, and a report that uses both of
them. -/
def reopened : EnginePlan where
  schema := some archive.schema
  directory := some {}
  storage := some {}
  references := .ofList [⟨"inner", .ofList ["report"]⟩, ⟨"outer", .ofList ["report"]⟩]
  systemFilters := [
    { id := "outer", name := "Outer", entityType := "person"
      conditions := [.onSubFilter "inner"]
      conditions_ne_nil := Condition.onSubFilter_ne_nil _ },
    { id := "inner", name := "Inner", entityType := "person"
      conditions := [.onSubFilter "vips"]
      conditions_ne_nil := Condition.onSubFilter_ne_nil _ }]

/-- The same with another filter on top of the stored one. -/
def annotated : Engine :=
  (archive.answer { id := "ann" } (.create {
    id := some "mine", name := "Mine", entityType := "person"
    conditions := [.subFilter "vips"] })).2

theorem complete_of_descends_reopened :
    ∃ e r, build reopened {} ⟨2024, 1, 1, by decide, by decide, by decide⟩ annotated.repository =
        (.ok e, r) ∧
      (∀ f ∈ e.filters, ∀ id ∈ f.subFilterIds, e.filters.contains id = true) ∧
      (e.answer { id := "ann", elevated := true } (.delete "outer")).2.filters.contains "outer" =
        true := by
  have hok : ((build reopened {} ⟨2024, 1, 1, by decide, by decide, by decide⟩
      annotated.repository).1.map fun e =>
        (e.filters.contains "outer", e.references.labelsOf "outer")) = .ok (true, ["report"]) := by
    cbv
  rcases h : build reopened {} ⟨2024, 1, 1, by decide, by decide, by decide⟩ annotated.repository
    with ⟨error | e, r⟩
  · rw [h] at hok
    cases hok
  · rw [h] at hok
    have hstored : e.filters.contains "outer" = true := congrArg Prod.fst (Except.ok.inj hok)
    have hlabels : e.references.labelsOf "outer" = ["report"] :=
      congrArg Prod.snd (Except.ok.inj hok)
    have hdescends : Descends archive e :=
      .made (.request .same _ _) (by intro handler hmem; cases hmem) h
    obtain ⟨hcomplete, hkept, -⟩ := complete_of_descends Catalogs.hasReferenceHandlers_standard
      (by decide) hdescends
    refine ⟨e, r, rfl, hcomplete, hkept _ _ _ hstored ?_⟩
    rw [hlabels]
    simp

end Engine

end RecordFilters
