import RecordFilters.Proofs.Engine.Ownership
import RecordFilters.Proofs.Evaluation.Locality

/-! # Visibility reaches down

A user may see a filter by the teams that they bring, and a filter may use another by what the
directory says of its owner. Where the user brings the teams of the directory, the two go together:
who may see a filter may see all that it reaches. As nothing else is read when the filter is
evaluated, its answers depend on nothing that is hidden from the user.

* `isOpenTo_of_mayReference`: from a filter to what it uses.
* `Guarded`: what a run of requests keeps.
* `apply_eq_of_visibleFilters_eq`: what a user may see, and what their answers depend on. -/

namespace RecordFilters

open Relation

/-! ### One step down -/

/-- **Who may see a filter may see what its owner may use.** -/
theorem Filter.isOpenTo_of_mayReference {f g : Filter} {d : Directory} {u : ActingUser}
    (hteams : u.teams = d.teamsOf u.id)
    (h : Authorization.mayReference d f.ownership g.ownership = true)
    (hf : f.isOpenTo u = true) : g.isOpenTo u = true := by
  unfold isOpenTo at hf ⊢
  by_cases helevated : u.elevated = true
  · simp [helevated]
  unfold isPrivate Ownership.isPrivate at hf ⊢
  cases hg : g.ownership with
  | everyone => rfl
  | user v =>
    rw [hg] at h
    cases hown : f.ownership with
    | everyone | team =>
      rw [hown] at h
      cases h
    | user w =>
      rw [hown] at h hf
      have hwv : w = v := of_decide_eq_true h
      rw [← hwv]
      exact hf
  | team t =>
    rw [hg] at h
    cases hown : f.ownership with
    | everyone =>
      rw [hown] at h
      cases h
    | user w =>
      rw [hown] at h hf
      have hwu : w = u.id := by simpa [helevated, Ownership.isOwnedBy] using hf
      have hmember : u.teams.contains t = true := by
        rw [hteams, ← hwu]
        exact h
      simp [Ownership.isOwnedBy, ActingUser.isMemberOf, hmember]
    | team s =>
      rw [hown] at h hf
      have hst : s = t := of_decide_eq_true h
      rw [← hst]
      exact hf

namespace Engine

variable {e e' : Engine} {u : ActingUser} {f : Filter} {id : FilterId} {ctx : Context}

/-! ### What a user may see -/

/-- The rule is checked, and it holds of all stored filters, of which none is missing. -/
structure Guarded (e : Engine) : Prop where
  checks : e.catalogs.ChecksReferences
  complete : e.filters.Complete
  ownership : e.filters.RespectsOwnership e.directory

theorem Guarded.answer (h : e.Guarded) (u : ActingUser) (r : ChangeRequest) :
    (e.answer u r).2.Guarded := by
  have hcomplete := complete_answer h.checks h.complete u r
  have hownership := respectsOwnership_answer (u := u) h.complete h.ownership r
  obtain ⟨repository, heq⟩ := answer_eq e u r
  rw [heq] at hcomplete hownership ⊢
  exact ⟨h.checks, hcomplete, hownership⟩

theorem Guarded.run (h : e.Guarded) (rs : List (ActingUser × ChangeRequest)) :
    (e.run (requests rs)).Guarded :=
  run_requests_induction (P := Guarded) (fun _ u r h => h.answer u r) h rs

/-- **Who may see a filter may see all that it reaches**, and all of it is stored. -/
theorem Guarded.isOpenTo_of_reaches (h : e.Guarded) (hteams : u.teams = e.directory.teamsOf u.id)
    (hf : f ∈ e.filters) (hopen : f.isOpenTo u = true) (hway : e.filters.Reaches f.id id) :
    ∃ g ∈ e.filters, g.id = id ∧ g.isOpenTo u = true := by
  obtain ⟨g, hg, rfl⟩ := Index.contains_iff.1 (h.complete.contains_of_reaches hway)
  exact ⟨g, hg, rfl,
    Filter.isOpenTo_of_mayReference hteams (h.ownership f hf g hg hway) hopen⟩

theorem canView_eq_granted_iff : f.canView u = .granted ↔ f.isOpenTo u = true := by
  unfold Filter.canView Access.check
  split <;> simp_all

theorem mem_visibleFilters :
    f ∈ e.visibleFilters u none ↔ f ∈ e.filters ∧ f.isOpenTo u = true := by
  simp [visibleFilters, Filter.canView, Index.mem_def]

/-- Where a user sees the same, a filter that they see is stored in both. -/
theorem get?_eq_of_visibleFilters_eq (hsame : e'.visibleFilters u none = e.visibleFilters u none)
    (hf : f ∈ e.filters) (hopen : f.isOpenTo u = true) :
    e'.filters.get? f.id = some f := by
  have hmem : f ∈ e'.visibleFilters u none := by
    rw [hsame]
    exact mem_visibleFilters.2 ⟨hf, hopen⟩
  exact Index.get?_eq_some_iff.2 ⟨(mem_visibleFilters.1 hmem).1, rfl⟩

/-! ### What the answers depend on -/

theorem visibleIn_of_isOpenTo (hf : e.filters.get? id = some f) (hopen : f.isOpenTo u = true)
    (huser : ctx.user = some u) : e.visibleIn ctx id = .ok f := by
  have hgranted : f.canView u = .granted := canView_eq_granted_iff.2 hopen
  have hstored : e.repository.get? id = some f := hf
  unfold visibleIn require
  rw [hstored, huser]
  show (do ((f.canView u).ensure id).mapError EngineError.filter; return f) = .ok f
  rw [hgranted]
  rfl

/-- **Nothing that is hidden from a user bears on what they are answered.** -/
theorem Guarded.answers_eq (h : e.Guarded) (hlocal : e.catalogs.IsLocal)
    (hteams : u.teams = e.directory.teamsOf u.id) (hf : f ∈ e.filters) (hopen : f.isOpenTo u = true)
    (hevaluator : e'.evaluator = { e.evaluator with filters := e'.filters })
    (hstorage : e'.storage = e.storage)
    (hsame : e'.visibleFilters u none = e.visibleFilters u none) (huser : ctx.user = some u) :
    e'.predicate ctx f.id = e.predicate ctx f.id ∧
      (e'.apply ctx f.id).1 = (e.apply ctx f.id).1 := by
  have hbelow : ∀ id, e.evaluator.filters.Below f id →
      e'.filters.get? id = e.evaluator.filters.get? id := by
    intro id hb
    obtain ⟨g, hg, rfl, hgopen⟩ :=
      h.isOpenTo_of_reaches hteams hf hopen ((FilterSet.below_iff_reaches hf).1 hb)
    rw [get?_eq_of_visibleFilters_eq hsame hg hgopen]
    exact (Index.get?_eq_some_iff.2 ⟨hg, rfl⟩).symm
  have hvisible : e.visibleIn ctx f.id = .ok f :=
    visibleIn_of_isOpenTo (Index.get?_eq_some_iff.2 ⟨hf, rfl⟩) hopen huser
  have hvisible' : e'.visibleIn ctx f.id = .ok f :=
    visibleIn_of_isOpenTo (get?_eq_of_visibleFilters_eq hsame hf hopen) hopen huser
  constructor
  · unfold predicate
    rw [hvisible, hvisible', hevaluator]
    dsimp only
    rw [Evaluator.compile_congr hlocal hbelow]
  · unfold apply
    rw [hvisible, hvisible', hevaluator, hstorage]
    dsimp only
    rw [Evaluator.apply_congr hlocal hbelow]

/-- **What a user may see reaches down, and nothing else bears on their answers.** After every run of
requests, a user who brings the teams that the directory has them in may see all that a filter
reaches which they may see. An engine that shows them the same filters, whatever it hides from them,
answers them the same on each of these, in the same context. -/
theorem apply_eq_of_visibleFilters_eq (hc : e.catalogs.ChecksReferences)
    (hlocal : e.catalogs.IsLocal) (hcomplete : e.filters.Complete)
    (hs : e.filters.RespectsOwnership e.directory) (hteams : u.teams = e.directory.teamsOf u.id)
    (rs : List (ActingUser × ChangeRequest)) :
    ∀ f ∈ (e.run (requests rs)).filters, f.canView u = .granted →
      (∀ id, (e.run (requests rs)).filters.Reaches f.id id →
        ∃ g ∈ (e.run (requests rs)).filters, g.id = id ∧ g.canView u = .granted) ∧
      ∀ e' : Engine, e'.catalogs = e.catalogs → e'.schema = e.schema → e'.storage = e.storage →
        e'.config = e.config →
        e'.visibleFilters u none = (e.run (requests rs)).visibleFilters u none →
        ∀ ctx : Context, ctx.user = some u →
          e'.predicate ctx f.id = (e.run (requests rs)).predicate ctx f.id ∧
            (e'.apply ctx f.id).1 = ((e.run (requests rs)).apply ctx f.id).1 := by
  have hguarded : (e.run (requests rs)).Guarded := Guarded.run ⟨hc, hcomplete, hs⟩ rs
  obtain ⟨repository, heq⟩ := run_requests_eq e rs
  rw [heq] at hguarded ⊢
  intro f hf hview
  have hopen := canView_eq_granted_iff.1 hview
  refine ⟨fun id hway => ?_, fun e' hcatalogs hschema hstorage hconfig hsame ctx huser => ?_⟩
  · obtain ⟨g, hg, hid, hgopen⟩ := hguarded.isOpenTo_of_reaches hteams hf hopen hway
    exact ⟨g, hg, hid, canView_eq_granted_iff.2 hgopen⟩
  · refine hguarded.answers_eq hlocal hteams hf hopen ?_ hstorage hsame huser
    unfold evaluator
    rw [hcatalogs, hschema, hconfig]

/-- A filter of a user on top of one of their team. -/
def annsCustomers : Filter where
  id := "mine"
  name := "Mine"
  entityType := "person"
  ownership := .user "ann"
  conditions := [.onSubFilter "ours"]
  conditions_ne_nil := Condition.onSubFilter_ne_nil _

/-- An office where two users work, of whom one is in a team. -/
def salesOffice : Engine where
  config := {}
  schema := {
    entityTypes := .ofList [⟨"person", ∅⟩], propertyTypes := .ofList [{ id := "vip" }] }
  directory := {
    users := .ofList ["ann", "bob"], teams := .ofList [⟨"sales", "Sales", .ofList ["ann"]⟩] }
  storage := {
    records := .ofList [
      { id := "cat", entityType := "person", properties := .ofList ["vip"] },
      { id := "dan", entityType := "person" }] }
  repository.filters := .ofList [annsCustomers,
    { id := "ours", name := "Ours", entityType := "person", ownership := .team "sales"
      conditions := [.onProperty "vip" true]
      conditions_ne_nil := Condition.onProperty_ne_nil _ _ }]

/-- The other user makes a filter of their own. -/
def bobHides (id : FilterId) : List (ActingUser × ChangeRequest) :=
  [({ id := "bob" }, .create {
    id := some id, name := "Mine too", entityType := "person", ownership := .user "bob"
    conditions := [.property "vip" false] })]

theorem apply_eq_of_visibleFilters_eq_salesOffice :
    let ann : ActingUser := { id := "ann", teams := .ofList ["sales"] }
    let ctx : Context := { user := some ann, today := ⟨2024, 1, 1, by decide, by decide, by decide⟩ }
    (∃ g ∈ (salesOffice.run (requests (bobHides "diary"))).filters,
        g.id = "ours" ∧ g.canView ann = .granted) ∧
      ((salesOffice.run (requests (bobHides "ledger"))).apply ctx "mine").1 =
        ((salesOffice.run (requests (bobHides "diary"))).apply ctx "mine").1 := by
  intro ann ctx
  have hf : annsCustomers ∈ (salesOffice.run (requests (bobHides "diary"))).filters :=
    Index.mem_of_get? (k := "mine") (by cbv)
  obtain ⟨hdown, hanswers⟩ := apply_eq_of_visibleFilters_eq
    Catalogs.hasReferenceHandlers_standard.checksReferences (Catalogs.isLocal_of_handlers_eq rfl)
    (e := salesOffice) (by decide) (FilterSet.respectsOwnership_of_edges (by decide))
    (u := ann) (by decide) (bobHides "diary") annsCustomers hf (by decide)
  refine ⟨hdown "ours" (.single (FilterSet.pointsAt_of_mem hf (by decide))), ?_⟩
  have hsame : (salesOffice.run (requests (bobHides "ledger"))).visibleFilters ann none =
      (salesOffice.run (requests (bobHides "diary"))).visibleFilters ann none := by cbv
  obtain ⟨repository, heq⟩ := run_requests_eq salesOffice (bobHides "ledger")
  rw [heq] at hsame ⊢
  exact (hanswers { salesOffice with repository := repository } rfl rfl rfl rfl hsame ctx rfl).2

end Engine

end RecordFilters
