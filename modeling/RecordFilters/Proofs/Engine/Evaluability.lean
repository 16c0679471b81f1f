import RecordFilters.Proofs.Engine.Acyclicity
import RecordFilters.Proofs.Engine.Ownership
import RecordFilters.Proofs.Engine.References
import RecordFilters.Proofs.Evaluation.Depth

/-! # Which filters stay evaluable

Before a filter is stored, everything below it is visited, and the evaluation of the filter goes the
same way. So it can be evaluated when it is put in place, and as long as nothing below it changes.
But nobody looks upwards: new conditions of one filter may let another nest too deep that reaches it.
That is all that can happen.

* `Tended`: what holds of an engine that has accepted all of its filters.
* `evaluable_or_disturbs`: what one request does to a stored filter.
* `predicate_ok_or_disturbed`: what whole runs do. -/

namespace RecordFilters

open Relation

namespace ChangeRequest

/-- A request for a new filter, or for a change of some part of one. -/
def writes : ChangeRequest → Bool
  | .create _ => true
  | r => r.update?.any fun (_, change) => !change.isEmpty

/-- A request for other conditions of a filter. -/
def replacesConditions (r : ChangeRequest) : Bool :=
  r.update?.any fun (_, change) => change.conditions.isSome

theorem writes_eq {r : ChangeRequest} {id : FilterId} {update : FilterUpdate}
    (h : r.update? = some (id, update)) : r.writes = !update.isEmpty := by
  cases r with
  | create | delete => cases h
  | _ =>
    cases h
    rfl

theorem replacesConditions_eq {r : ChangeRequest} {id : FilterId} {update : FilterUpdate}
    (h : r.update? = some (id, update)) : r.replacesConditions = update.conditions.isSome := by
  unfold replacesConditions
  rw [h]
  rfl

end ChangeRequest

namespace Engine

variable {e : Engine} {u : ActingUser} {r : ChangeRequest} {id : FilterId} {f : Filter}
  {ctx : Context}

/-- The predicate of a filter is found in every fresh context without a user. -/
def Evaluable (e : Engine) (id : FilterId) : Prop :=
  ∀ ctx : Context, ctx.user = none → ctx.memo = ∅ → (e.predicate ctx id).1.isOk = true

/-- A request is accepted and puts a filter in place. -/
def Writes (e : Engine) (u : ActingUser) (r : ChangeRequest) (f : Filter) : Prop :=
  r.writes = true ∧ (e.answer u r).1 = .ok f

/-- A request is accepted that replaces the conditions of something that a filter reaches, and the
filter cannot be evaluated any more. -/
structure Disturbs (e : Engine) (u : ActingUser) (r : ChangeRequest) (id : FilterId) : Prop where
  replaces : r.replacesConditions = true
  below : ∃ f, (e.answer u r).1 = .ok f ∧ e.filters.Reaches id f.id
  before : e.Evaluable id
  after : ¬ (e.answer u r).2.Evaluable id

/-- Some request has disturbed a filter, and it has neither been put in place nor become evaluable
since then. -/
inductive Disturbed (e : Engine) (id : FilterId) : List (ActingUser × ChangeRequest) → Prop
  | now {rs u r} (h : (e.run (requests rs)).Disturbs u r id) : Disturbed e id (rs ++ [(u, r)])
  | still {rs u r} (h : Disturbed e id rs)
      (untouched : ∀ f, (e.run (requests rs)).Writes u r f → f.id ≠ id)
      (broken : ¬ (e.run (requests (rs ++ [(u, r)]))).Evaluable id) :
      Disturbed e id (rs ++ [(u, r)])

/-! ### Engines that have accepted their filters -/

/-- What holds of an engine that has accepted all of its filters. -/
structure Tended (e : Engine) : Prop where
  standard : e.catalogs.HasStandard
  wellTyped : e.filters.WellTyped e.schema
  acyclic : e.filters.Acyclic

theorem Tended.of_empty (hev : e.catalogs.HasStandard) (h : e.filters = ∅) : e.Tended := by
  refine ⟨hev, fun f hf => ?_, FilterSet.Acyclic.of_rank (fun _ => 0) fun f hf => ?_⟩
  · rw [h] at hf
    exact absurd hf Index.not_mem_empty
  · rw [h] at hf
    exact absurd hf Index.not_mem_empty

theorem Tended.answer (h : e.Tended) (u : ActingUser) (r : ChangeRequest) :
    (e.answer u r).2.Tended := by
  have htyped := wellTyped_answer h.standard.hasReferenceHandlers h.wellTyped u r
  have hacyclic := acyclic_answer h.acyclic u r
  obtain ⟨repository, heq⟩ := answer_eq e u r
  rw [heq] at htyped hacyclic ⊢
  exact ⟨h.standard, htyped, hacyclic⟩

/-- A filter that is visible is stored. -/
theorem get?_of_visibleIn (h : e.visibleIn ctx id = .ok f) : e.filters.get? id = some f := by
  unfold visibleIn at h
  obtain ⟨f', hf', h⟩ := bind_eq_ok_iff.1 h
  dsimp only at h
  split at h <;>
  · obtain ⟨⟨⟩, -, h⟩ := bind_eq_ok_iff.1 h
    cases h
    exact require_eq_ok_iff.1 hf'

/-- Without a user everything that is stored is visible. -/
theorem visibleIn_of_get? (hf : e.filters.get? id = some f) (huser : ctx.user = none) :
    e.visibleIn ctx id = .ok f := by
  unfold visibleIn
  rw [require_eq_ok_iff.2 hf, huser]
  rfl

/-- **A visible filter can be evaluated exactly if it nests no deeper than the bound.** -/
theorem Tended.predicate_spec (h : e.Tended) (hmemo : ctx.memo = ∅)
    (hvisible : e.visibleIn ctx id = .ok f) :
    (e.filters.WithinDepth e.config.maxDepth id ∧
      ∃ p ctx', e.predicate ctx id = (.ok p, ctx')) ∨
    (¬ e.filters.WithinDepth e.config.maxDepth id ∧ ∃ g ctx', e.predicate ctx id =
      (.error (.filter (.validation (.tooDeep e.config.maxDepth) [g])), ctx')) := by
  obtain ⟨hf, rfl⟩ := Index.get?_eq_some_iff.1 (get?_of_visibleIn hvisible)
  have hev : e.evaluator.catalogs.HasStandard := h.standard
  have htyped : e.evaluator.filters.WellTyped e.evaluator.schema := h.wellTyped
  unfold predicate
  rw [hvisible]
  rcases Evaluator.compile_spec hev htyped h.acyclic hf hmemo with
    ⟨hdepth, p, ctx', hrun⟩ | ⟨hdepth, g, ctx', hrun⟩
  · refine Or.inl ⟨hdepth, p, ctx', ?_⟩
    dsimp only
    rw [hrun]
    rfl
  · refine Or.inr ⟨hdepth, g, ctx', ?_⟩
    dsimp only
    rw [hrun]
    rfl

theorem Tended.evaluable_iff (h : e.Tended) (hid : e.filters.contains id = true) :
    e.Evaluable id ↔ e.filters.WithinDepth e.config.maxDepth id := by
  obtain ⟨f, hf⟩ := Option.isSome_iff_exists.1 hid
  constructor
  · intro heval
    let ctx : Context := { today := ⟨2000, 1, 1, by decide, by decide, by decide⟩ }
    have hok : (e.predicate ctx id).1.isOk = true := heval ctx rfl rfl
    have hvisible : e.visibleIn ctx id = .ok f := visibleIn_of_get? hf rfl
    rcases h.predicate_spec rfl hvisible with ⟨hdepth, -⟩ | ⟨-, g, ctx', hrun⟩
    · exact hdepth
    · rw [hrun] at hok
      cases hok
  · intro hdepth ctx huser hmemo
    rcases h.predicate_spec hmemo (visibleIn_of_get? hf huser) with ⟨-, p, ctx', hrun⟩ | ⟨hnot, -⟩
    · rw [hrun]
      rfl
    · exact absurd hdepth hnot

/-! ### Requests -/

/-- A candidate that has been checked nests no deeper than the bound where it is put in place. -/
theorem withinDepth_of_checkGraph {previous : Option Filter}
    (h : e.checkGraph u f previous = .ok ()) :
    FilterSet.WithinDepth (e.filters.insert f) e.config.maxDepth f.id := by
  obtain ⟨hacyclic, hvalid⟩ := checkGraph_eq_ok_iff.1 h
  have hbelow : ¬ e.filters.Below f f.id := GraphWalk.not_below_of_checkAcyclic hacyclic
  have hsub := (Authorization.validated_of_validate hvalid).subFilters
  unfold Authorization.checkSubFilters at hsub
  obtain ⟨below, hdescendants, -⟩ := bind_eq_ok_iff.1 hsub
  have hvisit := GraphWalk.isOk_descendants (g := e.authorization.walk) f
  rw [hdescendants] at hvisit
  unfold FilterSet.WithinDepth
  rw [FilterSet.visit_insert_self hbelow List.not_mem_nil]
  exact hvisit.symm

/-- A request that is accepted stores what it writes, and no deeper than the bound. -/
theorem withinDepth_of_writes (h : e.Writes u r f) :
    (e.answer u r).2.filters.contains f.id = true ∧
      (e.answer u r).2.filters.WithinDepth e.config.maxDepth f.id := by
  obtain ⟨hwrites, hanswer⟩ := h
  have h := answer_outcome e u r
  generalize (e.answer u r).2.filters = filters at h ⊢
  rw [hanswer] at h
  cases h with
  | empty asked isEmpty =>
    rw [ChangeRequest.writes_eq asked, isEmpty] at hwrites
    cases hwrites
  | created _ _ prepared =>
    exact ⟨Index.contains_insert.2 (Or.inl rfl),
      withinDepth_of_checkGraph (created_of_prepareCreate prepared).checked⟩
  | updated _ _ _ prepared =>
    exact ⟨Index.contains_insert.2 (Or.inl rfl),
      withinDepth_of_checkGraph (updated_of_prepareUpdate prepared).checked⟩
  | deleted asked =>
    rw [asked] at hwrites
    cases hwrites

/-- A filter that a request has not written has been there before. -/
theorem contains_of_not_writes (hid : (e.answer u r).2.filters.contains id = true)
    (hother : ∀ f, e.Writes u r f → f.id ≠ id) : e.filters.contains id = true := by
  unfold Writes at hother
  have h := answer_outcome e u r
  generalize (e.answer u r).2.filters = filters at h hid
  generalize (e.answer u r).1 = answer at h hother
  cases h with
  | rejected | empty => exact hid
  | @created _ _ f asked =>
    have hne : f.id ≠ id := hother f ⟨by rw [asked]; rfl, rfl⟩
    exact (Index.contains_insert.1 hid).resolve_left hne.symm
  | @updated _ _ _ f asked isEmpty =>
    have hne : f.id ≠ id := hother f ⟨by rw [ChangeRequest.writes_eq asked, isEmpty]; rfl, rfl⟩
    exact (Index.contains_insert.1 hid).resolve_left hne.symm
  | deleted => exact (Index.contains_erase.1 hid).2

/-- **A request changes no visit of a filter** unless it writes the filter or replaces the conditions
of something that the filter reaches. -/
theorem visit_answer (hs : e.filters.Complete)
    (hid : (e.answer u r).2.filters.contains id = true)
    (hother : ∀ f, e.Writes u r f → f.id ≠ id)
    (hbelow : ∀ f, r.replacesConditions = true → (e.answer u r).1 = .ok f →
      ¬ e.filters.Reaches id f.id) (levels : Nat) (seen : List FilterId) :
    (e.answer u r).2.filters.visit levels seen id = e.filters.visit levels seen id := by
  have notReached : ∀ g, g ≠ id → ¬ e.filters.Reaches id g →
      ∀ a, ReflTransGen e.filters.PointsAt id a → a ≠ g := by
    rintro g hne hnot a hway rfl
    rcases reflTransGen_iff_eq_or_transGen.1 hway with heq | hway
    · exact hne heq
    · exact hnot hway
  unfold Writes at hother
  have h := answer_outcome e u r
  generalize (e.answer u r).2.filters = filters at h hid ⊢
  generalize (e.answer u r).1 = answer at h hother hbelow
  cases h with
  | rejected | empty => rfl
  | @created _ _ f asked fresh prepared =>
    have hne : f.id ≠ id := hother f ⟨by rw [asked]; rfl, rfl⟩
    have hnot : ¬ e.filters.Reaches id f.id := by
      intro hway
      have hstored := hs.contains_of_reaches hway
      rw [(created_of_prepareCreate prepared).id, fresh] at hstored
      cases hstored
    exact FilterSet.visit_insert_of_not_reached (notReached f.id hne hnot)
  | @updated _ update previous f asked isEmpty stored prepared =>
    have hf := updated_of_prepareUpdate prepared
    have hne : f.id ≠ id := hother f ⟨by rw [ChangeRequest.writes_eq asked, isEmpty]; rfl, rfl⟩
    by_cases hreaches : e.filters.Reaches id f.id
    · have hkept : update.conditions = none := by
        cases hconditions : update.conditions with
        | none => rfl
        | some change =>
          refine absurd hreaches (hbelow f ?_ rfl)
          rw [ChangeRequest.replacesConditions_eq asked, hconditions]
          rfl
      have hprevious : e.filters.get? f.id = some previous := by
        rw [hf.id, Index.key_of_get? stored]
        exact stored
      exact FilterSet.visit_insert_of_subFilterIds_eq hprevious (hf.subFilterIds_eq hkept)
    · exact FilterSet.visit_insert_of_not_reached (notReached f.id hne hreaches)
  | @deleted id' _ _ stored deletable =>
    obtain ⟨hnone, -⟩ := dependents_eq_nil_of_ensureDeletable deletable
    rw [Index.key_of_get? stored] at hnone
    have hne : id ≠ id' := (Index.contains_erase.1 hid).1
    have hnot : ¬ e.filters.Reaches id id' := by
      intro hway
      obtain ⟨b, -, hedge⟩ := TransGen.tail'_iff.1 hway
      exact FilterSet.not_pointsAt_of_parentsOf_eq_nil hnone hedge
    exact FilterSet.visit_erase_of_not_reached (notReached id' hne.symm hnot)

theorem config_answer (e : Engine) (u : ActingUser) (r : ChangeRequest) :
    (e.answer u r).2.config = e.config := by
  obtain ⟨repository, heq⟩ := answer_eq e u r
  rw [heq]

/-- **A filter can be evaluated when it has been put in place.** -/
theorem Tended.evaluable_of_writes (h : e.Tended) (hwrites : e.Writes u r f) :
    (e.answer u r).2.Evaluable f.id := by
  obtain ⟨hid, hdepth⟩ := withinDepth_of_writes hwrites
  rw [← config_answer e u r] at hdepth
  exact ((h.answer u r).evaluable_iff hid).2 hdepth

/-- **What a request does to a stored filter.** The filter can be evaluated then, or the request has
not written it, and if it could be evaluated before, the request has disturbed it. -/
theorem evaluable_or_disturbs (h : e.Tended)
    (hid : (e.answer u r).2.filters.contains id = true) :
    (e.answer u r).2.Evaluable id ∨
      ((∀ f, e.Writes u r f → f.id ≠ id) ∧ e.filters.contains id = true ∧
        (e.Evaluable id → e.Disturbs u r id)) := by
  by_cases hafter : (e.answer u r).2.Evaluable id
  · exact Or.inl hafter
  have hother : ∀ f, e.Writes u r f → f.id ≠ id := by
    rintro f hwrites rfl
    exact hafter (h.evaluable_of_writes hwrites)
  have hold : e.filters.contains id = true := contains_of_not_writes hid hother
  refine Or.inr ⟨hother, hold, fun hbefore => ?_⟩
  by_cases hbelow : ∀ f, r.replacesConditions = true → (e.answer u r).1 = .ok f →
      ¬ e.filters.Reaches id f.id
  · -- nothing has changed that the evaluation meets
    have hdepth := (h.evaluable_iff hold).1 hbefore
    unfold FilterSet.WithinDepth at hdepth
    rw [← visit_answer h.wellTyped.complete hid hother hbelow, ← config_answer e u r] at hdepth
    exact absurd (((h.answer u r).evaluable_iff hid).2 hdepth) hafter
  · simp only [not_forall, not_not] at hbelow
    obtain ⟨f, hreplaces, hanswer, hreaches⟩ := hbelow
    exact ⟨hreplaces, ⟨f, hanswer, hreaches⟩, hbefore, hafter⟩

/-! ### Runs -/

theorem Tended.run (h : e.Tended) (rs : List (ActingUser × ChangeRequest)) :
    (e.run (requests rs)).Tended :=
  run_requests_induction (P := Tended) (fun _ u r h => h.answer u r) h rs

theorem run_requests_append (e : Engine) (rs : List (ActingUser × ChangeRequest)) (u : ActingUser)
    (r : ChangeRequest) :
    e.run (requests (rs ++ [(u, r)])) = ((e.run (requests rs)).answer u r).2 := by
  unfold requests
  rw [List.map_append, run_append]
  rfl

/-- Every stored filter can be evaluated or has been disturbed. -/
theorem evaluable_or_disturbed (h : e.Tended) (hempty : e.filters = ∅)
    (rs : List (ActingUser × ChangeRequest))
    (hid : (e.run (requests rs)).filters.contains id = true) :
    (e.run (requests rs)).Evaluable id ∨ Disturbed e id rs := by
  induction rs using List.reverseRecOn with
  | nil =>
    have hid : e.filters.contains id = true := hid
    rw [hempty] at hid
    cases hid
  | append_singleton rs ur ih =>
    obtain ⟨u, r⟩ := ur
    have heq := run_requests_append e rs u r
    by_cases hafter : (e.run (requests (rs ++ [(u, r)]))).Evaluable id
    · exact Or.inl hafter
    · rw [heq] at hid
      rcases evaluable_or_disturbs (h.run rs) hid with hnow | ⟨hother, hold, hbroke⟩
      · rw [heq] at hafter
        exact absurd hnow hafter
      · rcases ih hold with hbefore | hdisturbed
        · exact Or.inr (.now (hbroke hbefore))
        · exact Or.inr (.still hdisturbed hother hafter)

/-- **An accepted filter can be evaluated as long as nobody disturbs it.** After every run of
requests over an empty repository, the predicate of a visible filter is found in every fresh context.
Otherwise the filter nests deeper than the bound, that is the error, and the filter was disturbed
after it had last been put in place. -/
theorem predicate_ok_or_disturbed (hev : e.catalogs.HasStandard) (hempty : e.filters = ∅)
    (rs : List (ActingUser × ChangeRequest)) (hmemo : ctx.memo = ∅)
    (hvisible : (e.run (requests rs)).visibleIn ctx id = .ok f) :
    (∃ p ctx', (e.run (requests rs)).predicate ctx id = (.ok p, ctx')) ∨
      ((∃ g ctx', (e.run (requests rs)).predicate ctx id =
          (.error (.filter (.validation (.tooDeep e.config.maxDepth) [g])), ctx')) ∧
        (∃ way : List FilterId, way.length = e.config.maxDepth + 1 ∧
          List.IsChain (e.run (requests rs)).filters.PointsAt (id :: way)) ∧
        Disturbed e id rs) := by
  have h : e.Tended := Tended.of_empty hev hempty
  have hid : (e.run (requests rs)).filters.contains id = true := by
    unfold Index.contains
    rw [get?_of_visibleIn hvisible]
    rfl
  have same : (e.run (requests rs)).config = e.config := by
    obtain ⟨repository, heq⟩ := run_requests_eq e rs
    rw [heq]
  rcases (h.run rs).predicate_spec hmemo hvisible with hok | ⟨hdeep, herror⟩
  · exact Or.inl hok.2
  · rw [same] at hdeep herror
    have hgivesUp : (e.run (requests rs)).filters.visit (e.config.maxDepth + 1) [] id = none := by
      unfold FilterSet.WithinDepth at hdeep
      simpa using hdeep
    refine Or.inr ⟨herror, FilterSet.exists_way_of_visit_eq_none hgivesUp, ?_⟩
    rcases evaluable_or_disturbed h hempty rs hid with heval | hdisturbed
    · have hdepth := ((h.run rs).evaluable_iff hid).1 heval
      rw [same] at hdepth
      exact absurd hdepth hdeep
    · exact hdisturbed

/-- An engine without filters, under which only one level of them is allowed. -/
def shallow : Engine where
  config := { maxDepth := 1 }
  schema := {
    entityTypes := .ofList [⟨"person", ∅⟩], propertyTypes := .ofList [{ id := "vip" }] }
  directory := {}
  storage := {}
  repository := {}

/-- A filter uses another, and then that one gets a sub-filter too. -/
def deepened : List (ActingUser × ChangeRequest) :=
  [({ id := "ann" }, .create {
      id := some "leaf", name := "Leaf", entityType := "person"
      conditions := [.property "vip" true] }),
    ({ id := "ann" }, .create {
      id := some "middle", name := "Middle", entityType := "person"
      conditions := [.property "vip" false] }),
    ({ id := "ann" }, .create {
      id := some "top", name := "Top", entityType := "person"
      conditions := [.subFilter "middle"] }),
    ({ id := "ann" }, .setConditions "middle" [.subFilter "leaf"] false)]

theorem predicate_ok_or_disturbed_deepened : Disturbed shallow "top" deepened := by
  let ctx : Context := { today := ⟨2024, 1, 1, by decide, by decide, by decide⟩ }
  have hok : ((shallow.run (requests deepened)).visibleIn ctx "top").isOk = true := by cbv
  have hdeep : ((shallow.run (requests deepened)).predicate ctx "top").1.isOk = false := by cbv
  cases hvisible : (shallow.run (requests deepened)).visibleIn ctx "top" with
  | error =>
    rw [hvisible] at hok
    cases hok
  | ok f =>
    rcases predicate_ok_or_disturbed ⟨rfl, rfl⟩ rfl deepened rfl hvisible with
      ⟨p, ctx', hrun⟩ | ⟨-, -, hdisturbed⟩
    · rw [hrun] at hdeep
      cases hdeep
    · exact hdisturbed

/-- Not every accepted filter stays evaluable. -/
theorem predicate_top_of_deepened : shallow.catalogs = .standard ∧ shallow.filters = ∅ ∧
    1 ≤ shallow.config.maxDepth ∧
    ((shallow.run (requests deepened)).predicate
      { today := ⟨2024, 1, 1, by decide, by decide, by decide⟩ } "top").1 =
        .error (.filter (.validation (.tooDeep 1) ["leaf"])) := by
  refine ⟨rfl, rfl, by decide, ?_⟩
  cbv

end Engine

end RecordFilters
