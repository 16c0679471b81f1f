import RecordFilters.Proofs.Engine.References
import RecordFilters.Proofs.Graph.Ancestry

/-! # The ownership rule over whole runs

A filter may reach only filters that its owner may see. Editing the conditions of a filter checks
only what lies below it, and giving it to another owner checks what reaches it as well. That this is
enough for every pair of stored filters rests on the rule itself: it composes along a way.

* `mayReference_trans`: the rule composes.
* `RespectsOwnership.insert`: one filter is replaced where the rule holds.
* `respectsOwnership_run`: the rule holds after every run of requests. -/

namespace RecordFilters

open Relation Authorization

namespace Authorization

variable {a : Authorization} {d : Directory} {u : ActingUser} {candidate f : Filter}
  {previous : Option Filter}

/-! ### The rule -/

/-- **What the owner of a sub-filter may see, the owner of the filter may see.** -/
theorem mayReference_trans {o p q : Ownership} (hop : mayReference d o p = true)
    (hpq : mayReference d p q = true) : mayReference d o q = true := by
  cases p with
  | everyone =>
    -- only a public filter lies below a public one
    cases q with
    | everyone => cases o <;> rfl
    | user | team => cases hpq
  | user v =>
    cases o with
    | everyone | team => cases hop
    | user u =>
      have huv : u = v := of_decide_eq_true hop
      rw [huv]
      exact hpq
  | team s =>
    cases q with
    | everyone => cases o <;> rfl
    | user => cases hpq
    | team t =>
      have hst : s = t := of_decide_eq_true hpq
      rw [← hst]
      exact hop

/-- A public filter may use only public ones. -/
theorem eq_everyone_of_mayReference {o : Ownership} (h : mayReference d .everyone o = true) :
    o = .everyone := by
  cases o with
  | everyone => rfl
  | user | team => cases h

/-! ### The checks -/

/-- What a candidate that is valid has passed. -/
structure Validated (a : Authorization) (u : ActingUser) (candidate : Filter)
    (previous : Option Filter) : Prop where
  custom : candidate.isPrivate = true → candidate.isCustom = true
  owner : (previous.all fun p => p.ownership ≠ candidate.ownership) = true →
    a.checkOwner u candidate.ownership = .ok ()
  subFilters : a.checkSubFilters candidate = .ok ()
  dependents : ∀ p, previous = some p → p.ownership ≠ candidate.ownership →
    a.checkDependents candidate = .ok ()

theorem validated_of_validate (h : a.validate u candidate previous = .ok ()) :
    Validated a u candidate previous := by
  unfold validate at h
  dsimp only at h
  obtain ⟨hcustom, h⟩ := guarded_eq_ok_iff.1 h
  have custom : candidate.isPrivate = true → candidate.isCustom = true := by
    simpa using hcustom
  split at h
  next hchanged =>
    obtain ⟨⟨⟩, howner, h⟩ := bind_eq_ok_iff.1 h
    obtain ⟨⟨⟩, hsub, h⟩ := bind_eq_ok_iff.1 h
    refine ⟨custom, fun _ => howner, hsub, ?_⟩
    rintro p rfl -
    rw [if_pos (by rw [hchanged]; rfl)] at h
    exact h
  next hkept =>
    obtain ⟨⟨⟩, hsub, h⟩ := bind_eq_ok_iff.1 h
    refine ⟨custom, fun hchanged => absurd hchanged hkept, hsub, ?_⟩
    rintro p rfl hne
    exact absurd (decide_eq_true hne) hkept

/-- What lies below a candidate that passes the second rule may be used by it. -/
theorem mayReference_of_checkSubFilters (h : a.checkSubFilters candidate = .ok ())
    (hc : ¬ a.filters.Below candidate candidate.id) (hf : f ∈ a.filters)
    (hb : a.filters.Below candidate f.id) :
    mayReference a.directory candidate.ownership f.ownership = true := by
  unfold checkSubFilters at h
  obtain ⟨below, hbelow, h⟩ := bind_eq_ok_iff.1 h
  split at h
  next => cases h
  next hnone =>
    have hmem : f ∈ below := GraphWalk.mem_of_descendants hbelow hc hf hb
    simpa using List.find?_eq_none.1 hnone f hmem

/-- What reaches a candidate that passes the third rule may use it. -/
theorem mayReference_of_checkDependents (h : a.checkDependents candidate = .ok ())
    (hf : f ∈ a.filters) (hne : f.id ≠ candidate.id)
    (hup : a.filters.Reaches f.id candidate.id) :
    mayReference a.directory f.ownership candidate.ownership = true := by
  unfold checkDependents at h
  obtain ⟨above, habove, h⟩ := bind_eq_ok_iff.1 h
  split at h
  next hnone =>
    have hmem : f.id ∈ above := GraphWalk.mem_of_ancestors habove hne hup
    cases hmay : mayReference a.directory f.ownership candidate.ownership with
    | true => rfl
    | false =>
      have hblocked : f.id ∈ a.blocked candidate above := mem_blocked.2 ⟨f, hf, rfl, hmem, hmay⟩
      rw [hnone] at hblocked
      exact absurd hblocked List.not_mem_nil
  next => cases h

end Authorization

/-! ### The invariant -/

namespace FilterSet

variable {d : Directory} {s : FilterSet} {f : Filter}

/-- Whatever a stored filter reaches, its owner may use. -/
def RespectsOwnership (d : Directory) (s : FilterSet) : Prop :=
  ∀ f ∈ s, ∀ g ∈ s, s.Reaches f.id g.id → mayReference d f.ownership g.ownership = true

/-- The rule holds of all ways if it holds of all edges. -/
theorem respectsOwnership_of_edges
    (h : ∀ f ∈ s, ∀ g ∈ s, g.id ∈ f.subFilterIds →
      mayReference d f.ownership g.ownership = true) : s.RespectsOwnership d := by
  intro f hf g hg hway
  generalize hid : g.id = id at hway
  induction hway generalizing g with
  | single hedge =>
    refine h f hf g hg ?_
    rw [hid]
    exact mem_subFilterIds_of_pointsAt hf hedge
  | tail hway hedge ih =>
    obtain ⟨m, hm, rfl, hmg⟩ := hedge
    have hfm : mayReference d f.ownership m.ownership = true := ih m hm rfl
    have hmg : mayReference d m.ownership g.ownership = true := by
      refine h m hm g hg ?_
      rw [hid]
      exact hmg
    exact mayReference_trans hfm hmg

/-- **The rule is kept where one filter is put in place.** What lies below the filter and what
reaches it has to satisfy the rule with it; all other pairs get the rule by composition. -/
theorem RespectsOwnership.insert (hs : s.RespectsOwnership d) (hf : ¬ s.Below f f.id)
    (hdown : ∀ g ∈ s, s.Below f g.id → mayReference d f.ownership g.ownership = true)
    (hup : ∀ g ∈ s, g.id ≠ f.id → s.Reaches g.id f.id →
      mayReference d g.ownership f.ownership = true) :
    RespectsOwnership d (s.insert f) := by
  have below : ∀ g ∈ s.insert f, s.Below f g.id →
      mayReference d f.ownership g.ownership = true := by
    intro g hg hb
    rcases Index.mem_insert.1 hg with rfl | ⟨hg, -⟩
    · exact absurd hb hf
    · exact hdown g hg hb
  intro g hg k hk hway
  rcases Index.mem_insert.1 hg with rfl | ⟨hg, hne⟩
  · exact below k hk (below_of_reaches_insert hf hway)
  · rcases reaches_insert_cases hf hne hway with hway | ⟨hto, hfrom⟩
    · rcases Index.mem_insert.1 hk with hkf | ⟨hk, -⟩
      · rw [hkf] at hway ⊢
        exact hup g hg hne hway
      · exact hs g hg k hk hway
    · exact mayReference_trans (hup g hg hne hto) (below k hk hfrom)

theorem RespectsOwnership.erase (hs : s.RespectsOwnership d) (id : FilterId) :
    RespectsOwnership d (s.erase id) := by
  intro f hf g hg hway
  have hway : s.Reaches f.id g.id := hway.mono fun _ _ h => (pointsAt_erase.1 h).2
  exact hs f (Index.mem_erase.1 hf).1 g (Index.mem_erase.1 hg).1 hway

/-- Where the rule holds, a public filter reaches only public ones. -/
theorem RespectsOwnership.isPrivate_eq_false (hs : s.RespectsOwnership d) {g : Filter}
    (hf : f ∈ s) (hg : g ∈ s) (hway : s.Reaches f.id g.id) (hpublic : f.isPrivate = false) :
    g.isPrivate = false := by
  have hown : f.ownership = .everyone := by simpa [Filter.isPrivate, Ownership.isPrivate] using hpublic
  have hrule := hs f hf g hg hway
  rw [hown] at hrule
  unfold Filter.isPrivate
  rw [eq_everyone_of_mayReference hrule]
  rfl

end FilterSet

/-! ### Requests and runs -/

namespace Engine

variable {e : Engine} {u : ActingUser}

/-- **A request keeps the rule where no reference dangles.** -/
theorem respectsOwnership_answer (hcomplete : e.filters.Complete)
    (hs : e.filters.RespectsOwnership e.directory) (r : ChangeRequest) :
    (e.answer u r).2.filters.RespectsOwnership e.directory := by
  have h := answer_outcome e u r
  generalize (e.answer u r).2.filters = filters at h ⊢
  generalize (e.answer u r).1 = answer at h
  cases h with
  | rejected | empty => exact hs
  | @created id _ f _ fresh prepared =>
    have hf := created_of_prepareCreate prepared
    obtain ⟨hacyclic, hvalid⟩ := checkGraph_eq_ok_iff.1 hf.checked
    have hbelow : ¬ e.filters.Below f f.id := GraphWalk.not_below_of_checkAcyclic hacyclic
    have hvalid := validated_of_validate hvalid
    refine hs.insert hbelow (fun g hg hb => ?_) (fun g hg hne hup => ?_)
    · exact mayReference_of_checkSubFilters hvalid.subFilters hbelow hg hb
    · -- nothing reaches an id that is not stored
      have hstored := hcomplete.contains_of_reaches hup
      rw [hf.id, fresh] at hstored
      cases hstored
  | @updated id update previous f _ _ stored prepared =>
    have hf := updated_of_prepareUpdate prepared
    obtain ⟨hacyclic, hvalid⟩ := checkGraph_eq_ok_iff.1 hf.checked
    have hbelow : ¬ e.filters.Below f f.id := GraphWalk.not_below_of_checkAcyclic hacyclic
    have hvalid := validated_of_validate hvalid
    refine hs.insert hbelow (fun g hg hb => ?_) (fun g hg hne hup => ?_)
    · exact mayReference_of_checkSubFilters hvalid.subFilters hbelow hg hb
    · by_cases hown : previous.ownership = f.ownership
      · rw [← hown]
        refine hs g hg previous (Index.mem_of_get? stored) ?_
        rw [← hf.id]
        exact hup
      · exact mayReference_of_checkDependents (hvalid.dependents previous rfl hown) hg hne hup
  | deleted => exact hs.erase _

/-- **The ownership rule holds after every run of requests**, accepted or rejected, if it does
before and no reference dangles then. In particular no public filter reaches a private one. -/
theorem respectsOwnership_run {e : Engine} (hc : e.catalogs.ChecksReferences)
    (hcomplete : e.filters.Complete) (hs : e.filters.RespectsOwnership e.directory)
    (rs : List (ActingUser × ChangeRequest)) :
    (e.run (requests rs)).filters.RespectsOwnership e.directory ∧
      ∀ f ∈ (e.run (requests rs)).filters, ∀ g ∈ (e.run (requests rs)).filters,
        (e.run (requests rs)).filters.Reaches f.id g.id → f.isPrivate = false →
          g.isPrivate = false := by
  have kept : (e.run (requests rs)).catalogs = e.catalogs ∧
      (e.run (requests rs)).directory = e.directory ∧ (e.run (requests rs)).filters.Complete ∧
        (e.run (requests rs)).filters.RespectsOwnership e.directory := by
    refine run_requests_induction (P := fun e' => e'.catalogs = e.catalogs ∧
      e'.directory = e.directory ∧ e'.filters.Complete ∧ e'.filters.RespectsOwnership e.directory)
      ?_ ⟨rfl, rfl, hcomplete, hs⟩ rs
    rintro e' u r ⟨hcatalogs, hdirectory, hcomplete, hs⟩
    rw [← hcatalogs] at hc
    rw [← hdirectory] at hs ⊢
    have hcomplete' := complete_answer hc hcomplete u r
    have hs' := respectsOwnership_answer (u := u) hcomplete hs r
    obtain ⟨repository, heq⟩ := answer_eq e' u r
    rw [heq] at hcomplete' hs' ⊢
    exact ⟨hcatalogs, rfl, hcomplete', hs'⟩
  obtain ⟨-, -, -, hs⟩ := kept
  exact ⟨hs, fun f hf g hg hway hpublic => hs.isPrivate_eq_false hf hg hway hpublic⟩

/-- A filter of a user on top of one of a team, in which the directory has the user. -/
def sharedPair : Engine where
  config := {}
  schema := {}
  directory := { users := .ofList ["ann"], teams := .ofList [⟨"sales", "Sales", .ofList ["ann"]⟩] }
  storage := {}
  repository.filters := .ofList [
    { id := "mine", name := "Mine", entityType := "person", ownership := .user "ann"
      conditions := [.onSubFilter "ours"]
      conditions_ne_nil := Condition.onSubFilter_ne_nil _ },
    { id := "ours", name := "Ours", entityType := "person", ownership := .team "sales"
      conditions := [.onProperty "regular" true]
      conditions_ne_nil := Condition.onProperty_ne_nil _ _ }]

theorem respectsOwnership_run_sharedPair :
    (sharedPair.run (requests [({ id := "ann" }, .changeOwnership "mine" .everyone),
      ({ id := "ann" }, .delete "ours"),
      ({ id := "bob" }, .rename "ours" "Theirs")])).filters.RespectsOwnership
        sharedPair.directory := by
  have hcomplete : sharedPair.filters.Complete := by decide
  have hs : sharedPair.filters.RespectsOwnership sharedPair.directory :=
    FilterSet.respectsOwnership_of_edges (by decide)
  exact (respectsOwnership_run Catalogs.hasReferenceHandlers_standard.checksReferences hcomplete
    hs _).1

end Engine

end RecordFilters
