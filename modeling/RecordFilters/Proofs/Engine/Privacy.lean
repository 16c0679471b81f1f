import RecordFilters.Proofs.Engine.Ownership

/-! # Private filters and strangers

A private filter is closed to a user who is neither elevated nor its owner. Each way to ask for a
filter checks this in a place of its own.

* `answer_of_stranger`: a stranger who names a private filter is refused, whatever they ask, unless
  they ask for an update of no part: that one is answered before anything is checked.
* `Secluded`: what the requests of one user keep of the private filters of others.
* `private_run`: a user without elevated rights changes no private filter of another owner and gives
  no filter to another owner. -/

namespace RecordFilters

/-! ### Who is let in -/

theorem Filter.isOpenTo_eq_false_iff {f : Filter} {u : ActingUser} :
    f.isOpenTo u = false ↔
      f.isPrivate = true ∧ u.elevated = false ∧ f.ownership.isOwnedBy u = false := by
  simp [isOpenTo, and_assoc]

/-- What a user is let delete is open to them. -/
theorem Filter.isOpenTo_of_canDelete {f : Filter} {u : ActingUser}
    (h : (f.canDelete u).isGranted = true) : f.isOpenTo u = true := by
  unfold canDelete at h
  split at h
  next => simpa using h
  next => cases h

namespace Engine

variable {e : Engine} {u : ActingUser} {id : FilterId} {f previous : Filter}
  {update : FilterUpdate}

/-- The rejection of a user whom a filter does not let in. -/
def refusal (id : FilterId) (why : Denial) : EngineError := .filter (.validation (.denied why) [id])

theorem prepareUpdate_of_closed (hclosed : f.isOpenTo u = false) :
    e.prepareUpdate u f update = .error (.validation (.denied .edit) [f.id]) := by
  have hdenied : f.canEdit u = .denied .edit := by simp [Filter.canEdit, Access.check, hclosed]
  unfold prepareUpdate
  rw [hdenied]
  rfl

/-- Nobody deletes a system filter, and this is what a stranger is told first. -/
theorem ensureDeletable_of_closed (hclosed : f.isOpenTo u = false) :
    ∃ why, e.ensureDeletable u f = .error (.validation (.denied why) [f.id]) := by
  obtain ⟨why, hdenied⟩ : ∃ why, f.canDelete u = .denied why := by
    unfold Filter.canDelete
    split
    next => exact ⟨.delete, by simp [Access.check, hclosed]⟩
    next => exact ⟨.systemDelete, rfl⟩
  refine ⟨why, ?_⟩
  unfold ensureDeletable
  rw [hdenied]
  rfl

/-! ### What a stranger is answered -/

theorem update_of_closed (hstored : e.filters.get? id = some f) (hclosed : f.isOpenTo u = false) :
    (e.update u id update).1 = if update.isEmpty then .ok f else .error (refusal id .edit) := by
  unfold Engine.update
  rw [require_eq_ok_iff.2 hstored]
  dsimp only
  split
  next => rfl
  next =>
    rw [prepareUpdate_of_closed hclosed, Index.key_of_get? hstored]
    rfl

theorem delete_of_closed (hstored : e.filters.get? id = some f) (hclosed : f.isOpenTo u = false) :
    ∃ why, (e.delete u id).1 = .error (refusal id why) := by
  obtain ⟨why, hrefused⟩ := ensureDeletable_of_closed (e := e) hclosed
  refine ⟨why, ?_⟩
  unfold delete
  rw [require_eq_ok_iff.2 hstored]
  dsimp only
  rw [hrefused, Index.key_of_get? hstored]
  rfl

theorem visibleIn_of_closed {ctx : Context} (hstored : e.filters.get? id = some f)
    (hclosed : f.isOpenTo u = false) (huser : ctx.user = some u) :
    e.visibleIn ctx id = .error (refusal id .view) := by
  have hdenied : f.canView u = .denied .view := by simp [Filter.canView, Access.check, hclosed]
  unfold visibleIn
  rw [require_eq_ok_iff.2 hstored, huser]
  show (do ((f.canView u).ensure id).mapError EngineError.filter; return f) = _
  rw [hdenied]
  rfl

/-- **A private filter is closed to strangers, but for an update of no part.** Whatever a user asks
of the filter who is neither elevated nor its owner, be it to change, to delete or to apply it, is
refused. Only an update that names no part is answered, with the filter. -/
theorem answer_of_stranger (hstored : e.filters.get? id = some f) (hprivate : f.isPrivate = true)
    (helevated : u.elevated = false) (howner : f.ownership.isOwnedBy u = false) :
    (∀ (r : ChangeRequest) (update : FilterUpdate), r.update? = some (id, update) →
      (e.answer u r).1 = if update.isEmpty then .ok f else .error (refusal id .edit)) ∧
    (∃ why, (e.answer u (.delete id)).1 = .error (refusal id why)) ∧
    ∀ ctx : Context, ctx.user = some u →
      (e.apply ctx id).1 = .error (refusal id .view) ∧
        (e.predicate ctx id).1 = .error (refusal id .view) := by
  have hclosed : f.isOpenTo u = false :=
    Filter.isOpenTo_eq_false_iff.2 ⟨hprivate, helevated, howner⟩
  refine ⟨fun r update hasked => ?_, delete_of_closed hstored hclosed, fun ctx huser => ?_⟩
  · rw [answer_of_update? hasked]
    exact update_of_closed hstored hclosed
  · have hrefused := visibleIn_of_closed hstored hclosed huser
    constructor
    · unfold apply
      rw [hrefused]
    · unfold predicate
      rw [hrefused]

/-- A filter that a user keeps to themselves. -/
def diary : Filter where
  id := "diary"
  name := "Diary"
  entityType := "person"
  ownership := .user "ann"
  conditions := [.onProperty "vip" true]
  conditions_ne_nil := Condition.onProperty_ne_nil _ _

/-- An engine of two users, one of whom has made that filter. -/
def diaryDesk : Engine :=
  let desk : Engine := {
    config := {}
    schema := {
      entityTypes := .ofList [⟨"person", ∅⟩], propertyTypes := .ofList [{ id := "vip" }] }
    directory := { users := .ofList ["ann", "bob"] }
    storage := {}
    repository := {} }
  desk.run (requests [({ id := "ann" }, .create {
    id := some "diary", name := "Diary", entityType := "person", ownership := .user "ann"
    conditions := [.property "vip" true] })])

/-- The other user may neither rename nor delete nor apply the filter. -/
theorem answer_of_stranger_diary :
    let bob : ActingUser := { id := "bob" }
    let today : Day := ⟨2024, 1, 1, by decide, by decide, by decide⟩
    (diaryDesk.answer bob (.rename "diary" "Mine")).1 = .error (refusal "diary" .edit) ∧
      (∃ why, (diaryDesk.answer bob (.delete "diary")).1 = .error (refusal "diary" why)) ∧
      (diaryDesk.apply { user := some bob, today := today } "diary").1 =
        .error (refusal "diary" .view) := by
  intro bob today
  have hstored : diaryDesk.filters.get? "diary" = some diary := by cbv
  obtain ⟨hupdate, hdelete, hview⟩ :=
    answer_of_stranger (u := bob) hstored rfl rfl (by decide)
  exact ⟨hupdate (.rename "diary" "Mine") { name := some "Mine" } rfl, hdelete, (hview _ rfl).1⟩

/-- **A stranger is handed a private filter** where they ask for an update of no part. -/
theorem update_of_stranger_eq_ok :
    diaryDesk.filters.get? "diary" = some diary ∧ diary.isPrivate = true ∧
      diary.ownership.isOwnedBy { id := "bob" } = false ∧
      (diaryDesk.answer { id := "bob" } (.update "diary" {})).1 = .ok diary := by
  have hstored : diaryDesk.filters.get? "diary" = some diary := by cbv
  refine ⟨hstored, rfl, by decide, ?_⟩
  exact update_of_closed hstored (by decide)

end Engine

/-! ### What a user may do to the filters of others -/

/-- The owners among whom a user may choose: everyone, the user, and the existing teams that they
bring or that the directory has them in. -/
def Ownership.IsWithin (d : Directory) (u : ActingUser) : Ownership → Prop
  | .everyone => True
  | .user id => id = u.id
  | .team id => ∃ team, d.team? id = some team ∧
      (u.isMemberOf id = true ∨ team.hasMember u.id = true)

/-- Without elevated rights the first rule allows no other owners. -/
theorem Authorization.isWithin_of_checkOwner {a : Authorization} {u : ActingUser} {o : Ownership}
    (helevated : u.elevated = false) (h : a.checkOwner u o = .ok ()) :
    o.IsWithin a.directory u := by
  cases o with
  | everyone => trivial
  | user id =>
    simp only [checkOwner] at h
    split at h
    next => cases h
    next =>
      split at h
      next => cases h
      next hother =>
        show id = u.id
        simpa [helevated] using hother
  | team id =>
    simp only [checkOwner] at h
    split at h
    next => cases h
    next team hteam =>
      split at h
      next => cases h
      next hother =>
        have hmember : u.isMemberOf id = true ∨ team.hasMember u.id = true := by
          simpa [helevated, or_iff_not_imp_left] using hother
        exact ⟨team, hteam, hmember⟩

namespace Engine

/-- A new owner of a candidate that is valid is one of those. -/
theorem isWithin_of_checkGraph {e : Engine} {u : ActingUser} {f : Filter} {previous : Option Filter}
    (helevated : u.elevated = false) (h : e.checkGraph u f previous = .ok ())
    (hnew : ∀ p, previous = some p → p.ownership ≠ f.ownership) :
    f.ownership.IsWithin e.directory u := by
  obtain ⟨-, hvalid⟩ := checkGraph_eq_ok_iff.1 h
  have hvalid := Authorization.validated_of_validate hvalid
  refine Authorization.isWithin_of_checkOwner helevated (hvalid.owner ?_)
  cases previous with
  | none => rfl
  | some p => exact decide_eq_true (hnew p rfl)

/-- What the requests of a user keep of the filters that were stored at the start: those that are
closed to the user are stored as they were, and every other owner that a filter had not then is
within the reach of the user. -/
structure Secluded (start : FilterSet) (d : Directory) (u : ActingUser) (s : FilterSet) : Prop where
  kept : ∀ f ∈ start, f.isOpenTo u = false → f ∈ s
  owned : ∀ f ∈ s, (∃ g ∈ start, g.id = f.id ∧ g.ownership = f.ownership) ∨
    f.ownership.IsWithin d u

theorem Secluded.refl (s : FilterSet) (d : Directory) (u : ActingUser) : Secluded s d u s :=
  ⟨fun _ hf _ => hf, fun f hf => .inl ⟨f, hf, rfl, rfl⟩⟩

variable {e : Engine} {u : ActingUser} {start : FilterSet}

/-- Putting a filter in place keeps them if nothing closed stood there. -/
theorem Secluded.insert {d : Directory} {s : FilterSet} {f : Filter} (h : Secluded start d u s)
    (hplace : ∀ g ∈ s, g.id = f.id → g.isOpenTo u = true)
    (howned : (∃ g ∈ start, g.id = f.id ∧ g.ownership = f.ownership) ∨
      f.ownership.IsWithin d u) : Secluded start d u (s.insert f) := by
  constructor
  · intro g hg hclosed
    have hgs : g ∈ s := h.kept g hg hclosed
    refine Index.mem_insert.2 (.inr ⟨hgs, fun hid => ?_⟩)
    rw [hplace g hgs hid] at hclosed
    cases hclosed
  · intro g hg
    rcases Index.mem_insert.1 hg with rfl | ⟨hg, -⟩
    · exact howned
    · exact h.owned g hg

/-- **A request of a user without elevated rights keeps the filters of others.** -/
theorem Secluded.answer (helevated : u.elevated = false)
    (h : Secluded start e.directory u e.filters) (r : ChangeRequest) :
    Secluded start e.directory u (e.answer u r).2.filters := by
  have houtcome := answer_outcome e u r
  generalize (e.answer u r).2.filters = filters at houtcome ⊢
  generalize (e.answer u r).1 = answer at houtcome
  cases houtcome with
  | rejected | empty => exact h
  | @created id _ f _ fresh prepared =>
    have hf := created_of_prepareCreate prepared
    refine h.insert (fun g hg hid => ?_) (.inr ?_)
    · have hcontains : e.filters.contains id = true :=
        Index.contains_iff.2 ⟨g, hg, hid.trans hf.id⟩
      rw [fresh] at hcontains
      cases hcontains
    · exact isWithin_of_checkGraph helevated hf.checked nofun
  | @updated id _ previous f _ _ stored prepared =>
    have hf := updated_of_prepareUpdate prepared
    obtain ⟨hprevious, hid⟩ := Index.get?_eq_some_iff.1 stored
    refine h.insert (fun g hg hgf => ?_) ?_
    · have hsame : g = previous := Index.eq_of_key_eq hg hprevious (hgf.trans hf.id)
      rw [hsame]
      simpa [Filter.canEdit] using hf.editable
    · by_cases howner : previous.ownership = f.ownership
      · rw [← howner, hf.id]
        exact h.owned previous hprevious
      · refine .inr (isWithin_of_checkGraph helevated hf.checked ?_)
        rintro p ⟨⟩
        exact howner
  | @deleted id f _ stored deletable =>
    obtain ⟨hf, hid⟩ := Index.get?_eq_some_iff.1 stored
    constructor
    · intro g hg hclosed
      have hgs : g ∈ e.filters := h.kept g hg hclosed
      refine Index.mem_erase.2 ⟨hgs, fun hgid => ?_⟩
      have hsame : g = f := Index.eq_of_key_eq hgs hf (hgid.trans hid.symm)
      obtain ⟨⟨⟩, hdelete, -⟩ := bind_eq_ok_iff.1 deletable
      have hopen : f.isOpenTo u = true := Filter.isOpenTo_of_canDelete (isGranted_of_ensure hdelete)
      rw [hsame, hopen] at hclosed
      cases hclosed
    · intro g hg
      exact h.owned g (Index.mem_erase.1 hg).1

theorem Secluded.run (helevated : u.elevated = false) (rs : List ChangeRequest) :
    Secluded e.filters e.directory u (e.run (requests (rs.map (u, ·)))).filters := by
  induction rs using List.reverseRecOn with
  | nil => exact .refl ..
  | append_singleton rs r ih =>
    obtain ⟨repository, heq⟩ := run_requests_eq e (rs.map (u, ·))
    have hrun : e.run (requests ((rs ++ [r]).map (u, ·))) =
        ((e.run (requests (rs.map (u, ·)))).answer u r).2 := by
      rw [List.map_append]
      unfold requests
      rw [List.map_append, run_append]
      rfl
    rw [hrun]
    rw [heq] at ih ⊢
    exact Secluded.answer (e := { e with repository := repository }) helevated ih r

/-- **The private filters of others are out of reach.** After every run of requests of one user
without elevated rights, a filter that was private to another user, or to a team that the user does
not bring, is stored as it was; and a private owner that a filter has then and had not before is the
user or an existing team of the user, by what they bring or by the directory. -/
theorem private_run (helevated : u.elevated = false) (rs : List ChangeRequest) :
    (∀ f ∈ e.filters, f.isPrivate = true → f.ownership.isOwnedBy u = false →
      (e.run (requests (rs.map (u, ·)))).filters.get? f.id = some f) ∧
    ∀ f ∈ (e.run (requests (rs.map (u, ·)))).filters, f.isPrivate = true →
      (¬ ∃ g ∈ e.filters, g.id = f.id ∧ g.ownership = f.ownership) →
        f.ownership.IsWithin e.directory u := by
  have h : Secluded e.filters e.directory u (e.run (requests (rs.map (u, ·)))).filters :=
    Secluded.run helevated rs
  constructor
  · intro f hf hprivate howner
    have hclosed := Filter.isOpenTo_eq_false_iff.2 ⟨hprivate, helevated, howner⟩
    exact Index.get?_eq_some_iff.2 ⟨h.kept f hf hclosed, rfl⟩
  · intro f hf _ hnew
    exact (h.owned f hf).resolve_left hnew

/-- A filter that the other user makes for themselves. -/
def logbook : Filter where
  id := "logbook"
  name := "Log"
  entityType := "person"
  ownership := .user "bob"
  conditions := [.onProperty "vip" false]
  conditions_ne_nil := Condition.onProperty_ne_nil _ _

/-- The other user asks for the deletion of the filter and for a filter under its id, and makes one
of their own. -/
def bobTries : List ChangeRequest :=
  [.delete "diary",
    .create { id := some "diary", name := "Log", entityType := "person",
              conditions := [.property "vip" false] },
    .create { id := some "logbook", name := "Log", entityType := "person", ownership := .user "bob",
              conditions := [.property "vip" false] }]

theorem private_run_bobTries :
    let bob : ActingUser := { id := "bob" }
    bob.elevated = false ∧
      (diaryDesk.run (requests (bobTries.map (bob, ·)))).filters.get? "diary" = some diary ∧
      logbook ∈ (diaryDesk.run (requests (bobTries.map (bob, ·)))).filters ∧
      logbook.ownership.IsWithin diaryDesk.directory bob := by
  intro bob
  have hdiary : diary ∈ diaryDesk.filters := Index.mem_of_get? (k := "diary") (by cbv)
  have hfound : (diaryDesk.run (requests (bobTries.map (bob, ·)))).filters.get? "logbook" =
      some logbook := by cbv
  have hnew : ¬ ∃ g ∈ diaryDesk.filters, g.id = logbook.id ∧ g.ownership = logbook.ownership := by
    rintro ⟨g, hg, hid, -⟩
    have hnone : diaryDesk.filters.get? "logbook" = none := by cbv
    exact Index.get?_eq_none_iff.1 hnone g hg hid
  have hlog := Index.mem_of_get? hfound
  obtain ⟨hkept, howned⟩ := private_run (e := diaryDesk) (u := bob) rfl bobTries
  exact ⟨rfl, hkept diary hdiary rfl (by decide), hlog, howned logbook hlog rfl hnew⟩

end Engine

end RecordFilters
