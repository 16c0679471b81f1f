import RecordFilters.Proofs.Engine.Evaluability
import RecordFilters.Proofs.Engine.Privacy
import RecordFilters.Proofs.Engine.Visibility

/-! # Authors and what they have written

Who writes a filter should be able to see and to edit it afterwards. The owner of a filter is
checked when it is written, and the access when it is asked for, and the two do not read the same: a
team will do as an owner if the directory has the user in it, but it lets only those users in who
bring it.

* `Authored`: why a request that writes a filter was let through.
* `canView_of_writes`: the author may see and edit the filter, unless it is private to a team that
  the directory has them in and that they do not bring. -/

namespace RecordFilters

/-- The filter is private to a team of the user by the directory, and the user does not bring it. -/
def Ownership.LocksOut (d : Directory) (u : ActingUser) (o : Ownership) : Prop :=
  u.elevated = false ∧ ∃ id team, o = .team id ∧ u.isMemberOf id = false ∧
    d.team? id = some team ∧ team.hasMember u.id = true

/-- Access depends on the owner alone. -/
theorem Filter.isOpenTo_of_ownership_eq {f g : Filter} {u : ActingUser}
    (h : f.ownership = g.ownership) : f.isOpenTo u = g.isOpenTo u := by
  unfold isOpenTo isPrivate
  rw [h]

namespace Ownership

variable {d : Directory} {u : ActingUser} {o : Ownership}

/-- A user who brings the teams of the directory is never locked out. -/
theorem not_locksOut_of_teams (hteams : u.teams = d.teamsOf u.id) : ¬ o.LocksOut d u := by
  rintro ⟨-, id, team, -, hmissing, hteam, hmember⟩
  obtain ⟨hstored, hid⟩ := Index.get?_eq_some_iff.1 hteam
  have hlisted : id ∈ u.teams := by
    rw [hteams]
    exact NameSet.mem_ofList.2 (List.mem_map.2
      ⟨team, Index.mem_def.1 (Index.mem_filter.2 ⟨hstored, hmember⟩), hid⟩)
  have hmember : u.isMemberOf id = true := NameSet.contains_iff_mem.2 hlisted
  rw [hmissing] at hmember
  cases hmember

end Ownership

namespace Filter

variable {d : Directory} {u : ActingUser} {f : Filter}

/-- Who is locked out is not let in. -/
theorem isOpenTo_eq_false_of_locksOut (h : f.ownership.LocksOut d u) : f.isOpenTo u = false := by
  obtain ⟨helevated, id, -, howner, hmissing, -⟩ := h
  rw [isOpenTo_eq_false_iff, isPrivate, howner]
  exact ⟨rfl, helevated, hmissing⟩

/-- An owner within the reach of the user lets them in, if they are not locked out. -/
theorem isOpenTo_of_isWithin (hwithin : f.ownership.IsWithin d u)
    (hfree : ¬ f.ownership.LocksOut d u) : f.isOpenTo u = true := by
  rw [← Bool.not_eq_false]
  intro hclosed
  obtain ⟨hprivate, helevated, hother⟩ := isOpenTo_eq_false_iff.1 hclosed
  unfold isPrivate at hprivate
  cases howner : f.ownership with
  | everyone =>
    rw [howner] at hprivate
    cases hprivate
  | user id =>
    rw [howner] at hwithin hother
    have hself : id = u.id := hwithin
    exact absurd hself (of_decide_eq_false hother)
  | team id =>
    rw [howner] at hwithin hother hfree
    obtain ⟨team, hteam, hbrings | hlisted⟩ := hwithin
    · have hmissing : u.isMemberOf id = false := hother
      rw [hmissing] at hbrings
      cases hbrings
    · exact hfree ⟨helevated, id, team, rfl, hother, hteam, hlisted⟩

end Filter

namespace Engine

variable {e : Engine} {u : ActingUser} {r : ChangeRequest} {f : Filter}

/-! ### What has been written -/

/-- Why a request that writes a filter was let through: the filter had that owner before and was
open to the user, or the user has elevated rights, or the owner is new and within their reach. -/
inductive Authored (e : Engine) (u : ActingUser) (f : Filter) : Prop
  | kept {previous : Filter} (stored : e.filters.get? f.id = some previous)
      (owner : previous.ownership = f.ownership) (opened : previous.isOpenTo u = true)
  | elevated (rights : u.elevated = true)
  | assigned (changed : ∀ p, e.filters.get? f.id = some p → p.ownership ≠ f.ownership)
      (within : f.ownership.IsWithin e.directory u)

/-- A candidate whose owner is new has passed the first rule. -/
theorem authored_of_checkGraph (hchecked : e.checkGraph u f (e.filters.get? f.id) = .ok ())
    (hnew : ∀ p, e.filters.get? f.id = some p → p.ownership ≠ f.ownership) : e.Authored u f := by
  by_cases helevated : u.elevated = true
  · exact .elevated helevated
  · exact .assigned hnew (isWithin_of_checkGraph (Bool.eq_false_iff.2 helevated) hchecked hnew)

/-- **What is written is stored, and its owner has been checked.** -/
theorem stored_of_writes (h : e.Writes u r f) :
    (e.answer u r).2.filters.get? f.id = some f ∧ e.Authored u f := by
  obtain ⟨hwrites, hanswer⟩ := h
  have houtcome := answer_outcome e u r
  generalize (e.answer u r).2.filters = filters at houtcome ⊢
  rw [hanswer] at houtcome
  cases houtcome with
  | empty asked isEmpty =>
    rw [ChangeRequest.writes_eq asked, isEmpty] at hwrites
    cases hwrites
  | created asked fresh prepared =>
    have hf := created_of_prepareCreate prepared
    have hnone : e.filters.get? f.id = none := by
      rw [hf.id]
      simpa [Index.contains] using fresh
    refine ⟨by simp [Index.get?_insert], authored_of_checkGraph ?_ ?_⟩
    · rw [hnone]
      exact hf.checked
    · intro p hp
      rw [hnone] at hp
      cases hp
  | @updated id _ previous _ asked isEmpty stored prepared =>
    have hf := updated_of_prepareUpdate prepared
    have hprevious : e.filters.get? f.id = some previous := by
      rw [hf.id, Index.key_of_get? stored]
      exact stored
    refine ⟨by simp [Index.get?_insert], ?_⟩
    by_cases howner : previous.ownership = f.ownership
    · exact .kept hprevious howner (by simpa [Filter.canEdit] using hf.editable)
    · refine authored_of_checkGraph ?_ fun p hp => ?_
      · rw [hprevious]
        exact hf.checked
      · cases hprevious.symm.trans hp
        exact howner
  | deleted asked =>
    rw [asked] at hwrites
    cases hwrites

/-- A change that leaves the owner as it was leaves the access as it was. -/
theorem Authored.isOpenTo_of_kept {previous : Filter} (h : e.Authored u f)
    (hprevious : e.filters.get? f.id = some previous)
    (howner : previous.ownership = f.ownership) : f.isOpenTo u = true := by
  cases h with
  | kept _ owner opened =>
    rw [← Filter.isOpenTo_of_ownership_eq owner]
    exact opened
  | elevated rights => simp [Filter.isOpenTo, rights]
  | assigned changed => exact absurd howner (changed previous hprevious)

/-- The author is let in, unless they are locked out. -/
theorem Authored.isOpenTo_iff (h : e.Authored u f) :
    f.isOpenTo u = true ↔ ¬ f.ownership.LocksOut e.directory u := by
  constructor
  · intro hopen hlocked
    rw [Filter.isOpenTo_eq_false_of_locksOut hlocked] at hopen
    cases hopen
  · intro hfree
    cases h with
    | kept stored owner opened =>
      exact Authored.isOpenTo_of_kept (.kept stored owner opened) stored owner
    | elevated rights => simp [Filter.isOpenTo, rights]
    | assigned _ within => exact Filter.isOpenTo_of_isWithin within hfree

/-! ### What the author may do -/

theorem canView_of_get? {id : FilterId} (h : e.filters.get? id = some f) :
    e.canView u id = .ok (f.canView u) := by
  unfold canView
  rw [require_eq_ok_iff.2 h]
  rfl

theorem canEdit_of_get? {id : FilterId} (h : e.filters.get? id = some f) :
    e.canEdit u id = .ok (f.canEdit u) := by
  unfold canEdit
  rw [require_eq_ok_iff.2 h]
  rfl

/-- Whoever may see a stored filter may edit it. -/
theorem canView_and_canEdit_iff {id : FilterId} (h : e.filters.get? id = some f) :
    (e.canView u id = .ok .granted ∧ e.canEdit u id = .ok .granted) ↔ f.isOpenTo u = true := by
  rw [canView_of_get? h, canEdit_of_get? h]
  unfold Filter.canView Filter.canEdit Access.check
  cases f.isOpenTo u <;> simp

/-- **Authors keep their filters, but for teams that they do not bring.** When a filter is created,
or some part of it is changed, it is stored, and the user who asked may see and edit it, just if it
is not private to a team that the directory has the user in and that the user does not bring. So it
is for every user who has elevated rights or brings the teams of the directory, and for every change
that leaves the owner as it was. -/
theorem canView_of_writes (h : e.Writes u r f) :
    (e.answer u r).2.filters.get? f.id = some f ∧
    (((e.answer u r).2.canView u f.id = .ok .granted ∧
        (e.answer u r).2.canEdit u f.id = .ok .granted) ↔
      ¬ f.ownership.LocksOut e.directory u) ∧
    ((u.elevated = true ∨ u.teams = e.directory.teamsOf u.id ∨
        ∃ previous, e.filters.get? f.id = some previous ∧ previous.ownership = f.ownership) →
      (e.answer u r).2.canView u f.id = .ok .granted ∧
        (e.answer u r).2.canEdit u f.id = .ok .granted) := by
  obtain ⟨hstored, hauthored⟩ := stored_of_writes h
  refine ⟨hstored, ?_, fun hfree => ?_⟩
  · rw [canView_and_canEdit_iff hstored, hauthored.isOpenTo_iff]
  · rw [canView_and_canEdit_iff hstored]
    rcases hfree with helevated | hteams | ⟨previous, hprevious, howner⟩
    · simp [Filter.isOpenTo, helevated]
    · exact hauthored.isOpenTo_iff.2 (Ownership.not_locksOut_of_teams hteams)
    · exact hauthored.isOpenTo_of_kept hprevious howner

/-- An office that has a user in a team. -/
def frontDesk : Engine where
  config := {}
  schema := {
    entityTypes := .ofList [⟨"person", ∅⟩], propertyTypes := .ofList [{ id := "vip" }] }
  directory := { users := .ofList ["ann"], teams := .ofList [⟨"desk", "Desk", .ofList ["ann"]⟩] }
  storage := {}
  repository := {}

/-- A filter of that team. -/
def deskFilter : Filter where
  id := "ours"
  name := "Ours"
  entityType := "person"
  ownership := .team "desk"
  conditions := [.onProperty "vip" true]
  conditions_ne_nil := Condition.onProperty_ne_nil _ _

/-- The user makes the filter. -/
def makesOurs : ChangeRequest :=
  .create {
    id := some "ours", name := "Ours", entityType := "person", ownership := .team "desk"
    conditions := [.property "vip" true] }

theorem canView_of_writes_frontDesk :
    let ann : ActingUser := { id := "ann", teams := .ofList ["desk"] }
    frontDesk.Writes ann makesOurs deskFilter ∧
      (frontDesk.answer ann makesOurs).2.canView ann "ours" = .ok .granted ∧
      (frontDesk.answer ann makesOurs).2.canEdit ann "ours" = .ok .granted := by
  intro ann
  have hwrites : frontDesk.Writes ann makesOurs deskFilter := ⟨rfl, by cbv⟩
  obtain ⟨-, -, hfree⟩ := canView_of_writes hwrites
  exact ⟨hwrites, hfree (.inr (.inl (by decide)))⟩

/-- **Not every author is let in**: the user is in the team and does not bring it. -/
theorem canView_makesOurs_eq_denied :
    let ann : ActingUser := { id := "ann" }
    frontDesk.Writes ann makesOurs deskFilter ∧
      (frontDesk.answer ann makesOurs).2.canView ann "ours" = .ok (.denied .view) ∧
      (frontDesk.answer ann makesOurs).2.canEdit ann "ours" = .ok (.denied .edit) := by
  refine ⟨⟨rfl, by cbv⟩, by cbv, by cbv⟩

end Engine

end RecordFilters
