import RecordFilters.Engine.Build
import RecordFilters.Proofs.Results
import RecordFilters.Proofs.Repository.Changes

/-! # Requests and runs

A request for a change is answered by the engine as it is then. A run is a list of events, each
either a request of some user or a change of the schema or the directory behind the engine.

`Outcome` says once what a request can do: it leaves the stored filters as they are, or it adds,
replaces or takes out one filter, and which check that filter has passed. All that is proved of runs
rests on `answer_outcome` and on `answer_eq`, by which nothing else changes. -/

namespace RecordFilters

/-- A request for a change of the stored filters. -/
inductive ChangeRequest
  | create (request : FilterRequest)
  | update (id : FilterId) (update : FilterUpdate)
  | setConditions (id : FilterId) (conditions : List Descriptor) (useOr : Bool)
  | changeOwnership (id : FilterId) (ownership : Ownership)
  | rename (id : FilterId) (name : String)
  | delete (id : FilterId)

/-- The update that a request amounts to, with the filter it names. -/
def ChangeRequest.update? : ChangeRequest → Option (FilterId × FilterUpdate)
  | update id u => some (id, u)
  | setConditions id conditions useOr => some (id, { conditions := some (conditions, useOr) })
  | changeOwnership id ownership => some (id, { ownership := some ownership })
  | rename id name => some (id, { name := some name })
  | create _ | delete _ => none

namespace Engine

/-- The answer to a request, and the engine as it is then. -/
def answer (e : Engine) (u : ActingUser) : ChangeRequest → Except EngineError Filter × Engine
  | .create request => e.create u request
  | .update id update => e.update u id update
  | .setConditions id conditions useOr => e.setConditions u id conditions useOr
  | .changeOwnership id ownership => e.changeOwnership u id ownership
  | .rename id name => e.rename u id name
  | .delete id => e.delete u id

/-- What happens to an engine. -/
inductive Event
  | request (u : ActingUser) (r : ChangeRequest)
  | schema (schema : Schema)
  | directory (directory : Directory)

/-- The engine after an event. -/
def after (e : Engine) : Event → Engine
  | .request u r => (e.answer u r).2
  | .schema schema => { e with schema := schema }
  | .directory directory => { e with directory := directory }

/-- The engine after some events. -/
def run (e : Engine) (events : List Event) : Engine := events.foldl after e

/-- The events of some requests and nothing else. -/
def requests (rs : List (ActingUser × ChangeRequest)) : List Event :=
  rs.map fun (u, r) => .request u r

theorem run_append (e : Engine) (events events' : List Event) :
    e.run (events ++ events') = (e.run events).run events' := List.foldl_append

/-- **What every event keeps, every run keeps.** -/
theorem run_induction {P : Engine → Prop} (step : ∀ e event, P e → P (e.after event)) {e : Engine}
    (he : P e) (events : List Event) : P (e.run events) := by
  induction events generalizing e with
  | nil => exact he
  | cons event events ih => exact ih (step e event he)

/-- What every request keeps, every run of requests keeps. -/
theorem run_requests_induction {P : Engine → Prop}
    (step : ∀ e u r, P e → P (e.answer u r).2) {e : Engine} (he : P e)
    (rs : List (ActingUser × ChangeRequest)) : P (e.run (requests rs)) := by
  induction rs generalizing e with
  | nil => exact he
  | cons ur rs ih => exact ih (step e ur.1 ur.2 he)

/-- A request that amounts to an update is answered as that update. -/
theorem answer_of_update? {e : Engine} {u : ActingUser} {r : ChangeRequest} {id : FilterId}
    {update : FilterUpdate} (asked : r.update? = some (id, update)) :
    e.answer u r = e.update u id update := by
  cases r with
  | create | delete => cases asked
  | _ =>
    cases asked
    rfl

theorem require_eq_ok_iff {e : Engine} {id : FilterId} {f : Filter} :
    e.require id = .ok f ↔ e.filters.get? id = some f := by
  unfold require Repository.get? filters
  split <;> simp_all

/-! ### What a request can do -/

/-- What a request can be answered, and the filters that are stored then. -/
inductive Outcome (e : Engine) (u : ActingUser) (r : ChangeRequest) :
    Except EngineError Filter → FilterSet → Prop
  /-- Nothing changes. -/
  | rejected (error : EngineError) : Outcome e u r (.error error) e.filters
  /-- An update of no part changes nothing. -/
  | empty {id update previous} (asked : r.update? = some (id, update))
      (isEmpty : update.isEmpty = true) (stored : e.filters.get? id = some previous) :
      Outcome e u r (.ok previous) e.filters
  | created {id request f} (asked : r = .create request) (fresh : e.filters.contains id = false)
      (prepared : e.prepareCreate u id request = .ok f) :
      Outcome e u r (.ok f) (e.filters.insert f)
  | updated {id update previous f} (asked : r.update? = some (id, update))
      (isEmpty : update.isEmpty = false) (stored : e.filters.get? id = some previous)
      (prepared : e.prepareUpdate u previous update = .ok f) :
      Outcome e u r (.ok f) (e.filters.insert f)
  | deleted {id f} (asked : r = .delete id) (stored : e.filters.get? id = some f)
      (deletable : e.ensureDeletable u f = .ok ()) :
      Outcome e u r (.ok f) (e.filters.erase id)

variable {e : Engine} {u : ActingUser}

/-- A change that the repository keeps has its outcome, one that it does not keep is rejected. -/
theorem outcome_commit {α : Type} {e' : Engine} {r : ChangeRequest} {repository : Repository}
    {filters : FilterSet} {a : α} {out : α → Filter} (same : repository.filters = e.filters)
    (h : Outcome e u r (.ok (out a)) filters) :
    Outcome e u r (e'.afterChange out (repository.commit filters a)).1
      (e'.afterChange out (repository.commit filters a)).2.filters := by
  have kept : (Repository.persist { repository with filters := filters }).2.filters = filters :=
    Repository.filters_persist _
  unfold Repository.commit
  split
  next s hs =>
    rw [hs] at kept
    rw [← kept] at h
    exact h
  next s hs =>
    show Outcome e u r (.error (.repository .io)) repository.filters
    rw [same]
    exact .rejected _

theorem create_outcome (e : Engine) (u : ActingUser) (request : FilterRequest) :
    Outcome e u (.create request) (e.create u request).1 (e.create u request).2.filters := by
  obtain ⟨id, drawn, hchoose⟩ : ∃ id drawn, e.chooseId request =
      (id, { e with repository := { e.repository with drawn := drawn } }) := by
    unfold chooseId
    split
    next id _ => exact ⟨id, e.repository.drawn, rfl⟩
    next => exact ⟨_, _, rfl⟩
  unfold create
  rw [hchoose]
  dsimp only
  split
  next => exact .rejected _
  next hfresh =>
    split
    next => exact .rejected _
    next f hf =>
      have fresh : e.filters.contains id = false := Bool.eq_false_iff.2 hfresh
      rw [Repository.insert_eq_commit]
      split
      next => exact .rejected _
      next => exact outcome_commit rfl (.created rfl fresh hf)

theorem update_outcome {r : ChangeRequest} {id : FilterId} {update : FilterUpdate}
    (asked : r.update? = some (id, update)) :
    Outcome e u r (e.update u id update).1 (e.update u id update).2.filters := by
  unfold Engine.update require Repository.get?
  cases hstored : e.repository.filters.get? id with
  | none => exact .rejected _
  | some previous =>
    dsimp only
    split
    next hempty => exact .empty asked hempty hstored
    next hempty =>
      split
      next => exact .rejected _
      next f hf =>
        rw [Repository.save_eq_commit]
        split
        next => exact outcome_commit rfl (.updated asked (Bool.eq_false_iff.2 hempty) hstored hf)
        next => exact .rejected _

theorem delete_outcome (e : Engine) (u : ActingUser) (id : FilterId) :
    Outcome e u (.delete id) (e.delete u id).1 (e.delete u id).2.filters := by
  unfold delete require
  rw [Repository.remove_eq_commit]
  unfold Repository.get?
  cases hstored : e.repository.filters.get? id with
  | none => exact .rejected _
  | some f =>
    dsimp only
    split
    next => exact .rejected _
    next hf => exact outcome_commit rfl (.deleted rfl hstored hf)

/-- **Every request has one of the outcomes.** -/
theorem answer_outcome (e : Engine) (u : ActingUser) (r : ChangeRequest) :
    Outcome e u r (e.answer u r).1 (e.answer u r).2.filters := by
  cases r with
  | create request => exact create_outcome e u request
  | delete id => exact delete_outcome e u id
  | update | setConditions | changeOwnership | rename => exact update_outcome rfl

/-! ### What a request cannot change -/

theorem afterChange_snd {α β : Type} (e : Engine) (out : α → β)
    (change : Except RepositoryError α × Repository) :
    (e.afterChange out change).2 = { e with repository := change.2 } := by
  obtain ⟨_ | a, repository⟩ := change <;> rfl

theorem create_eq (e : Engine) (u : ActingUser) (request : FilterRequest) :
    ∃ repository, (e.create u request).2 = { e with repository := repository } := by
  obtain ⟨repository, hchoose⟩ : ∃ repository,
      (e.chooseId request).2 = { e with repository := repository } := by
    unfold chooseId
    split <;> exact ⟨_, rfl⟩
  unfold create
  dsimp only
  rw [hchoose]
  split
  next => exact ⟨_, rfl⟩
  next =>
    split
    next => exact ⟨_, rfl⟩
    next => exact ⟨_, afterChange_snd ..⟩

theorem update_eq (e : Engine) (u : ActingUser) (id : FilterId) (update : FilterUpdate) :
    ∃ repository, (e.update u id update).2 = { e with repository := repository } := by
  unfold Engine.update
  split
  next => exact ⟨_, rfl⟩
  next =>
    split
    next => exact ⟨_, rfl⟩
    next =>
      split
      next => exact ⟨_, rfl⟩
      next => exact ⟨_, afterChange_snd ..⟩

theorem delete_eq (e : Engine) (u : ActingUser) (id : FilterId) :
    ∃ repository, (e.delete u id).2 = { e with repository := repository } := by
  unfold delete
  split
  next => exact ⟨_, rfl⟩
  next =>
    split
    next => exact ⟨_, rfl⟩
    next => exact ⟨_, afterChange_snd ..⟩

/-- **A request changes nothing of an engine but its repository.** -/
theorem answer_eq (e : Engine) (u : ActingUser) (r : ChangeRequest) :
    ∃ repository, (e.answer u r).2 = { e with repository := repository } := by
  cases r with
  | create request => exact create_eq e u request
  | delete id => exact delete_eq e u id
  | update | setConditions | changeOwnership | rename => exact update_eq ..

/-- A run of requests changes nothing of an engine but its repository. -/
theorem run_requests_eq (e : Engine) (rs : List (ActingUser × ChangeRequest)) :
    ∃ repository, e.run (requests rs) = { e with repository := repository } := by
  refine run_requests_induction (P := fun e' => ∃ repository, e' = { e with repository := repository })
    ?_ ⟨e.repository, rfl⟩ rs
  rintro _ u r ⟨repository, rfl⟩
  obtain ⟨repository', h⟩ := answer_eq { e with repository := repository } u r
  exact ⟨repository', h⟩

end Engine

end RecordFilters
