import RecordFilters.Proofs.Disk.Replacing
import RecordFilters.Proofs.Engine.Installing
import RecordFilters.Proofs.Engine.Run
import RecordFilters.Proofs.Filter.Stored

/-! # Opening a repository again

A repository that keeps its filters in a file writes them there with every change. Whatever has
happened since it was opened, writes that have failed included, the file is up to date.

* `Repository.KeptAt`: what is in the file of a repository.
* `Repository.openAt_of_document`: filters with finite numbers are found where their document is
  read.
* `Engine.reopened_of_run`: opening the file after a run gives the filters of the engine, if their
  numbers are finite and the text of their document is read as that document. -/

namespace RecordFilters

namespace Repository

variable {r r' : Repository} {disk disk' : Disk} {path : Path} {f : Filter} {l : List Filter}

/-! ### Finding filters again -/

/-- Filters are read from what has been stored of them. -/
theorem readFilters_map {write : Filter → StoredFilter}
    (h : ∀ f ∈ l, Filter.ofStored (write f) = .ok f) :
    readFilters path (l.map write) = .ok l := by
  unfold readFilters
  induction l with
  | nil => rfl
  | cons f r ih =>
    have hrest := ih fun g hg => h g (List.mem_cons_of_mem _ hg)
    rw [List.map_cons, List.mapM_cons, h f List.mem_cons_self, hrest]
    rfl

/-- **Filters are found where their document is read**, whatever has been written. -/
theorem openAt_of_document {s : FilterSet} {j : Json} (hstorable : ∀ f ∈ s, f.IsStorable)
    (hread : j.reread? = some s.toJson)
    (hentry : disk.entry? path = some (.file (.document j))) :
    ∃ r, openAt disk path = .ok r ∧ r.filters = s := by
  have hstored : storedFilters? (.document j) =
      some (s.toList.map fun f => f.toStored.canonical) := by
    have hlist : Document.listOf? StoredFilter.ofDocument? s.toJson =
        some (s.toList.map fun f => f.toStored.canonical) :=
      listOf?_map fun f _ => StoredFilter.ofDocument?_toJson f.toStored
    show (j.reread?).bind (Document.listOf? StoredFilter.ofDocument?) = _
    rw [hread, Option.bind_some, hlist]
  have hfilters : readFilters path (s.toList.map fun f => f.toStored.canonical) = .ok s.toList :=
    readFilters_map fun f hf => Filter.ofStored_canonical_toStored (hstorable f hf)
  obtain ⟨r, hr⟩ := exists_ofFilters_toList s
  have hsame : r.filters = s := Index.eq_of_mem_iff fun f => mem_of_ofFilters hr
  refine ⟨{ r with backing := some ⟨path, disk⟩ }, ?_, hsame⟩
  unfold openAt
  simp only [hentry, hstored, hfilters]
  show (ofFilters s.toList).bind _ = _
  rw [hr]
  rfl

/-- What is found in a file depends on the disk only by what the path leads to. -/
theorem openAt_eq_map (hentry : disk'.entry? path = disk.entry? path) :
    openAt disk' path =
      (openAt disk path).map fun r => { r with backing := some ⟨path, disk'⟩ } := by
  unfold openAt
  rw [hentry]
  split
  next => rfl
  next => rfl
  next content _ =>
    split
    next => rfl
    next stored _ =>
      generalize readFilters path stored = filters
      cases filters with
      | error error => rfl
      | ok filters =>
        show (ofFilters filters).bind _ = ((ofFilters filters).bind _).map _
        cases ofFilters filters <;> rfl

/-! ### Keeping a file up to date -/

/-- A repository whose filters are in a file: as they were found there when it was opened, or as
their document. -/
def KeptAt (path : Path) (r : Repository) : Prop := ∃ disk, r.backing = some ⟨path, disk⟩ ∧
  ((∃ r', openAt disk path = .ok r' ∧ r'.filters = r.filters) ∨
    disk.entry? path = some (.file (.document r.filters.toJson)))

theorem backing_of_openAt (h : openAt disk path = .ok r) : r.backing = some ⟨path, disk⟩ := by
  have hmap : openAt disk path =
      (openAt disk path).map fun r => { r with backing := some ⟨path, disk⟩ } := openAt_eq_map rfl
  rw [h] at hmap
  exact congrArg Repository.backing (Except.ok.inj hmap)

theorem keptAt_of_openAt (h : openAt disk path = .ok r) : r.KeptAt path :=
  ⟨disk, backing_of_openAt h, .inl ⟨r, h, rfl⟩⟩

namespace KeptAt

/-- **A change keeps the file up to date**, whether or not it could be written. -/
theorem commit {α : Type} (h : r.KeptAt path) (filters : FilterSet) (a : α) :
    (r.commit filters a).2.KeptAt path := by
  obtain ⟨disk, hbacking, hkept⟩ := h
  rw [commit_of_backing hbacking]
  rcases hreplace : disk.replace path (.document filters.toJson) with ⟨done, disk'⟩
  cases done with
  | true => exact ⟨disk', rfl, .inr (Disk.entry?_of_replace hreplace)⟩
  | false =>
    have hentry : disk'.entry? path = disk.entry? path := Disk.entry?_of_replace_failed hreplace
    refine ⟨disk', rfl, ?_⟩
    rcases hkept with ⟨r', hr', hsame⟩ | hdocument
    · refine .inl ⟨{ r' with backing := some ⟨path, disk'⟩ }, ?_, hsame⟩
      rw [openAt_eq_map hentry, hr']
      rfl
    · exact .inr (hentry.trans hdocument)

theorem insert (h : r.KeptAt path) (f : Filter) : (r.insert f).2.KeptAt path := by
  rw [insert_eq_commit]
  split
  · exact h
  · exact h.commit _ _

theorem save (h : r.KeptAt path) (f : Filter) : (r.save f).2.KeptAt path := by
  rw [save_eq_commit]
  split
  · exact h.commit _ _
  · exact h

theorem remove (h : r.KeptAt path) (id : FilterId) : (r.remove id).2.KeptAt path := by
  rw [remove_eq_commit]
  split
  · exact h.commit _ _
  · exact h

theorem nextId (h : r.KeptAt path) (idPrefix entityType : String) :
    (r.nextId idPrefix entityType).2.KeptAt path := h

end KeptAt

end Repository

/-! ### Engines -/

namespace Engine

open Repository

variable {e : Engine} {r r' repository : Repository} {path : Path} {disk : Disk}

theorem keptAt_afterChange {α β : Type} {answer : α → β}
    {change : Except RepositoryError α × Repository} (h : change.2.KeptAt path) :
    (e.afterChange answer change).2.repository.KeptAt path := by
  rw [afterChange_snd]
  exact h

theorem keptAt_create (h : e.repository.KeptAt path) (u : ActingUser) (request : FilterRequest) :
    (e.create u request).2.repository.KeptAt path := by
  have hdrawn : (e.chooseId request).2.repository.KeptAt path := by
    unfold chooseId
    split
    · exact h
    · exact h.nextId _ _
  unfold create
  dsimp only
  split
  · exact hdrawn
  · split
    · exact hdrawn
    · exact keptAt_afterChange (hdrawn.insert _)

theorem keptAt_update (h : e.repository.KeptAt path) (u : ActingUser) (id : FilterId)
    (update : FilterUpdate) : (e.update u id update).2.repository.KeptAt path := by
  unfold Engine.update
  split
  · exact h
  · split
    · exact h
    · split
      · exact h
      · exact keptAt_afterChange (h.save _)

theorem keptAt_delete (h : e.repository.KeptAt path) (u : ActingUser) (id : FilterId) :
    (e.delete u id).2.repository.KeptAt path := by
  unfold delete
  split
  · exact h
  · split
    · exact h
    · exact keptAt_afterChange (h.remove _)

/-- **Every request keeps the file up to date.** -/
theorem keptAt_answer (h : e.repository.KeptAt path) (u : ActingUser) (request : ChangeRequest) :
    (e.answer u request).2.repository.KeptAt path := by
  cases request with
  | create request => exact keptAt_create h u request
  | delete id => exact keptAt_delete h u id
  | update | setConditions | changeOwnership | rename => exact keptAt_update h u _ _

theorem keptAt_run (h : e.repository.KeptAt path) (events : List Event) :
    (e.run events).repository.KeptAt path := by
  refine run_induction (P := fun e => e.repository.KeptAt path) ?_ h events
  intro e event h
  cases event with
  | request u request => exact keptAt_answer h u request
  | schema | directory => exact h

theorem keptAt_insertEach (h : r.KeptAt path) (filters : List Filter) :
    (insertEach r filters).2.KeptAt path := by
  induction filters generalizing r with
  | nil => exact h
  | cons f rest ih =>
    have hinsert := h.insert f
    unfold insertEach
    split
    next r' hr' =>
      rw [hr'] at hinsert
      exact ih hinsert
    next error r' hr' =>
      rw [hr'] at hinsert
      exact hinsert

theorem keptAt_install (h : r.KeptAt path) (catalogs : Catalogs) (schema : Schema)
    (maxDepth : Nat) (today : Day) (filters : List Filter) :
    (install catalogs schema maxDepth today filters r).2.KeptAt path := by
  unfold install
  dsimp only
  split
  · exact h
  · exact keptAt_insertEach h _

/-- The system filters that an engine starts with are written to the file as well. -/
theorem keptAt_build {plan : EnginePlan} {today : Day} (h : repository.KeptAt path)
    (hbuild : build plan disk today repository = (.ok e, r')) : e.repository.KeptAt path := by
  unfold build at hbuild
  dsimp only at hbuild
  split at hbuild
  next => cases hbuild
  next engine systemFilters _ =>
    have hinstall := keptAt_install h engine.catalogs engine.schema engine.config.maxDepth today
      systemFilters
    split at hbuild
    next => cases hbuild
    next hinstalled =>
      rw [hinstalled] at hinstall
      cases hbuild
      exact hinstall

/-- **Opening the file after a run gives the filters of the engine.** -/
theorem reopened_of_run {plan : EnginePlan} {today : Day}
    (hopen : openAt disk path = .ok repository)
    (hbuild : build plan disk today repository = (.ok e, r')) (events : List Event)
    (hstorable : ∀ f ∈ (e.run events).filters, f.IsStorable)
    (hread : (e.run events).filters.toJson.reread? = some (e.run events).filters.toJson) :
    ∃ disk' reopened, (e.run events).repository.backing = some ⟨path, disk'⟩ ∧
      openAt disk' path = .ok reopened ∧ reopened.filters = (e.run events).filters ∧
      ({ e.run events with repository := reopened } : Engine).evaluator =
        (e.run events).evaluator := by
  have hkeptAt : (e.run events).repository.KeptAt path :=
    keptAt_run (keptAt_build (keptAt_of_openAt hopen) hbuild) events
  obtain ⟨disk', hbacking, hkept⟩ := hkeptAt
  obtain ⟨reopened, hreopened, hsame⟩ : ∃ reopened, openAt disk' path = .ok reopened ∧
      reopened.filters = (e.run events).filters := by
    rcases hkept with hunwritten | hdocument
    · exact hunwritten
    · exact openAt_of_document hstorable hread hdocument
  refine ⟨disk', reopened, hbacking, hreopened, hsame, ?_⟩
  unfold evaluator filters
  rw [hsame]
  rfl

/-! ### A number that is lost -/

/-- An engine over an empty file, for people with an age. -/
def ageDesk : Engine where
  config := {}
  schema := {
    entityTypes := .ofList [⟨"person", .ofList [{ name := "age", kind := .number }]⟩]
    propertyTypes := .ofList [{ id := "vip" }] }
  directory := { users := .ofList ["ann"] }
  storage := {}
  repository := { backing := some ⟨"filters.json", {}⟩ }

/-- What the engine is made of. -/
def agePlan : EnginePlan where
  schema := some ageDesk.schema
  directory := some ageDesk.directory
  storage := some ageDesk.storage

/-- The run in which a filter of one condition is asked for. -/
def asking (id : FilterId) (d : Descriptor) : List Event :=
  requests [({ id := "ann" },
    .create { id := some id, name := "People", entityType := "person", conditions := [d] })]

/-- The filter of that condition. -/
def people (id : FilterId) (c : Condition) : Filter where
  id := id
  name := "People"
  entityType := "person"
  conditions := [c]
  conditions_ne_nil := c.singleton_ne_nil

/-- The document of a set of one filter. -/
theorem toJson_singleton {s : FilterSet} {f : Filter} (h : s.toList = [f]) :
    s.toJson = .array [f.toJson] := by
  unfold FilterSet.toJson
  rw [h]
  rfl

theorem filters_guests : (ageDesk.run (asking "guests" (.property "vip" true))).filters.toList =
    [people "guests" (.onProperty "vip" true)] := by
  cbv

theorem reopened_of_run_guests :
    ∃ disk reopened,
      (ageDesk.run (asking "guests" (.property "vip" true))).repository.backing =
        some ⟨"filters.json", disk⟩ ∧
      openAt disk "filters.json" = .ok reopened ∧
      reopened.filters.toList = [people "guests" (.onProperty "vip" true)] := by
  have hopen : openAt {} "filters.json" = .ok ageDesk.repository := rfl
  have hbuild : build agePlan {} ⟨2024, 1, 1, by decide, by decide, by decide⟩ ageDesk.repository =
      (.ok ageDesk, ageDesk.repository) := rfl
  have hlist := filters_guests
  obtain ⟨disk, reopened, hbacking, hreopened, hsame, -⟩ :=
    reopened_of_run hopen hbuild (asking "guests" (.property "vip" true)) (by
      intro f hf
      rw [Index.mem_def, hlist, List.mem_singleton] at hf
      subst hf
      intro c hc
      obtain rfl := List.mem_singleton.1 hc
      trivial) (by
      rw [toJson_singleton hlist]
      rfl)
  refine ⟨disk, reopened, hbacking, hreopened, ?_⟩
  rw [hsame, hlist]

/-- People whose age is below a bound. -/
def youngerThan (bound : Value) : Condition := ⟨.field, "age", .comparison 11 [bound], rfl⟩

theorem filters_endless :
    (ageDesk.run (asking "young" (.field "age" 11 [.text "inf"]))).filters.toList =
      [people "young" (youngerThan (.number (.infinite false)))] := by
  cbv

theorem entry?_endless :
    ((ageDesk.run (asking "young" (.field "age" 11 [.text "inf"]))).repository.backing.bind
      fun b => b.disk.entry? b.path) = some (.file (.document
        (.array [(people "young" (youngerThan (.number (.infinite false)))).toJson]))) := by
  cbv

/-- An infinite bound is accepted and written as null, and null is what is found again. -/
theorem openAt_endless (hentry : disk.entry? "filters.json" = some (.file (.document
      (.array [(people "young" (youngerThan (.number (.infinite false)))).toJson])))) :
    ∃ reopened, openAt disk "filters.json" = .ok reopened ∧
      reopened.filters.toList = [people "young" (youngerThan .null)] := by
  have hstored : storedFilters? (.document
      (.array [(people "young" (youngerThan (.number (.infinite false)))).toJson])) =
      some [(people "young" (youngerThan .null)).toStored] := rfl
  have hfilters : readFilters "filters.json" [(people "young" (youngerThan .null)).toStored] =
      .ok [people "young" (youngerThan .null)] := rfl
  refine ⟨{ filters := .ofList [people "young" (youngerThan .null)]
            backing := some ⟨"filters.json", disk⟩ }, ?_, rfl⟩
  unfold openAt
  simp only [hentry, hstored, hfilters]
  rfl

/-- **A filter comes back as another one** if its numbers are not all finite. -/
theorem reopened_endless_ne :
    openAt {} "filters.json" = .ok ageDesk.repository ∧
      (ageDesk.run (asking "young" (.field "age" 11 [.text "inf"]))).filters.toList =
        [people "young" (youngerThan (.number (.infinite false)))] ∧
      ∃ disk reopened,
        (ageDesk.run (asking "young" (.field "age" 11 [.text "inf"]))).repository.backing =
          some ⟨"filters.json", disk⟩ ∧
        openAt disk "filters.json" = .ok reopened ∧
        reopened.filters.toList = [people "young" (youngerThan .null)] := by
  have hopen : openAt {} "filters.json" = .ok ageDesk.repository := rfl
  have hentry := entry?_endless
  obtain ⟨disk, hbacking, -⟩ := keptAt_run (keptAt_of_openAt hopen)
    (asking "young" (.field "age" 11 [.text "inf"]))
  rw [hbacking, Option.bind_some] at hentry
  obtain ⟨reopened, hreopened, hlist⟩ := openAt_endless hentry
  exact ⟨hopen, filters_endless, disk, reopened, hbacking, hreopened, hlist⟩

end Engine

end RecordFilters
