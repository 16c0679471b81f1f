import RecordFilters.Proofs.Filter.Written
import RecordFilters.Proofs.Repository.Finding
import RecordFilters.Proofs.Repository.Reopening

/-! # Memory and file

A repository that keeps its filters in a file holds them twice, and every change has two steps on
the disk, each of which may fail. Whatever fails and however often, the file and the memory do not
part: a change happens in both or in neither.

* `Repository.Performed`: what becomes of a change.
* `Repository.Settled`: a change happens in memory and file, or in neither.
* `Repository.Consistent`: the file is as it was found, or it holds the document of the filters.
* `Repository.consistent_of_attempts`: so it is after any attempts at changes, and what is found in
  the file then are the filters of the repository, if the text of their document is read as that
  document. -/

namespace RecordFilters

/-- A change that a repository is asked for. -/
inductive RepositoryChange
  | insert (f : Filter)
  | save (f : Filter)
  | remove (id : FilterId)

/-- The filter that a change brings in. -/
def RepositoryChange.incoming? : RepositoryChange → Option Filter
  | insert f | save f => some f
  | remove _ => none

/-- An attempt at a change of the repository in a file. Before it, anything may have happened to the
disk but to that file: a step fails from now on or works again, something stands in the way of the
temporary file or is gone. -/
structure Attempt (path : Path) where
  change : RepositoryChange
  disturb : Disk → Disk
  entry?_disturb : ∀ d, Disk.entry? (disturb d) path = d.entry? path

/-! ### Disks -/

namespace Disk

/-- Both steps work by which a document takes the place of a file. -/
def Takes (d : Disk) (p : Path) (content : Content) : Prop :=
  ∃ written renamed, d.write? (temporary p) content = some written ∧
    written.rename? (temporary p) p = some renamed

theorem replace_fst_iff (d : Disk) (p : Path) (content : Content) :
    (d.replace p content).1 = true ↔ d.Takes p content := by
  unfold replace Takes
  cases hwritten : d.write? (temporary p) content with
  | none => simp
  | some written => cases hrenamed : written.rename? (temporary p) p <;> simp [hrenamed]

/-- Whether a step fails does not matter to what is there. -/
theorem entry?_broken (d : Disk) (step : Option DiskStep) (p : Path) :
    Disk.entry? { d with broken := step } p = d.entry? p := by
  have hsame : SameDirectories d { d with broken := step } := fun l => by cases l <;> rfl
  have hat : ∀ l, ({ d with broken := step } : Disk).entryAt? l = d.entryAt? l :=
    fun l => by cases l <;> rfl
  unfold entry?
  rw [hsame.locate?_eq]
  exact congrArg _ (funext hat)

end Disk

/-- An attempt at a change while a step on the disk fails, or while none does. -/
def Attempt.onDisk (path : Path) (broken : Option DiskStep) (change : RepositoryChange) :
    Attempt path :=
  ⟨change, fun d => { d with broken := broken }, fun d => d.entry?_broken broken path⟩

namespace Repository

variable {r opened : Repository} {d disk : Disk} {path : Path} {s : FilterSet}

/-! ### Changes -/

/-- A change with another form of its answer. -/
def answering {α β : Type} (form : α → β) (change : Except RepositoryError α × Repository) :
    Except RepositoryError β × Repository :=
  (change.1.map form, change.2)

/-- A change of a repository; the answer is the filter that has been taken out, if any. -/
def perform (r : Repository) :
    RepositoryChange → Except RepositoryError (Option Filter) × Repository
  | .insert f => answering (fun _ => none) (r.insert f)
  | .save f => answering (fun _ => none) (r.save f)
  | .remove id => answering some (r.remove id)

/-- The same change in memory alone. -/
def performInMemory (r : Repository) :
    RepositoryChange → Except RepositoryError (Option Filter) × Repository
  | .insert f => answering (fun _ => none) (r.insertInMemory f)
  | .save f => answering (fun _ => none) (r.saveInMemory f)
  | .remove id => answering some (r.removeInMemory id)

theorem answering_commit {α β : Type} (form : α → β) (filters : FilterSet) (a : α) :
    answering form (r.commit filters a) = r.commit filters (form a) := by
  unfold answering commit
  split <;> rfl

/-- **What a change does.** If it cannot be made in memory, it has no effect. Otherwise the memory
alone would hold other filters, and it is these that are to be written. -/
theorem perform_cases (r : Repository) (c : RepositoryChange) :
    (∃ e, r.performInMemory c = (.error e, r) ∧ r.perform c = (.error e, r)) ∨
    ∃ filters answer, r.performInMemory c = (.ok answer, { r with filters := filters }) ∧
      r.perform c = r.commit filters answer ∧
      ∀ f ∈ filters, f ∈ r.filters ∨ c.incoming? = some f := by
  have of_insert : ∀ f g, g ∈ r.filters.insert f → g ∈ r.filters ∨ some f = some g := by
    intro f g hg
    rcases Index.mem_insert.1 hg with rfl | ⟨hg, -⟩
    · exact .inr rfl
    · exact .inl hg
  cases c with
  | insert f =>
    unfold perform performInMemory insertInMemory
    dsimp only
    rw [insert_eq_commit]
    split
    · exact .inl ⟨_, rfl, rfl⟩
    · exact .inr ⟨_, none, rfl, answering_commit _ _ _, of_insert f⟩
  | save f =>
    unfold perform performInMemory saveInMemory
    dsimp only
    rw [save_eq_commit]
    split
    · exact .inr ⟨_, none, rfl, answering_commit _ _ _, of_insert f⟩
    · exact .inl ⟨_, rfl, rfl⟩
  | remove id =>
    unfold perform performInMemory removeInMemory
    dsimp only
    rw [remove_eq_commit]
    cases r.get? id with
    | none => exact .inl ⟨_, rfl, rfl⟩
    | some f =>
      refine .inr ⟨_, some f, rfl, answering_commit _ _ _, fun g hg => .inl ?_⟩
      exact (Index.mem_erase.1 hg).1

/-! ### One attempt -/

/-- What becomes of a change of a repository in a file. -/
inductive Performed (path : Path) (d : Disk) (r : Repository) (c : RepositoryChange) :
    Except RepositoryError (Option Filter) × Repository → Prop
  /-- The memory refuses it, and nothing is written. -/
  | refused {e} (memory : r.performInMemory c = (.error e, r)) : Performed path d r c (.error e, r)
  /-- A step on the disk fails, and the change is undone. -/
  | undone {answer filters d'}
      (memory : r.performInMemory c = (.ok answer, { r with filters := filters }))
      (not_takes : ¬ d.Takes path (.document filters.toJson))
      (entry : d'.entry? path = d.entry? path) :
      Performed path d r c (.error .io, { r with backing := some ⟨path, d'⟩ })
  /-- Both steps work. -/
  | kept {answer filters d'}
      (memory : r.performInMemory c = (.ok answer, { r with filters := filters }))
      (takes : d.Takes path (.document filters.toJson))
      (entry : d'.entry? path = some (.file (.document filters.toJson)))
      (incoming : ∀ f ∈ filters, f ∈ r.filters ∨ c.incoming? = some f) :
      Performed path d r c (.ok answer, { r with filters := filters, backing := some ⟨path, d'⟩ })

theorem performed_of_backing (hbacking : r.backing = some ⟨path, d⟩) (c : RepositoryChange) :
    Performed path d r c (r.perform c) := by
  rcases r.perform_cases c with ⟨e, hmemory, hperform⟩ | ⟨filters, answer, hmemory, hperform, hin⟩
  · rw [hperform]
    exact .refused hmemory
  · have htakes := d.replace_fst_iff path (.document filters.toJson)
    rw [hperform, commit_of_backing hbacking]
    rcases hreplace : d.replace path (.document filters.toJson) with ⟨done, d'⟩
    rw [hreplace] at htakes
    cases done with
    | true => exact .kept hmemory (htakes.1 rfl) (Disk.entry?_of_replace hreplace) hin
    | false =>
      have hfailed : ¬ d.Takes path (.document filters.toJson) := fun h => nomatch htakes.2 h
      exact .undone hmemory hfailed (Disk.entry?_of_replace_failed hreplace)

/-- What an attempt at a change comes to, over the disk as it is then. -/
structure Settled (path : Path) (d : Disk) (r : Repository) (c : RepositoryChange) : Prop where
  /-- It is accepted if the memory alone would accept it and both steps on the disk work. -/
  ok_iff : ∀ answer, (r.perform c).1 = .ok answer ↔ (r.performInMemory c).1 = .ok answer ∧
    d.Takes path (.document (r.performInMemory c).2.filters.toJson)
  /-- Then the filters are those that the memory alone would hold. -/
  filters_of_ok : ∀ answer, (r.perform c).1 = .ok answer →
    (r.perform c).2.filters = (r.performInMemory c).2.filters
  /-- Else the filters and the file are what they were. -/
  same_of_error : ∀ e, (r.perform c).1 = .error e → (r.perform c).2.filters = r.filters ∧
    ∃ d', (r.perform c).2.backing = some ⟨path, d'⟩ ∧ d'.entry? path = d.entry? path
  /-- The error is that of the memory, or the disk has failed. -/
  error_cases : ∀ e, (r.perform c).1 = .error e → (r.performInMemory c).1 = .error e ∨
    (∃ answer, (r.performInMemory c).1 = .ok answer) ∧ e = .io

/-- **A change happens in memory and file, or in neither.** -/
theorem settled_of_backing (hbacking : r.backing = some ⟨path, d⟩) (c : RepositoryChange) :
    Settled path d r c := by
  have h := performed_of_backing hbacking c
  generalize hresult : r.perform c = result at h
  cases h with
  | refused hmemory =>
    constructor <;> simp only [hresult, hmemory]
    · exact fun answer => ⟨nofun, fun h => nomatch h.1⟩
    · exact nofun
    · exact fun e' _ => ⟨trivial, d, hbacking, rfl⟩
    · exact fun e' h => .inl h
  | @undone answer filters d' hmemory hfailed hentry =>
    constructor <;> simp only [hresult, hmemory]
    · exact fun answer' => ⟨nofun, fun h => absurd h.2 hfailed⟩
    · exact nofun
    · exact fun e _ => ⟨trivial, d', rfl, hentry⟩
    · exact fun e h => .inr ⟨⟨answer, rfl⟩, (Except.error.inj h).symm⟩
  | kept hmemory htakes =>
    constructor <;> simp only [hresult, hmemory]
    · exact fun answer' => ⟨fun h => ⟨h, htakes⟩, fun h => h.1⟩
    · exact fun answer' _ => trivial
    · exact nofun
    · exact nofun

/-! ### Any number of attempts -/

/-- The repository over a disk to which something has happened. -/
def disturbed (r : Repository) (disturb : Disk → Disk) : Repository :=
  { r with backing := r.backing.map fun b => { b with disk := disturb b.disk } }

/-- An attempt at a change, with the answer. -/
def attempt (r : Repository) (a : Attempt path) :
    Except RepositoryError (Option Filter) × Repository :=
  (r.disturbed a.disturb).perform a.change

theorem attempt_onDisk (r : Repository) (path : Path) (broken : Option DiskStep)
    (c : RepositoryChange) : r.attempt (.onDisk path broken c) =
      (r.disturbed fun d => { d with broken := broken }).perform c := rfl

/-- The repository after some attempts. -/
def afterAttempts (r : Repository) (attempts : List (Attempt path)) : Repository :=
  attempts.foldl (fun r a => (r.attempt a).2) r

/-- A repository over a disk, as it is kept since it was opened: the file is as it was found then
and the filters are those that were found, or the file holds the document of the filters. -/
structure Consistent (disk : Disk) (opened : Repository) (path : Path) (d : Disk)
    (r : Repository) : Prop where
  backing : r.backing = some ⟨path, d⟩
  file : (d.entry? path = disk.entry? path ∧ r.filters = opened.filters) ∨
    d.entry? path = some (.file (.document r.filters.toJson))
  isOrdered : ∀ f ∈ r.filters, f.IsOrdered

namespace Consistent

theorem of_entry? (h : Consistent disk opened path d r) {d' : Disk} {r' : Repository}
    (hbacking : r'.backing = some ⟨path, d'⟩) (hfilters : r'.filters = r.filters)
    (hentry : d'.entry? path = d.entry? path) : Consistent disk opened path d' r' := by
  refine ⟨hbacking, ?_, ?_⟩
  · rw [hentry, hfilters]
    exact h.file
  · rw [hfilters]
    exact h.isOrdered

/-- **What a change keeps**, whatever fails. -/
theorem perform (h : Consistent disk opened path d r) {c : RepositoryChange}
    (hordered : ∀ f, c.incoming? = some f → f.IsOrdered) :
    ∃ d', Consistent disk opened path d' (r.perform c).2 := by
  have hperformed := performed_of_backing h.backing c
  generalize r.perform c = result at hperformed
  cases hperformed with
  | refused => exact ⟨d, h⟩
  | undone _ _ hentry => exact ⟨_, h.of_entry? rfl rfl hentry⟩
  | kept _ _ hentry hincoming =>
    refine ⟨_, rfl, .inr hentry, fun f hf => ?_⟩
    rcases hincoming f hf with hf | hf
    · exact h.isOrdered f hf
    · exact hordered f hf

theorem disturbed (h : Consistent disk opened path d r) (a : Attempt path) :
    Consistent disk opened path (a.disturb d) (r.disturbed a.disturb) := by
  refine h.of_entry? ?_ rfl (a.entry?_disturb d)
  unfold Repository.disturbed
  rw [h.backing]
  rfl

theorem afterAttempts (h : Consistent disk opened path d r) {attempts : List (Attempt path)}
    (hordered : ∀ a ∈ attempts, ∀ f, a.change.incoming? = some f → f.IsOrdered) :
    ∃ d', Consistent disk opened path d' (r.afterAttempts attempts) := by
  induction attempts generalizing d r with
  | nil => exact ⟨d, h⟩
  | cons a attempts ih =>
    obtain ⟨ha, hordered⟩ := List.forall_mem_cons.1 hordered
    obtain ⟨d', h'⟩ := (h.disturbed a).perform ha
    exact ih h' hordered

end Consistent

/-! ### Reading the file -/

/-- Filters are found in their document, with null for every number that it cannot hold. -/
theorem openAt_of_ordered (hordered : ∀ f ∈ s, f.IsOrdered)
    (hread : s.toJson.reread? = some s.toJson)
    (hentry : d.entry? path = some (.file (.document s.toJson))) :
    ∃ found, openAt d path = .ok found ∧ found.filters = s.written := by
  rw [← FilterSet.toJson_written s] at hread hentry
  exact openAt_of_document (FilterSet.isStorable_written hordered) hread hentry

/-- A file that is as it was when the repository was opened still holds what was found then. -/
theorem openAt_of_untouched
    (hcontent : ∀ content, disk.entry? path = some (.file content) → content.InBounds)
    (hopen : openAt disk path = .ok opened) (hentry : d.entry? path = disk.entry? path) :
    ∃ found, openAt d path = .ok found ∧ found.filters = opened.filters.written := by
  refine ⟨{ opened with backing := some ⟨path, d⟩ }, ?_, ?_⟩
  · rw [openAt_eq_map hentry, hopen]
    rfl
  · exact (FilterSet.written_eq_self (isStorable_of_openAt hcontent hopen)).symm

/-- **Memory and file do not part.** A repository is opened, and any changes are attempted while any
steps on the disk fail. Then the file is as it was when the repository was opened, and the filters
are those that were found in it, or the file holds the document of the filters. What is found in the
file are the filters, with null for every number that is not finite; if they have been written, this
takes it that the text of their document is read as that document. And whatever is attempted next is
settled: it happens in memory and file, or in neither. -/
theorem consistent_of_attempts
    (hcontent : ∀ content, disk.entry? path = some (.file content) → content.InBounds)
    (hopen : openAt disk path = .ok opened) (attempts : List (Attempt path))
    (hordered : ∀ a ∈ attempts, ∀ f, a.change.incoming? = some f → f.IsOrdered) :
    ∃ d, Consistent disk opened path d (opened.afterAttempts attempts) ∧
      ((d.entry? path = disk.entry? path ∧
          (opened.afterAttempts attempts).filters = opened.filters) ∨
        (opened.afterAttempts attempts).filters.toJson.reread? =
          some (opened.afterAttempts attempts).filters.toJson →
        ∃ found, openAt d path = .ok found ∧
          found.filters = (opened.afterAttempts attempts).filters.written) ∧
      ∀ a : Attempt path, Settled path (a.disturb d)
        ((opened.afterAttempts attempts).disturbed a.disturb) a.change := by
  have hfound := isStorable_of_openAt hcontent hopen
  have hstart : Consistent disk opened path disk opened :=
    ⟨backing_of_openAt hopen, .inl ⟨rfl, rfl⟩, fun f hf => (hfound f hf).isOrdered⟩
  obtain ⟨d, hconsistent⟩ := hstart.afterAttempts hordered
  refine ⟨d, hconsistent, fun hread => ?_, fun a => ?_⟩
  · have huntouched : d.entry? path = disk.entry? path ∧
        (opened.afterAttempts attempts).filters = opened.filters →
        ∃ found, openAt d path = .ok found ∧
          found.filters = (opened.afterAttempts attempts).filters.written := by
      rintro ⟨hentry, hfilters⟩
      rw [hfilters]
      exact openAt_of_untouched hcontent hopen hentry
    rcases hconsistent.file with hsame | hentry
    · exact huntouched hsame
    · rcases hread with hsame | hread
      · exact huntouched hsame
      · exact openAt_of_ordered hconsistent.isOrdered hread hentry
  · exact settled_of_backing (hconsistent.disturbed a).backing a.change

/-! ### Parcels -/

/-- A repository whose file is not there yet. -/
def unwritten : Repository := { backing := some ⟨"filters.json", {}⟩ }

/-- The filter of parcels whose mass is below a bound. -/
def lightParcels (bound : Number) : Filter where
  id := "light"
  name := "Light"
  entityType := "parcel"
  conditions := [⟨.field, "mass", .comparison 11 [.number bound], rfl⟩]
  conditions_ne_nil := by simp

theorem isOrdered_lightParcels (bound : Number) : (lightParcels bound).IsOrdered := by
  intro c hc
  obtain rfl := List.mem_singleton.1 hc
  intro v hv
  obtain rfl := List.mem_singleton.1 hv
  exact .number bound

/-- A filter without a bound is added; then replacing it fails at the second step on the disk, and
taking it out at the first. -/
def mishaps : List (Attempt "filters.json") :=
  [.onDisk _ none (.insert (lightParcels (.infinite false))),
    .onDisk _ (some .rename) (.save (lightParcels .nan)),
    .onDisk _ (some .write) (.remove "light")]

theorem filters_mishaps :
    (unwritten.afterAttempts mishaps).filters.toList = [lightParcels (.infinite false)] := rfl

theorem consistent_of_attempts_mishaps :
    (unwritten.afterAttempts mishaps).filters.toList = [lightParcels (.infinite false)] ∧
      ∃ d found, (unwritten.afterAttempts mishaps).backing = some ⟨"filters.json", d⟩ ∧
        openAt d "filters.json" = .ok found ∧
        found.filters.toList = [(lightParcels (.infinite false)).written] ∧
        ∀ a : Attempt "filters.json", Settled "filters.json" (a.disturb d)
          ((unwritten.afterAttempts mishaps).disturbed a.disturb) a.change := by
  have hopen : openAt {} "filters.json" = .ok unwritten := rfl
  have hnothing : Disk.entry? {} "filters.json" = none := rfl
  have hlist := filters_mishaps
  obtain ⟨d, hconsistent, hfound, hsettled⟩ := consistent_of_attempts
    (by rw [hnothing]; nofun) hopen mishaps (by
      intro a ha f hf
      simp only [mishaps, List.mem_cons, List.not_mem_nil, or_false] at ha
      rcases ha with rfl | rfl | rfl <;> cases hf <;> exact isOrdered_lightParcels _)
  obtain ⟨found, hopened, hsame⟩ := hfound (.inr (by
    rw [Engine.toJson_singleton hlist]
    rfl))
  refine ⟨hlist, d, found, hconsistent.backing, hopened, ?_, hsettled⟩
  rw [hsame]
  show (unwritten.afterAttempts mishaps).filters.toList.map Filter.written = _
  rw [hlist, List.map_singleton]

/-- The document of this filter, with a document for the bound. -/
def lightParcelsJson (bound : Json) : Json :=
  .object [("id", .string "light"), ("name", .string "Light"), ("entity_type", .string "parcel"),
    ("filter_type", .string "regular"), ("is_custom", .bool true), ("use_or", .bool false),
    ("owner", .null),
    ("conditions", .array [.object [("kind", .whole 5), ("ref", .string "mass"),
      ("value", .object [("operator", .whole 11), ("values", .array [bound])])]])]

theorem toJson_lightParcels {n : Number} (h : n.isFinite = true) :
    (lightParcels n).toJson = lightParcelsJson (.real n) := by
  have hn : (Value.number n).toJson = .real n := by rw [Value.toJson, if_pos h]
  rw [← hn]
  rfl

theorem reread?_lightParcelsJson {n m : Number} (h : Json.rereadNumber? n = some (.real m)) :
    (Json.array [lightParcelsJson (.real n)]).reread? =
      some (.array [lightParcelsJson (.real m)]) := by
  have hdepth : (Json.array [lightParcelsJson (.real n)]).depth = 6 := rfl
  have htree : (Json.array [lightParcelsJson (.real n)]).rereadTree? =
      some (.array [lightParcelsJson (.real m)]) := by
    simp [lightParcelsJson, Json.rereadTree?, Json.rereadItems?, Json.rereadMembers?, h]
  rw [Json.reread?, hdepth, if_pos (by decide), htree]

/-- A bound that is written with seventeen digits. -/
def bound : Number := .ofInt 500000000000000040000000000000000

/-- The number that is read from these digits, in rounded steps. -/
def rounded : Number := .ofInt 500000000000000000000000000000000

/-- All that has to be computed of these two numbers. -/
theorem bound_spec : bound.isFinite = true ∧ rounded.isFinite = true ∧ rounded ≠ bound ∧
    NumberLayout.stored.write bound = "5.0000000000000004e+32" ∧
    Number.ofRank false (Json.scaledRank 50000000000000004 16) = rounded := by
  decide +kernel

theorem rereadNumber?_bound : Json.rereadNumber? bound = some (.real rounded) := by
  obtain ⟨hfinite, hroundedFinite, -, hwritten, hrounded⟩ := bound_spec
  have hnumeral : Json.readNumeral "5.0000000000000004e+32".toList =
      some (Json.floating? false ['5'] "0000000000000004".toList 32) := rfl
  have hwhole : Json.continueDigits 0 ['5'] = (5, []) := by decide
  have hdigits : Json.continueDigits 5 "0000000000000004".toList = (50000000000000004, []) := by
    decide
  have hfloating : Json.floating? false ['5'] "0000000000000004".toList 32 =
      some (.real rounded) := by
    rw [Json.floating?, hwhole]
    dsimp only
    rw [hdigits]
    show (if (Number.ofRank false (Json.scaledRank 50000000000000004 16)).isFinite = true then
      some (Json.real (Number.ofRank false (Json.scaledRank 50000000000000004 16))) else none) = _
    rw [hrounded, if_pos hroundedFinite]
  rw [Json.rereadNumber?, if_pos hfinite, hwritten, hnumeral, hfloating]
  rfl

/-- The only attempt is that of adding one filter, and no step fails. -/
def insertion (f : Filter) : List (Attempt "filters.json") := [.onDisk _ none (.insert f)]

theorem entry?_of_insertion {f : Filter} (hordered : f.IsOrdered) : ∃ d,
    (unwritten.afterAttempts (insertion f)).backing = some ⟨"filters.json", d⟩ ∧
    d.entry? "filters.json" = some (.file (.document (.array [f.toJson]))) := by
  have hstart : Consistent {} unwritten "filters.json" {} unwritten :=
    ⟨rfl, .inl ⟨rfl, rfl⟩, fun f hf => absurd hf Index.not_mem_empty⟩
  have hlist : (unwritten.afterAttempts (insertion f)).filters.toList = [f] := by
    unfold afterAttempts insertion
    rw [List.foldl_cons, List.foldl_nil, attempt_onDisk]
    rfl
  have hincoming : ∀ a ∈ insertion f, ∀ g, a.change.incoming? = some g → g.IsOrdered := by
    intro a ha g hg
    obtain rfl := List.mem_singleton.1 ha
    cases hg
    exact hordered
  obtain ⟨d, hbacking, hfile, -⟩ := hstart.afterAttempts hincoming
  refine ⟨d, hbacking, ?_⟩
  rcases hfile with ⟨-, hfilters⟩ | hentry
  · rw [hfilters] at hlist
    cases hlist
  · rw [hentry, Engine.toJson_singleton hlist]

/-- **A filter with another number is found in the file** where no step has failed and the number is
finite. -/
theorem found_of_attempts_ne :
    openAt {} "filters.json" = .ok unwritten ∧ ∃ d found,
      (unwritten.afterAttempts (insertion (lightParcels bound))).backing =
        some ⟨"filters.json", d⟩ ∧
      (unwritten.afterAttempts (insertion (lightParcels bound))).filters.toList =
        [lightParcels bound] ∧
      (lightParcels bound).written = lightParcels bound ∧
      openAt d "filters.json" = .ok found ∧ found.filters.toList = [lightParcels rounded] ∧
      lightParcels rounded ≠ lightParcels bound := by
  obtain ⟨hfinite, hroundedFinite, hne, -⟩ := bound_spec
  refine ⟨rfl, ?_⟩
  have storable : ∀ {n : Number}, n.isFinite = true → (lightParcels n).IsStorable := by
    intro n hn c hc
    obtain rfl := List.mem_singleton.1 hc
    intro v hv
    obtain rfl := List.mem_singleton.1 hv
    exact .number hn
  obtain ⟨d, hbacking, hentry⟩ := entry?_of_insertion (isOrdered_lightParcels bound)
  have hread : (Json.array [(lightParcels bound).toJson]).reread? =
      some (FilterSet.toJson ⟨[lightParcels rounded], List.pairwise_singleton _ _⟩) := by
    rw [toJson_lightParcels hfinite, reread?_lightParcelsJson rereadNumber?_bound,
      ← toJson_lightParcels hroundedFinite]
    rfl
  obtain ⟨found, hfound, hsame⟩ := openAt_of_document (by
    intro f hf
    obtain rfl := List.mem_singleton.1 hf
    exact storable hroundedFinite) hread hentry
  refine ⟨d, found, hbacking, rfl, Filter.written_eq_self (storable hfinite), hfound, ?_, ?_⟩
  · rw [hsame]
  · intro h
    have hpayloads := congrArg (fun f => f.conditions.map Condition.payload) h
    simp only [lightParcels, List.map_cons, List.cons.injEq, Payload.comparison.injEq,
      Value.number.injEq, true_and, and_true] at hpayloads
    exact hne hpayloads

end Repository

end RecordFilters
