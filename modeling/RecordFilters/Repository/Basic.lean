import RecordFilters.Disk.Basic
import RecordFilters.Repository.Error
import RecordFilters.Text.Digits
import RecordFilters.Text.Lowercase

/-! # Repositories

A repository holds filters by id, and may keep them in a file besides. A change is made in memory
first; then the whole set is written to the file, and if this fails the change is undone in memory.

* `Repository.insert`, `Repository.save` and `Repository.remove` are the changes.
* `Repository.nextId` draws a new id. -/

namespace RecordFilters

/-- The file in which a repository keeps its filters. -/
structure Backing where
  path : Path
  disk : Disk

structure Repository where
  filters : FilterSet := ∅
  /-- How many numbers of new ids have been drawn. -/
  drawn : Nat := 0
  backing : Option Backing := none

/-- The document of a set of filters, in order. -/
def FilterSet.toJson (s : FilterSet) : Json := .array (s.toList.map Filter.toJson)

namespace Repository

def get? (r : Repository) (id : FilterId) : Option Filter := r.filters.get? id

def contains (r : Repository) (id : FilterId) : Bool := r.filters.contains id

/-- Writes the filters to the file, if there is one, and whether this worked. -/
def persist (r : Repository) : Bool × Repository :=
  match r.backing with
  | none => (true, r)
  | some b =>
    let (done, disk) := b.disk.replace b.path (.document r.filters.toJson)
    (done, { r with backing := some { b with disk := disk } })

/-- Writing to the file changes no filter. -/
@[simp] theorem filters_persist (r : Repository) : r.persist.2.filters = r.filters := by
  unfold persist
  split <;> rfl

/-! ### Changes in memory -/

/-- Adds a filter under a new id, in memory. -/
def insertInMemory (r : Repository) (f : Filter) : Except RepositoryError Unit × Repository :=
  if r.contains f.id then (.error (.duplicateId f.id), r)
  else (.ok (), { r with filters := r.filters.insert f })

/-- Replaces a filter, in memory. -/
def saveInMemory (r : Repository) (f : Filter) : Except RepositoryError Unit × Repository :=
  if r.contains f.id then (.ok (), { r with filters := r.filters.insert f })
  else (.error (.notFound f.id), r)

/-- Takes a filter out, in memory. -/
def removeInMemory (r : Repository) (id : FilterId) : Except RepositoryError Filter × Repository :=
  match r.get? id with
  | some f => (.ok f, { r with filters := r.filters.erase id })
  | none => (.error (.notFound id), r)

/-! ### Changes -/

/-- Writes to the file what has been changed in memory; if this does not work, the change is undone
in memory. -/
def keepOrUndo {α : Type} (change : Except RepositoryError α × Repository)
    (undo : α → Repository → Repository) : Except RepositoryError α × Repository :=
  match change with
  | (.error error, r) => (.error error, r)
  | (.ok a, r) =>
    match r.persist with
    | (true, s) => (.ok a, s)
    | (false, s) => (.error .io, undo a s)

/-- Adds a filter under a new id. It is undone by taking the filter out again. -/
def insert (r : Repository) (f : Filter) : Except RepositoryError Unit × Repository :=
  keepOrUndo (r.insertInMemory f) fun _ s => (s.removeInMemory f.id).2

/-- Replaces a filter. It is undone by putting the previous one back in its place. -/
def save (r : Repository) (f : Filter) : Except RepositoryError Unit × Repository :=
  match r.get? f.id with
  | some previous => keepOrUndo (r.saveInMemory f) fun _ s => (s.saveInMemory previous).2
  | none => (.error (.notFound f.id), r)

/-- Takes a filter out. It is undone by adding the filter again. -/
def remove (r : Repository) (id : FilterId) : Except RepositoryError Filter × Repository :=
  keepOrUndo (r.removeInMemory id) fun removed s => (s.insertInMemory removed).2

/-! ### New ids -/

/-- The id with a number. -/
def numberedId (idPrefix entityType : String) (n : Nat) : FilterId :=
  idPrefix ++ "_" ++ Text.lowercase entityType ++ "-" ++ Text.ofNat n

/-- Whether a number makes an id that is not taken. -/
def isFree (r : Repository) (idPrefix entityType : String) (n : Nat) : Bool :=
  !r.contains (numberedId idPrefix entityType n)

/-- A new id. Numbers are drawn until one makes an id that is not taken, which takes at most one
draw more than there are filters. -/
def nextId (r : Repository) (idPrefix entityType : String) : FilterId × Repository :=
  let candidates := List.range' (r.drawn + 1) (r.filters.size + 1)
  let n := (candidates.find? (r.isFree idPrefix entityType)).getD (r.drawn + r.filters.size + 1)
  (numberedId idPrefix entityType n, { r with drawn := n })

/-! ### Opening -/

/-- A repository with the given filters, whose ids have to differ. -/
def ofFilters (filters : List Filter) : Except RepositoryError Repository :=
  filters.foldlM (fun r f =>
    if r.contains f.id then .error (.duplicateId f.id)
    else .ok { r with filters := r.filters.insert f }) {}

/-- The stored filters of a file; a blank file holds none. -/
def storedFilters? (content : Content) : Option (List StoredFilter) :=
  if content.isBlank then some []
  else match content with
    | .text s => (Json.outline? s).bind (Document.listOf? StoredFilter.ofDocument?)
    | .document j => j.reread?.bind (Document.listOf? StoredFilter.ofDocument?)

/-- The filters that stored ones stand for, up to the first that is none. -/
def readFilters (origin : Path) (stored : List StoredFilter) :
    Except RepositoryError (List Filter) :=
  stored.mapM fun s => (Filter.ofStored s).mapError (.invalidFilter origin)

/-- Opens the repository that keeps its filters in a file; without the file it is empty. -/
def openAt (disk : Disk) (path : Path) : Except RepositoryError Repository :=
  match disk.entry? path with
  | none => .ok { backing := some ⟨path, disk⟩ }
  | some .directory => .error (.invalidPath path)
  | some (.file content) =>
    match storedFilters? content with
    | none => .error .json
    | some stored => do
      let r ← ofFilters (← readFilters path stored)
      return { r with backing := some ⟨path, disk⟩ }

end Repository

end RecordFilters
