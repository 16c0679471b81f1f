import RecordFilters.Disk.Basic
import RecordFilters.Repository.Basic
import RecordFilters.Yaml.Document
import RecordFilters.Yaml.Reader

/-! # Installed filters

Filters that are installed with an engine are written in YAML or JSON files: a list of stored
filters, a record whose part `filters` is one, or a single filter. What is read from them are system
filters, which have no owner. -/

namespace RecordFilters

open Document

namespace InstalledFilters

/-- The stored filters of a document. -/
def stored? (y : Yaml) : Option (List StoredFilter) :=
  let d : Yaml.ByValue := ⟨y⟩
  let isNamed (members : List (Yaml × Yaml)) : Bool :=
    members.any fun m => m.1.asText? = some "filters"
  match y with
  | .scalar _ .null => some []
  | .sequence _ => listOf? StoredFilter.ofDocument? d
  | .mapping members =>
    if isNamed members then do
      (← parts? ["filters"] d).required "filters" (listOf? StoredFilter.ofDocument?)
    else (StoredFilter.ofDocument? d).map ([·])
  | _ => none

/-- The system filter that a stored one stands for. -/
def install (origin : Path) (s : StoredFilter) : Except RepositoryError Filter :=
  match Filter.ofStored s with
  | .error fault => .error (.invalidFilter origin fault)
  | .ok f =>
    if f.isPrivate then .error (.invalidFilter origin (.privateSystem f.id)) else .ok f.asSystem

/-- The system filters of a document. -/
def ofDocument (origin : Path) (y : Yaml) : Except RepositoryError (List Filter) :=
  match stored? y with
  | some stored => stored.mapM (install origin)
  | none => .error .yaml

/-- The system filters of a YAML text. -/
def ofYaml (origin : Path) (text : String) : Except RepositoryError (List Filter) :=
  match (Yaml.read? text).filter Yaml.isRegular with
  | some y => ofDocument origin y
  | none => .error .yaml

/-- The system filters of a JSON text, of which the document is given. -/
def ofJson? (origin : Path) (j : Option Json) : Except RepositoryError (List Filter) :=
  match (j.map Yaml.ofJson).filter Yaml.isRegular with
  | some y => ofDocument origin y
  | none => .error .json

/-- The system filters of a JSON text. -/
def ofJson (origin : Path) (text : String) : Except RepositoryError (List Filter) :=
  ofJson? origin (Json.read? text)

/-- The system filters of a file, which is JSON if its name says so and else YAML. -/
def loadFile (disk : Disk) (path : Path) : Except RepositoryError (List Filter) :=
  match disk.content? path with
  | some content =>
    if path.extension? = some "json" then ofJson? path content.json?
    else ofYaml path content.toText
  | none => .error (.invalidPath path)

/-- Whether a file in a directory is taken for one of filters. -/
def isFilterFile (path : Path) : Bool :=
  path.extension?.any fun e => ["yaml", "yml", "json"].contains e

/-- The system filters of the files of a directory, in the order of their names. -/
def loadDirectory (disk : Disk) (path : Path) : Except RepositoryError (List Filter) :=
  match disk.listing? path with
  | some paths => do return (← (paths.filter isFilterFile).mapM (loadFile disk)).flatten
  | none => .error (.invalidPath path)

end InstalledFilters

end RecordFilters
