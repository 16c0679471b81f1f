import RecordFilters.Disk.Path
import RecordFilters.Filter.Stored

/-! # Failures of repositories -/

namespace RecordFilters

/-- Why stored filters cannot be read, found or changed. -/
inductive RepositoryError
  | notFound (id : FilterId)
  | duplicateId (id : FilterId)
  /-- The disk failed. -/
  | io
  /-- A document is no YAML, or not the YAML of filters. -/
  | yaml
  /-- A document is no JSON, or not the JSON of filters. -/
  | json
  | invalidFilter (path : Path) (fault : FilterFault)
  | invalidPath (path : Path)
  deriving DecidableEq

def RepositoryError.message : RepositoryError → String
  | notFound id => s!"Filter not found: {id}"
  | duplicateId id => s!"Duplicate filter id: {id}"
  | io => "I/O error"
  | yaml => "Failed to parse YAML"
  | json => "Failed to parse JSON"
  | invalidFilter path fault => s!"Invalid filter in {path}: {fault.message}"
  | invalidPath path => s!"Invalid path: {path}"

end RecordFilters
