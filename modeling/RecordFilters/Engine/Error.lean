import RecordFilters.Error
import RecordFilters.Repository.Error

/-! # Failures of an engine -/

namespace RecordFilters

/-- What an engine cannot be made without. -/
inductive Collaborator
  | schema
  | identity
  | storage
  deriving DecidableEq

def Collaborator.name : Collaborator → String
  | schema => "schema provider"
  | identity => "identity provider"
  | storage => "storage backend"

/-- Why an engine cannot be made as it is configured. -/
inductive SetupFault
  | unreadable
  | zeroDepth
  | blankPrefix
  | builtinFilterType (id : String)
  | unknownOperand (filterType operand : String)
  /-- A condition of a system filter, by its position. -/
  | systemFilter (id : FilterId) (position : Nat) (error : FilterError)
  /-- The cause of an extension, in its own words. -/
  | custom (message : String)

def SetupFault.message : SetupFault → String
  | unreadable => "invalid engine config"
  | zeroDepth => "max_depth must be at least 1"
  | blankPrefix => "filter_id_prefix must not be empty"
  | builtinFilterType id => s!"filter type '{id}' is built in and cannot be redeclared"
  | unknownOperand filterType operand =>
    s!"filter type '{filterType}' uses unknown operand '{operand}'"
  | systemFilter id position error =>
    s!"system filter '{id}', condition {Text.ofNat position}: {error.message}"
  | custom message => message

inductive EngineError
  | setup (fault : SetupFault)
  /-- A rejected filter request. -/
  | filter (error : FilterError)
  | repository (error : RepositoryError)
  | io
  | missing (what : Collaborator)

namespace EngineError

def message : EngineError → String
  | setup fault => s!"Configuration error: {fault.message}"
  | filter error => error.message
  | repository error => s!"Repository error: {error.message}"
  | io => "I/O error"
  | missing what => s!"Engine not initialized: missing {what.name}"

/-- The rejection of a filter request, if the failure is one. -/
def filterError? : EngineError → Option FilterError
  | filter error => some error
  | _ => none

end EngineError

end RecordFilters
