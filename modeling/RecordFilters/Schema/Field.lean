import RecordFilters.Uuid

/-! # Fields

Regular fields are part of an entity type and have a name; custom fields are attached to an entity
type by users and keep their identity when they are renamed or marked as deleted. -/

namespace RecordFilters

inductive FieldKind
  | string
  | number
  | date
  | reference
  | boolean
  | file
  deriving DecidableEq

namespace FieldKind

def all : List FieldKind := [string, number, date, reference, boolean, file]

def name : FieldKind → String
  | string => "string"
  | number => "number"
  | date => "date"
  | reference => "reference"
  | boolean => "boolean"
  | file => "file"

end FieldKind

/-- The entity type whose records are users. -/
def userEntityType : String := "User"

/-- A regular field of an entity type. -/
structure Field where
  name : String
  kind : FieldKind
  /-- Whether conditions may be built on the field; files are never filterable, whatever it says. -/
  filterable : Bool := kind ≠ .file
  /-- The entity type that a reference points at. -/
  relatedType : Option String := none
  deriving DecidableEq

namespace Field

def isFilterable (f : Field) : Bool := f.filterable && f.kind ≠ .file

/-- Whether the field refers to users. -/
def refersToUsers (f : Field) : Bool := f.kind = .reference && f.relatedType = some userEntityType

end Field

/-- What a custom field holds. -/
inductive CustomKind
  | integer
  | float
  | bool
  | string
  | date
  | dateTime
  | choice
  | multiChoice
  deriving DecidableEq

namespace CustomKind

def all : List CustomKind := [integer, float, bool, string, date, dateTime, choice, multiChoice]

/-- The name in stored data. -/
def name : CustomKind → String
  | integer => "integer"
  | float => "float"
  | bool => "bool"
  | string => "string"
  | date => "date"
  | dateTime => "date_time"
  | choice => "enum"
  | multiChoice => "multi_enum"

/-- The name in messages. -/
def title : CustomKind → String
  | integer => "Integer"
  | float => "Float"
  | bool => "Bool"
  | string => "String"
  | date => "Date"
  | dateTime => "DateTime"
  | choice => "Enum"
  | multiChoice => "MultiEnum"

def isDate (k : CustomKind) : Bool := k = date || k = dateTime

def isChoice (k : CustomKind) : Bool := k = choice || k = multiChoice

def isNumeric (k : CustomKind) : Bool := k = integer || k = float

/-- The kind of regular field whose values it takes. -/
def fieldKind : CustomKind → FieldKind
  | integer | float => .number
  | bool => .boolean
  | string => .string
  | date | dateTime => .date
  | choice | multiChoice => .reference

end CustomKind

/-- A field that users attached to an entity type. -/
structure CustomField where
  id : Uuid
  entityType : String
  name : String
  kind : CustomKind
  /-- Marked as deleted; stored conditions on the field still evaluate. -/
  deleted : Bool := false
  /-- The values that a choice may take; none at all means any. -/
  choices : List String := []
  deriving DecidableEq

end RecordFilters
