import RecordFilters.Json.Outline

/-! # Reading documents

Stored data comes as JSON and as YAML, and the two differ in what a reader may take for a record, a
list or a text. `Document` is the small set of questions that a reader asks; everything that is
stored in more than one format is read through it. A JSON text can be read from its outline, where
blots outside the parts that are asked for do no harm.

A record is asked for by the names of its parts. `Parts` are the parts that were found, and each
part is then required, optional (absent or null), or has a default. -/

namespace RecordFilters

/-- The parts of a record that were found. -/
abbrev Parts (δ : Type) := List (String × δ)

class Document (δ : Type) where
  isNull : δ → Bool
  flag? : δ → Option Bool
  integer? : δ → Option Int
  text? : δ → Option String
  items? : δ → Option (List δ)
  /-- The named parts of a record; none if this is no record or a named part stands twice. -/
  parts? : List String → δ → Option (Parts δ)
  /-- The named parts of a record that has to be written as a table. -/
  table? : List String → δ → Option (Parts δ)
  /-- The document as JSON. -/
  json? : δ → Option Json

namespace Document

variable {δ α : Type} [Document δ]

/-- An integer from zero up to a bound. -/
def natural? (bound : Nat) (d : δ) : Option Nat :=
  (integer? d).bind fun n => if 0 ≤ n ∧ n < bound then some n.toNat else none

/-- A 16-bit number. -/
def word? (d : δ) : Option Nat := natural? UInt16.size d

def listOf? (read : δ → Option α) (d : δ) : Option (List α) := (items? d).bind (·.mapM read)

def texts? (d : δ) : Option (List String) := listOf? text? d

/-- Nothing for null. -/
def nullable? (read : δ → Option α) (d : δ) : Option (Option α) :=
  if isNull d then some none else (read d).map some

end Document

namespace Parts

variable {δ α : Type} [Document δ]

def required (parts : Parts δ) (name : String) (read : δ → Option α) : Option α :=
  (parts.lookup name).bind read

def optional (parts : Parts δ) (name : String) (read : δ → Option α) : Option (Option α) :=
  match parts.lookup name with
  | some d => Document.nullable? read d
  | none => some none

def orDefault (parts : Parts δ) (name : String) (default : α) (read : δ → Option α) : Option α :=
  match parts.lookup name with
  | some d => read d
  | none => some default

end Parts

namespace Parts

variable {δ : Type}

/-- The members with one of the given names, if none of these stands twice. -/
def named? (names : List String) (members : List (String × δ)) : Option (Parts δ) :=
  let known := members.filter fun m => names.contains m.1
  if (known.map Prod.fst).Nodup then some known else none

/-- Items in the order in which the parts are declared, the last of which may be left out. -/
def ofItems? (names : List String) (items : List δ) : Option (Parts δ) :=
  if items.length ≤ names.length then some (names.zip items) else none

end Parts

namespace Json

/-- The parts of a record: the members of an object, or the items of a list. -/
def recordParts? (names : List String) : Json → Option (Parts Json)
  | .object members => Parts.named? names members
  | .array items => Parts.ofItems? names items
  | _ => none

/-- The parts of a record that is an object. -/
def tableParts? (names : List String) : Json → Option (Parts Json)
  | .object members => Parts.named? names members
  | _ => none

/-- The parts of a record without any others. -/
def exactParts? (names : List String) : Json → Option (Parts Json)
  | .object members =>
    if members.all fun m => names.contains m.1 then Parts.named? names members else none
  | j => recordParts? names j

/-- A choice among named cases: the name alone or an object of one member, with what the member
holds. -/
def case? : Json → Option (String × Option Json)
  | .string s => some (s, none)
  | .object [(s, j)] => some (s, some j)
  | _ => none

/-- A choice among cases that hold nothing. -/
def bareCase? (j : Json) : Option String :=
  match case? j with
  | some (s, none) | some (s, some .null) => some s
  | _ => none

instance : Document Json where
  isNull | .null => true | _ => false
  flag? | .bool b => some b | _ => none
  integer? | .whole n => some n | _ => none
  text? | .string s => some s | _ => none
  items? | .array items => some items | _ => none
  parts? := recordParts?
  table? := tableParts?
  json? j := some j.canonical

namespace Outline

/-- The parts of a record: the members of an object, all of whose names have to be readable, or the
items of a list. -/
def recordParts? (names : List String) : Outline → Option (Parts Outline)
  | .array items => Parts.ofItems? names items
  | o => o.members?.bind (Parts.named? names)

/-- A table is read as a whole before its parts are looked at, so that a blot anywhere in it
counts. -/
def tableParts? (names : List String) (o : Outline) : Option (Parts Outline) :=
  o.json?.bind fun _ => o.members?.bind (Parts.named? names)

instance : Document Outline where
  isNull | .atom .null => true | _ => false
  flag? | .atom (.bool b) => some b | _ => none
  integer? | .atom (.whole n) => some n | _ => none
  text? | .atom (.string s) => some s | _ => none
  items? | .array items => some items | _ => none
  parts? := recordParts?
  table? := tableParts?
  json? o := o.json?.map Json.canonical

end Outline

end Json

end RecordFilters
