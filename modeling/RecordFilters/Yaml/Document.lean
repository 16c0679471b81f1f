import RecordFilters.Document
import RecordFilters.Yaml.Basic

/-! # YAML documents as documents

Two ways of reading a YAML document. Read *by value*, a scalar is what it stands for, so that a text
is only where no other value is meant; records have keys that are texts. Read *by form*, a scalar is
a text as it is written, and a number only where one is asked for. In both, a list or a record may
be left out. In a table that is read by value, the number of a part stands for its name. -/

namespace RecordFilters.Yaml

/-- A document read by what its scalars stand for. -/
structure ByValue where
  node : Yaml

/-- A document read by what is written. -/
structure ByForm where
  node : Yaml

/-- The integer that a scalar stands for. -/
def asInteger? : Yaml → Option Int
  | .scalar _ (.whole n) => some n
  | _ => none

/-- An integer that is written without a minus sign. -/
def writtenNatural? : Yaml → Option Int
  | .scalar text (.whole n) => if text.startsWith "-" then none else some n
  | _ => none

def asFlag? : Yaml → Option Bool
  | .scalar _ (.bool b) => some b
  | _ => none

/-- The text of a scalar as it is written. -/
def writtenText? : Yaml → Option String
  | .scalar text _ => some text
  | _ => none

/-- The items of a sequence; what `absent` accepts stands for none. -/
def itemsUnless (absent : Yaml → Bool) : Yaml → Option (List Yaml)
  | .sequence items => some items
  | y => if absent y then some [] else none

/-- The members of a mapping by the texts of their keys; what `absent` accepts stands for none. -/
def membersUnless (absent : Yaml → Bool) (keyText : Yaml → Option String) :
    Yaml → Option (List (String × Yaml))
  | .mapping members => members.mapM fun (k, y) => (keyText k).map (·, y)
  | y => if absent y then some [] else none

/-- The name that a key stands for: a text or the place of a name, counted from zero. The inner
option is empty for a number without a name. -/
def partName? (names : List String) : Yaml → Option (Option String)
  | .scalar _ (.text s) => some (some s)
  | .scalar _ (.whole n) => if 0 ≤ n then some names[n.toNat]? else none
  | _ => none

/-- The parts of a table whose keys are names or their places. -/
def tableParts? (names : List String) : Yaml → Option (Parts Yaml)
  | .mapping members => do
    let named ← members.mapM fun (k, y) => (partName? names k).map fun name => name.map (·, y)
    Parts.named? names (named.filterMap id)
  | _ => none

/-- The parts of a mapping whose keys are taken as they are written. -/
def writtenParts? (names : List String) (y : Yaml) : Option (Parts Yaml) :=
  (membersUnless isVoid writtenText? y).bind (Parts.named? names)

instance : Document ByValue where
  isNull d := d.node.isNull
  flag? d := d.node.asFlag?
  integer? d := d.node.asInteger?
  text? d := d.node.asText?
  items? d := (itemsUnless isNull d.node).map (·.map ByValue.mk)
  parts? _ d := (membersUnless isNull asText? d.node).map (·.map fun m => (m.1, ⟨m.2⟩))
  table? names d := (tableParts? names d.node).map (·.map fun m => (m.1, ⟨m.2⟩))
  json? d := d.node.toJson?.map Json.canonical

instance : Document ByForm where
  isNull d := d.node.isVoid
  flag? d := d.node.asFlag?
  integer? d := d.node.writtenNatural?
  text? d := d.node.writtenText?
  items? d := (itemsUnless isVoid d.node).map (·.map ByForm.mk)
  parts? names d := (writtenParts? names d.node).map (·.map fun m => (m.1, ⟨m.2⟩))
  table? names d := (writtenParts? names d.node).map (·.map fun m => (m.1, ⟨m.2⟩))
  json? d := d.node.toJson?.map Json.canonical

end RecordFilters.Yaml
