import RecordFilters.Number.Basic

/-! # JSON documents

A JSON document as a tree. Numbers keep the difference between integers, which are exact, and all
others, which are 64-bit floating point numbers. Objects keep their members in order, and a name
may stand twice, as it may in a text: which of the two counts is for the reader of the object to
say, and `Json.canonical` is the usual answer. -/

namespace RecordFilters

inductive Json
  | null
  | bool (b : Bool)
  | whole (n : Int)
  | real (n : Number)
  | string (s : String)
  | array (items : List Json)
  | object (members : List (String × Json))
  deriving Inhabited

namespace Json

/-- Members in name order, the last of those with one name kept. -/
def sortMembers {α : Type} (l : List (String × α)) : List (String × α) :=
  (Index.ofList l : Index (Prod.fst : String × α → String)).toList

mutual

/-- The tree in which every object has its members in name order, each name once. -/
def canonical : Json → Json
  | .array items => .array (canonicalItems items)
  | .object members => .object (sortMembers (canonicalMembers members))
  | .real n => if n.isFinite then .real n else .null
  | j => j

def canonicalItems : List Json → List Json
  | [] => []
  | j :: r => canonical j :: canonicalItems r

def canonicalMembers : List (String × Json) → List (String × Json)
  | [] => []
  | (name, j) :: r => (name, canonical j) :: canonicalMembers r

end

mutual

/-- How deep arrays and objects are nested. -/
def depth : Json → Nat
  | .array items => depthItems items + 1
  | .object members => depthMembers members + 1
  | _ => 0

def depthItems : List Json → Nat
  | [] => 0
  | j :: r => max (depth j) (depthItems r)

def depthMembers : List (String × Json) → Nat
  | [] => 0
  | (_, j) :: r => max (depth j) (depthMembers r)

end

/-- An optional part, absent as `null`. -/
def ofOption {α : Type} (f : α → Json) : Option α → Json
  | some a => f a
  | none => .null

def ofStrings (l : List String) : Json := .array (l.map .string)

def ofNat (n : Nat) : Json := .whole n

end Json

end RecordFilters
