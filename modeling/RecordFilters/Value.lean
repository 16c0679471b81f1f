import RecordFilters.Json.Basic
import RecordFilters.Number.Layout
import RecordFilters.Calendar.Grammar
import RecordFilters.Text.Quoted

/-! # Values

What conditions carry and fields hold. A value may be read as a flag, a number, a day or a text
wherever that makes sense; a text that spells a number is a number for these purposes.

* `Value.flag?`, `Value.number?`, `Value.day?`, `Value.text?` are the four readings.
* `Value.quoted` is the form in which error messages show a value. -/

namespace RecordFilters

inductive Value
  | null
  | bool (b : Bool)
  | number (n : Number)
  | text (s : String)
  | list (items : List Value)
  /-- Members in name order, each name once. -/
  | object (members : List (String × Value))
  deriving Inhabited

namespace Value

/-- The name of the kind of a value in error messages. -/
def typeName : Value → String
  | .null => "null"
  | .bool _ => "bool"
  | .number _ => "number"
  | .text _ => "string"
  | .list _ => "array"
  | .object _ => "object"

/-- The text that a value is. -/
def asText? : Value → Option String
  | .text s => some s
  | _ => none

/-- A flag: a truth value, the numbers zero and one, or a word for them in any ASCII case. -/
def flag? : Value → Option Bool
  | .bool b => some b
  | .text s =>
    let word := (Text.trimBlanks s.toList).map Char.toLower
    if word = "true".toList ∨ word = "1".toList then some true
    else if word = "false".toList ∨ word = "0".toList then some false
    else none
  | .number n => if n.isZero then some false else if n.isOne then some true else none
  | _ => none

/-- A number, or a text that spells one. -/
def number? : Value → Option Number
  | .number n => some n
  | .text s => Number.ofText? (Text.trim s)
  | _ => none

/-- A text that spells a day or a time. -/
def day? : Value → Option Day
  | .text s => Day.ofAnyText? s
  | _ => none

/-- Whether a value counts as missing. -/
def isEmpty : Value → Bool
  | .null => true
  | .text s => s.isEmpty
  | .list items => items.isEmpty
  | _ => false

/-- The text form, used for identifiers and text comparisons. -/
def text? : Value → Option String
  | .text s => some s
  | .number n => some n.toText
  | .bool b => some (if b then "true" else "false")
  | _ => none

/-- The member of an object with a name. -/
def member? (name : String) : Value → Option Value
  | .object members => members.lookup name
  | _ => none

/-- A day as a value. -/
def ofDay (d : Day) : Value := .text d.toText

/-- An open bound is no value at all. -/
def ofDay? : Option Day → Value
  | some d => ofDay d
  | none => .null

/-! ### JSON -/

mutual

/-- The value that a JSON document stands for. -/
def ofJson : Json → Value
  | .null => .null
  | .bool b => .bool b
  | .whole n => .number (.ofInt n)
  | .real n => .number n
  | .string s => .text s
  | .array items => .list (ofJsonItems items)
  | .object members => .object (Json.sortMembers (ofJsonMembers members))

def ofJsonItems : List Json → List Value
  | [] => []
  | j :: r => ofJson j :: ofJsonItems r

def ofJsonMembers : List (String × Json) → List (String × Value)
  | [] => []
  | (name, j) :: r => (name, ofJson j) :: ofJsonMembers r

end

mutual

/-- The JSON document of a value; a number that is not finite becomes null. -/
def toJson : Value → Json
  | .null => .null
  | .bool b => .bool b
  | .number n => if n.isFinite then .real n else .null
  | .text s => .string s
  | .list items => .array (toJsonItems items)
  | .object members => .object (toJsonMembers members)

def toJsonItems : List Value → List Json
  | [] => []
  | v :: r => toJson v :: toJsonItems r

def toJsonMembers : List (String × Value) → List (String × Json)
  | [] => []
  | (name, v) :: r => (name, toJson v) :: toJsonMembers r

end

theorem toJsonItems_eq_map (l : List Value) : toJsonItems l = l.map toJson := by
  induction l with
  | nil => rfl
  | cons v r ih => rw [toJsonItems, ih, List.map_cons]

theorem ofJsonItems_eq_map (l : List Json) : ofJsonItems l = l.map ofJson := by
  induction l with
  | nil => rfl
  | cons v r ih => rw [ofJsonItems, ih, List.map_cons]

/-! ### Error messages -/

mutual

/-- A value as error messages show it. -/
def quoted : Value → String
  | .null => "Null"
  | .bool b => if b then "Bool(true)" else "Bool(false)"
  | .number n => "Number(" ++ NumberLayout.quoted.write n ++ ")"
  | .text s => "String(" ++ Text.quoted s ++ ")"
  | .list items => "Array([" ++ String.intercalate ", " (quotedItems items) ++ "])"
  | .object members =>
    "Object(\x7b" ++ String.intercalate ", " (quotedMembers members) ++ "\x7d)"

def quotedItems : List Value → List String
  | [] => []
  | v :: r => quoted v :: quotedItems r

def quotedMembers : List (String × Value) → List String
  | [] => []
  | (name, v) :: r => (Text.quoted name ++ ": " ++ quoted v) :: quotedMembers r

end

end Value

end RecordFilters
