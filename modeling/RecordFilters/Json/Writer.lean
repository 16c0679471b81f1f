import RecordFilters.Json.Basic
import RecordFilters.Number.Layout

/-! # Writing JSON texts

The text of a document: members in the order in which they stand, numbers in the stored layout. A
number that is not finite has no numeral and is written `null`.

* `write` uses no blanks.
* `writeLines` gives every item and every member a line of its own. -/

namespace RecordFilters.Json

/-- One character as it stands between quotation marks. -/
def escape (c : Char) : List Char :=
  if c = '"' then ['\\', '"']
  else if c = '\\' then ['\\', '\\']
  else if c = '\n' then ['\\', 'n']
  else if c = '\r' then ['\\', 'r']
  else if c = '\t' then ['\\', 't']
  else if c.toNat < 0x20 then
    ['\\', 'u', '0', '0', Nat.digitChar (c.toNat / 16), Nat.digitChar (c.toNat % 16)]
  else [c]

def writeString (s : String) : String := String.ofList ('"' :: s.toList.flatMap escape ++ ['"'])

def writeNumber (n : Number) : String := if n.isFinite then NumberLayout.stored.write n else "null"

mutual

/-- The text of a document. -/
def write : Json → String
  | .null => "null"
  | .bool b => if b then "true" else "false"
  | .whole n => Text.ofInt n
  | .real n => writeNumber n
  | .string s => writeString s
  | .array items => "[" ++ String.intercalate "," (writeItems items) ++ "]"
  | .object members => "\x7b" ++ String.intercalate "," (writeMembers members) ++ "\x7d"

def writeItems : List Json → List String
  | [] => []
  | j :: r => write j :: writeItems r

def writeMembers : List (String × Json) → List String
  | [] => []
  | (name, j) :: r => (writeString name ++ ":" ++ write j) :: writeMembers r

end

mutual

/-- The text of a document, with what is inside arrays and objects on lines of its own; these begin
with two spaces more than the line on which it stands. -/
def writeIndented (indent : String) : Json → String
  | .array [] => "[]"
  | .array items => "[" ++ String.intercalate "," (writeItemLines (indent ++ "  ") items) ++
    "\n" ++ indent ++ "]"
  | .object [] => "\x7b\x7d"
  | .object members =>
    "\x7b" ++ String.intercalate "," (writeMemberLines (indent ++ "  ") members) ++
      "\n" ++ indent ++ "\x7d"
  | j => write j

def writeItemLines (indent : String) : List Json → List String
  | [] => []
  | j :: r => ("\n" ++ indent ++ writeIndented indent j) :: writeItemLines indent r

def writeMemberLines (indent : String) : List (String × Json) → List String
  | [] => []
  | (name, j) :: r =>
    ("\n" ++ indent ++ writeString name ++ ": " ++ writeIndented indent j) ::
      writeMemberLines indent r

end

/-- The text of a document on lines. -/
def writeLines (j : Json) : String := writeIndented "" j

end RecordFilters.Json
