import RecordFilters.Json.Reader
import RecordFilters.Json.Writer

/-! # Written documents, read again

Writing a document and reading the text gives the same document again, but for two things. A number
is written with digits that stand for no other number, yet numerals are read in rounded steps, so
the number that is read may lie beside the one that was written. And a document of any depth is
written, while only one of bounded depth is read. -/

namespace RecordFilters.Json

/-- What is read where a number has been written. -/
def rereadNumber? (n : Number) : Option Json :=
  if n.isFinite then (readNumeral (NumberLayout.stored.write n).toList).join else some .null

mutual

/-- What is read where a tree has been written, at any depth. -/
def rereadTree? : Json → Option Json
  | .real n => rereadNumber? n
  | .array items => (rereadItems? items).map .array
  | .object members => (rereadMembers? members).map .object
  | j => some j

def rereadItems? : List Json → Option (List Json)
  | [] => some []
  | j :: r => do some ((← rereadTree? j) :: (← rereadItems? r))

def rereadMembers? : List (String × Json) → Option (List (String × Json))
  | [] => some []
  | (name, j) :: r => do some ((name, ← rereadTree? j) :: (← rereadMembers? r))

end

/-- The document that is read where a document has been written. -/
def reread? (j : Json) : Option Json :=
  if j.depth ≤ Reading.maxDepth then j.rereadTree? else none

end RecordFilters.Json
