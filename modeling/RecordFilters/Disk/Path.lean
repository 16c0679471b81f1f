/-! # Paths

Paths are texts whose parts are separated by slashes. A path that begins with a slash is absolute;
any other is relative to some directory. Parts that are empty or a single dot stand for the place
that has been reached, two dots for the directory above it. -/

namespace RecordFilters

abbrev Path := String

namespace Path

def isAbsolute (p : Path) : Bool := p.startsWith "/"

/-- A path taken relative to a directory; an absolute path stays as it is. -/
def join (directory p : Path) : Path :=
  if isAbsolute p then p
  else if directory.isEmpty || directory.endsWith "/" then directory ++ p
  else directory ++ "/" ++ p

/-- The characters between slashes. -/
def splitSlashes : List Char → List (List Char)
  | [] => [[]]
  | c :: r =>
    if c = '/' then [] :: splitSlashes r
    else match splitSlashes r with
      | part :: parts => (c :: part) :: parts
      | [] => [[c]]

/-- The parts between the slashes. -/
def parts (p : Path) : List String := (splitSlashes p.toList).map String.ofList

/-- Whether a part stands for the place that has been reached. -/
def isHere (part : String) : Bool := part = "" || part = "."

/-- The parts from the last name backwards. -/
def partsFromName (p : Path) : List String := p.parts.reverse.dropWhile isHere

/-- The last name. -/
def name (p : Path) : String := p.partsFromName.headD ""

/-- The directory that holds what a path leads to. -/
def parent (p : Path) : Path :=
  let above := String.intercalate "/" ((p.partsFromName.drop 1).dropWhile isHere).reverse
  if above.isEmpty && isAbsolute p then "/" else above

/-- What follows the last dot of the name; a dot at the start of the name does not count. -/
def extension? (p : Path) : Option String :=
  let after := p.name.toList.reverse.takeWhile (· ≠ '.')
  if after.length + 1 < p.name.length then some (String.ofList after.reverse) else none

end Path

end RecordFilters
