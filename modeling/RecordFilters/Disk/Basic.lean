import RecordFilters.Disk.Path
import RecordFilters.Json.Reader
import RecordFilters.Json.Reread
import RecordFilters.Text.Blank

/-! # Disks

As much of a file system as stored filters need: a tree of directories and files, and two steps
that change it, writing a file and renaming one. Either may fail.

* `Disk.locate?` is where a path leads.
* `Disk.replace` puts a document in place of a file by both steps, so that the file holds the old
  document or the new one and never a part of either. -/

namespace RecordFilters

/-- What a file holds: a text, or a document that has been written on lines. -/
inductive Content
  | text (s : String)
  | document (j : Json)

namespace Content

/-- The text in the file. -/
def toText : Content → String
  | .text s => s
  | .document j => j.writeLines

/-- The JSON document in the file. -/
def json? : Content → Option Json
  | .text s => Json.read? s
  | .document j => j.reread?

/-- Whether there is nothing in the file but blanks. -/
def isBlank : Content → Bool
  | .text s => Text.isBlankText s
  | .document _ => false

end Content

inductive DiskEntry
  | directory
  | file (content : Content)

/-- What a change of the disk consists of. -/
inductive DiskStep
  | write
  | rename
  deriving DecidableEq

/-- A place in the tree: the names that lead to it from the root, the last of them first. -/
abbrev Location := List String

/-- Places are ordered by their names. -/
instance : KeyOrder Location where
  decLt := inferInstance
  decEq := inferInstance
  irrefl := List.lt_irrefl
  trans _ _ _ := List.lt_trans
  connected _ _ h h' := List.le_antisymm (List.not_lt.1 h') (List.not_lt.1 h)

structure Disk where
  /-- All files and all directories but the root. -/
  entries : Index (Prod.fst : Location × DiskEntry → Location) := ∅
  /-- The step that fails, while there is one. -/
  broken : Option DiskStep := none

namespace Disk

def entryAt? (d : Disk) : Location → Option DiskEntry
  | [] => some .directory
  | l => (d.entries.get? l).map Prod.snd

def isDirectoryAt (d : Disk) (l : Location) : Bool :=
  match d.entryAt? l with
  | some .directory => true
  | _ => false

/-- What a file holds. -/
def contentAt? (d : Disk) (l : Location) : Option Content :=
  match d.entryAt? l with
  | some (.file content) => some content
  | _ => none

def put (d : Disk) (l : Location) (e : DiskEntry) : Disk :=
  { d with entries := d.entries.insert (l, e) }

def remove (d : Disk) (l : Location) : Disk := { d with entries := d.entries.erase l }

/-! ### Paths -/

/-- Whether a text may be a name: it has at most 255 bytes and none of them is zero. -/
def isName (part : String) : Bool := part.utf8ByteSize ≤ 255 && !part.toList.contains '\x00'

/-- Where the parts of a path lead from a place. A part is only taken from a directory; the name at
the end may be missing there. -/
def follow? (d : Disk) : Location → List String → Option Location
  | l, [] => some l
  | l, part :: r =>
    if !d.isDirectoryAt l then none
    else if Path.isHere part then d.follow? l r
    else if part = ".." then d.follow? l.tail r
    else if isName part then d.follow? (part :: l) r
    else none

/-- Where a path leads. -/
def locate? (d : Disk) (p : Path) : Option Location := d.follow? [] p.parts

def entry? (d : Disk) (p : Path) : Option DiskEntry := (d.locate? p).bind d.entryAt?

def isDirectory (d : Disk) (p : Path) : Bool := (d.locate? p).any d.isDirectoryAt

def content? (d : Disk) (p : Path) : Option Content := (d.locate? p).bind d.contentAt?

/-- The names in a directory, in order. -/
def names (d : Disk) (directory : Location) : List String :=
  d.entries.keys.filterMap fun
    | name :: l => if l = directory then some name else none
    | [] => none

/-- The paths directly inside a directory, in the order of their names. -/
def listing? (d : Disk) (directory : Path) : Option (List Path) :=
  ((d.locate? directory).filter d.isDirectoryAt).map fun l =>
    (d.names l).map (Path.join directory)

/-! ### Changes -/

/-- Writes a file into a directory. -/
def write? (d : Disk) (p : Path) (content : Content) : Option Disk :=
  if d.broken = some .write then none
  else ((d.locate? p).filter fun l => !d.isDirectoryAt l).map fun l => d.put l (.file content)

/-- Renames a file, in place of any other file. -/
def rename? (d : Disk) (source target : Path) : Option Disk :=
  if d.broken = some .rename then none
  else do
    let l ← d.locate? source
    let content ← d.contentAt? l
    let l' ← (d.locate? target).filter fun l => !d.isDirectoryAt l
    some ((d.remove l).put l' (.file content))

/-- The file to which a document is written before it takes its place. -/
def temporary (p : Path) : Path := p ++ ".tmp"

/-- Puts a document in place of a file, and whether this worked. -/
def replace (d : Disk) (p : Path) (content : Content) : Bool × Disk :=
  match d.write? (temporary p) content with
  | none => (false, d)
  | some written =>
    match written.rename? (temporary p) p with
    | none => (false, written)
    | some renamed => (true, renamed)

/-- Makes the directories that the parts of a path lead through from a place. -/
def makeParts? (d : Disk) : Location → List String → Option Disk
  | _, [] => some d
  | l, part :: r =>
    if Path.isHere part then d.makeParts? l r
    else if part = ".." then d.makeParts? l.tail r
    else match d.entryAt? (part :: l) with
      | some .directory => d.makeParts? (part :: l) r
      | some (.file _) => none
      | none =>
        if isName part then
          (d.put (part :: l) .directory).makeParts? (part :: l) r
        else none

/-- Makes a directory and all that lead to it. -/
def makeDirectory? (d : Disk) (p : Path) : Option Disk := d.makeParts? [] p.parts

/-- Removes an empty directory. -/
def removeDirectory? (d : Disk) (p : Path) : Option Disk :=
  ((d.locate? p).filter fun l => d.isDirectoryAt l && (d.names l).isEmpty).map d.remove

end Disk

end RecordFilters
