import RecordFilters.Yaml.ScalarText

/-! # The tokens of a YAML text

Block collections are opened and closed by columns, flow collections by brackets; the tokens say
where each of them begins and ends.

That something is a key shows only at the colon after it. So the place where a key may have begun is
kept as a *candidate*; at the colon, the token that announces a key is put in there, and if the key
is the first of a block mapping, so is the beginning of the mapping. What begins in the very column
of a block collection has to be a key.

* `Scan.tokenHere?` takes the token at one place.
* `tokens?` are the tokens of a text. -/

namespace RecordFilters.Yaml

inductive Token
  | openSequence
  | openMapping
  /-- The end of a block collection. -/
  | close
  | dash
  | key
  | colon
  | scalar (node : Yaml)
  | openList
  | closeList
  | openTable
  | closeTable
  | comma
  | documentStart
  | documentEnd

/-- A place where a key may have begun. -/
structure Candidate where
  /-- How many tokens stand before it. -/
  place : Nat
  mark : Mark
  required : Bool

/-- How long a key may be, up to its colon. -/
def maxKeyLength : Nat := 1024

/-- Whether a colon at a mark makes a key of what stands before it. -/
def Candidate.reaches (k : Candidate) (mark : Mark) : Bool :=
  k.mark.line = mark.line && mark.column ≤ k.mark.column + maxKeyLength

/-- How far a text has been read. -/
structure Scan where
  /-- The tokens so far, in reverse. -/
  found : List Token := []
  /-- The columns of the block collections that are open, the innermost first. -/
  indents : List Nat := []
  /-- Where a key may have begun, within the innermost flow collection. -/
  candidate : Option Candidate := none
  /-- The same around every open flow collection, the innermost first. -/
  outer : List (Option Candidate) := []
  keyAllowed : Bool := true
  rest : Source

namespace Scan

def inFlow (s : Scan) : Bool := !s.outer.isEmpty

def emit (s : Scan) (t : Token) : Scan := { s with found := t :: s.found }

/-- Puts tokens in after the first `place` ones. -/
def insertAt (s : Scan) (place : Nat) (ts : List Token) : Scan :=
  let later := s.found.length - place
  { s with found := s.found.take later ++ ts.reverse ++ s.found.drop later }

/-- Goes on to the next token. -/
def skipGap (s : Scan) : Scan :=
  let (keyAllowed, rest) := s.rest.skipGap s.inFlow s.keyAllowed false
  { s with keyAllowed := keyAllowed, rest := rest }

/-! ### Block collections -/

/-- Whether a block collection opens in a column. -/
def opensAt (s : Scan) (column : Nat) : Bool := !s.inFlow && s.indents.head?.all (· < column)

/-- Opens a block collection in a column, unless one is open there; its first token goes to a
place. -/
def openBlock (s : Scan) (column place : Nat) (t : Token) : Scan :=
  if s.opensAt column then { s.insertAt place [t] with indents := column :: s.indents } else s

/-- The columns that are not to the right of a column. -/
def keptIndents (column : Nat) (indents : List Nat) : List Nat := indents.dropWhile (column < ·)

/-- Closes block collections so that only those in certain columns stay open. -/
def closeTo (s : Scan) (kept : List Nat) : Scan :=
  if s.inFlow then s
  else
    { s with
      found := List.replicate (s.indents.length - kept.length) .close ++ s.found
      indents := kept }

/-- Closes the block collections that a token in a column lies outside of. -/
def closeDeeper (s : Scan) (column : Nat) : Scan := s.closeTo (keptIndents column s.indents)

/-! ### Keys -/

/-- Gives up the candidate; one that has to be a key cannot be given up. -/
def dropCandidate? (s : Scan) : Option Scan :=
  if s.candidate.any Candidate.required then none else some { s with candidate := none }

/-- Makes a candidate of what begins at a mark, where a key may begin. -/
def noteCandidate? (s : Scan) (mark : Mark) : Option Scan :=
  if s.keyAllowed then
    s.dropCandidate?.map fun s =>
      { s with candidate := some {
          place := s.found.length
          mark := mark
          required := !s.inFlow && s.indents.head? = some mark.column } }
  else some s

/-- A colon that ends the key which began at a candidate. -/
def colonAfter (s : Scan) (k : Candidate) : Scan :=
  let opened := (s.insertAt k.place [.key]).openBlock k.mark.column k.place .openMapping
  { opened.emit .colon with candidate := none, keyAllowed := false }

/-- A colon, or the mark of a key, that stands by itself. -/
def standalone? (s : Scan) (mark : Mark) (t : Token) : Option Scan :=
  if s.inFlow then s.dropCandidate?.map fun s => { s.emit t with keyAllowed := false }
  else if s.keyAllowed then
    (s.openBlock mark.column s.found.length .openMapping).dropCandidate?.map fun s =>
      { s.emit t with keyAllowed := true }
  else none

def colon? (s : Scan) (mark : Mark) : Option Scan :=
  match s.candidate.filter (·.reaches mark) with
  | some k => some (s.colonAfter k)
  | none => s.standalone? mark .colon

/-! ### Tokens -/

/-- The beginning of a flow collection. -/
def openFlow? (s : Scan) (mark : Mark) (t : Token) : Option Scan :=
  (s.noteCandidate? mark).map fun s =>
    { s.emit t with outer := s.candidate :: s.outer, candidate := none, keyAllowed := true }

/-- The end of a flow collection. -/
def closeFlow? (s : Scan) (t : Token) : Option Scan := do
  let s ← s.dropCandidate?
  match s.outer with
  | k :: outer => some { s.emit t with outer := outer, candidate := k, keyAllowed := false }
  | [] => none

def comma? (s : Scan) : Option Scan :=
  s.dropCandidate?.map fun s => { s.emit .comma with keyAllowed := true }

def dash? (s : Scan) (mark : Mark) : Option Scan :=
  if !s.inFlow && s.keyAllowed then
    (s.openBlock mark.column s.found.length .openSequence).dropCandidate?.map fun s =>
      s.emit .dash
  else none

/-- A line between documents. -/
def marker? (s : Scan) (t : Token) : Option Scan :=
  (s.closeTo []).dropCandidate?.map fun s => { s.emit t with keyAllowed := false }

/-- The least column in which a scalar may go on. -/
def leastColumn (s : Scan) : Nat := (s.indents.head?.map (· + 1)).getD 0

def scalar? (s : Scan) (mark : Mark) : Option Scan := do
  let s ← s.noteCandidate? mark
  let (y, keyAllowed, rest) ← scanScalar s.inFlow s.leastColumn s.rest
  some { s.emit (.scalar y) with keyAllowed := keyAllowed, rest := rest }

/-- Takes the token that begins with a character at a mark, which is followed by `r`. -/
def tokenHere? (s : Scan) (c : Char) (mark : Mark) (r : Source) : Option Scan :=
  let past : Scan := { s with rest := r }
  match Source.afterMarker? '-' s.rest, Source.afterMarker? '.' s.rest with
  | some rest, _ => { s with rest := rest }.marker? .documentStart
  | none, some rest => { s with rest := rest }.marker? .documentEnd
  | none, none =>
    if c = '[' then past.openFlow? mark .openList
    else if c = '\x7b' then past.openFlow? mark .openTable
    else if c = ']' then past.closeFlow? .closeList
    else if c = '\x7d' then past.closeFlow? .closeTable
    else if c = ',' then past.comma?
    else if c = '-' ∧ Source.endsWord r then past.dash? mark
    else if c = '?' ∧ (s.inFlow ∨ Source.endsWord r) then past.standalone? mark .key
    else if c = ':' ∧ (s.inFlow ∨ Source.endsWord r) then past.colon? mark
    else s.scalar? mark

/-! ### Lengths -/

@[simp] theorem rest_emit (s : Scan) (t : Token) : (s.emit t).rest = s.rest := rfl

@[simp] theorem rest_openBlock (s : Scan) (column place : Nat) (t : Token) :
    (s.openBlock column place t).rest = s.rest := by
  unfold openBlock insertAt
  split <;> rfl

@[simp] theorem rest_closeTo (s : Scan) (kept : List Nat) : (s.closeTo kept).rest = s.rest := by
  unfold closeTo
  split <;> rfl

@[simp] theorem rest_closeDeeper (s : Scan) (column : Nat) :
    (s.closeDeeper column).rest = s.rest := rest_closeTo ..

theorem rest_dropCandidate? {s t : Scan} (h : s.dropCandidate? = some t) : t.rest = s.rest := by
  unfold dropCandidate? at h
  split at h
  · cases h
  · cases h; rfl

theorem rest_noteCandidate? {s t : Scan} {mark : Mark} (h : s.noteCandidate? mark = some t) :
    t.rest = s.rest := by
  unfold noteCandidate? at h
  split at h
  · obtain ⟨u, hu, rfl⟩ := Option.map_eq_some_iff.1 h
    exact (rest_dropCandidate? hu :)
  · cases h; rfl

theorem rest_standalone? {s t : Scan} {mark : Mark} {token : Token}
    (h : s.standalone? mark token = some t) : t.rest = s.rest := by
  unfold standalone? at h
  split at h
  · obtain ⟨u, hu, rfl⟩ := Option.map_eq_some_iff.1 h
    exact (rest_dropCandidate? hu :)
  · split at h
    · obtain ⟨u, hu, rfl⟩ := Option.map_eq_some_iff.1 h
      simpa using rest_dropCandidate? hu
    · cases h

theorem rest_colon? {s t : Scan} {mark : Mark} (h : s.colon? mark = some t) : t.rest = s.rest := by
  unfold colon? at h
  split at h
  · cases h
    simp [colonAfter, insertAt]
  · exact rest_standalone? h

theorem rest_openFlow? {s t : Scan} {mark : Mark} {token : Token}
    (h : s.openFlow? mark token = some t) : t.rest = s.rest := by
  obtain ⟨u, hu, rfl⟩ := Option.map_eq_some_iff.1 h
  exact (rest_noteCandidate? hu :)

theorem rest_closeFlow? {s t : Scan} {token : Token} (h : s.closeFlow? token = some t) :
    t.rest = s.rest := by
  obtain ⟨u, hu, h⟩ := Option.bind_eq_some_iff.1 h
  split at h
  · cases h
    exact (rest_dropCandidate? hu :)
  · cases h

theorem rest_comma? {s t : Scan} (h : s.comma? = some t) : t.rest = s.rest := by
  obtain ⟨u, hu, rfl⟩ := Option.map_eq_some_iff.1 h
  exact (rest_dropCandidate? hu :)

theorem rest_dash? {s t : Scan} {mark : Mark} (h : s.dash? mark = some t) : t.rest = s.rest := by
  unfold dash? at h
  split at h
  · obtain ⟨u, hu, rfl⟩ := Option.map_eq_some_iff.1 h
    simpa using rest_dropCandidate? hu
  · cases h

theorem rest_marker? {s t : Scan} {token : Token} (h : s.marker? token = some t) :
    t.rest = s.rest := by
  obtain ⟨u, hu, rfl⟩ := Option.map_eq_some_iff.1 h
  simpa using rest_dropCandidate? hu

theorem length_scalar? {s t : Scan} {mark : Mark} (h : s.scalar? mark = some t) :
    t.rest.length < s.rest.length := by
  obtain ⟨u, hu, h⟩ := Option.bind_eq_some_iff.1 h
  obtain ⟨⟨y, b, rest⟩, hy, h⟩ := Option.bind_eq_some_iff.1 h
  cases h
  rw [← rest_noteCandidate? hu]
  exact length_scanScalar hy

theorem length_tokenHere? {s t : Scan} {c : Char} {mark : Mark} {r : Source}
    (hs : s.rest = (c, mark) :: r) (h : s.tokenHere? c mark r = some t) :
    t.rest.length < s.rest.length := by
  have hr : r.length < s.rest.length := by rw [hs]; exact Nat.lt_succ_self _
  unfold tokenHere? at h
  split at h
  next hm => rw [rest_marker? h]; exact Source.length_afterMarker? hm
  next _ hm => rw [rest_marker? h]; exact Source.length_afterMarker? hm
  next =>
    repeat' split at h
    · rw [rest_openFlow? h]; exact hr
    · rw [rest_openFlow? h]; exact hr
    · rw [rest_closeFlow? h]; exact hr
    · rw [rest_closeFlow? h]; exact hr
    · rw [rest_comma? h]; exact hr
    · rw [rest_dash? h]; exact hr
    · rw [rest_standalone? h]; exact hr
    · rw [rest_colon? h]; exact hr
    · exact length_scalar? h

theorem length_skipGap (s : Scan) : s.skipGap.rest.length ≤ s.rest.length :=
  Source.length_skipGap ..

/-- All tokens, those found so far and those from the place that has been reached to the end. -/
def tokens? (s : Scan) : Option (List Token) :=
  match h : s.skipGap.rest with
  | [] => (s.skipGap.closeTo []).dropCandidate?.map (·.found.reverse)
  | (c, mark) :: r =>
    match ht : (s.skipGap.closeDeeper mark.column).tokenHere? c mark r with
    | some t =>
      have := length_tokenHere? (by rw [rest_closeDeeper, h]) ht
      t.tokens?
    | none => none
termination_by s.rest.length
decreasing_by
  rw [rest_closeDeeper] at this
  exact Nat.lt_of_lt_of_le this s.length_skipGap

end Scan

/-- The tokens of a text. -/
def tokens? (s : String) : Option (List Token) := do Scan.tokens? { rest := ← Source.ofText? s }

end RecordFilters.Yaml
