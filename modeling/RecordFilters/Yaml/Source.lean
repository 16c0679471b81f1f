/-! # Characters with their places

In YAML the column in which something stands decides to which collection it belongs, and a key has
to stand on one line with its colon. So a text is read as a list of characters with their places.

A line ends with a line feed, a carriage return or both, with the character *next line*, or with one
of the Unicode separators of lines and paragraphs. The first four are the same line feed here; the
separators stay apart, because a text that is folded keeps them. -/

namespace RecordFilters.Yaml

/-- A place in a text. -/
structure Mark where
  line : Nat
  column : Nat
  deriving DecidableEq

/-- Characters with their places. -/
abbrev Source := List (Char × Mark)

/-- Line breaks of all kinds but the separators as line feeds. -/
def unifyBreaks : List Char → List Char
  | '\r' :: '\n' :: r => '\n' :: unifyBreaks r
  | '\r' :: r => '\n' :: unifyBreaks r
  | '\u0085' :: r => '\n' :: unifyBreaks r
  | c :: r => c :: unifyBreaks r
  | [] => []

def isBreak (c : Char) : Bool := c = '\n' || c = '\u2028' || c = '\u2029'

def isBlank (c : Char) : Bool := c = ' ' || c = '\t'

/-- Characters that a document may hold. -/
def isAdmitted (c : Char) : Bool :=
  let n := c.toNat
  n = 0x9 || n = 0xA || n = 0xD || (0x20 ≤ n && n ≤ 0x7E) || n = 0x85 ||
    (0xA0 ≤ n && n ≤ 0xFFFD) || 0x10000 ≤ n

namespace Source

/-- Characters of which the first stands in a given place. -/
def ofChars (mark : Mark) : List Char → Source
  | [] => []
  | c :: r =>
    (c, mark) :: ofChars (if isBreak c then ⟨mark.line + 1, 0⟩ else ⟨mark.line, mark.column + 1⟩) r

/-- The source of a text. -/
def ofText? (s : String) : Option Source :=
  if s.toList.all isAdmitted then some (ofChars ⟨0, 0⟩ (unifyBreaks s.toList)) else none

/-- Whether a word ends here. -/
def endsWord : Source → Bool
  | [] => true
  | (c, _) :: _ => isBlank c || isBreak c

/-- What follows three equal characters at the start of a line, such as the dashes between
documents. -/
def afterMarker? (char : Char) : Source → Option Source
  | (a, mark) :: (b, _) :: (c, _) :: r =>
    if mark.column = 0 ∧ a = char ∧ b = char ∧ c = char ∧ endsWord r then some r else none
  | _ => none

/-- Whether a line begins here that stands between documents. -/
def atMarker (src : Source) : Bool := (afterMarker? '-' src).isSome || (afterMarker? '.' src).isSome

/-- What follows blanks, line breaks and comments, and whether a key may begin there. Within block
collections a line break lets a key begin, and where a key may begin no tab is skipped. A byte order
mark may stand at the start of any line. -/
def skipGap (inFlow : Bool) (keyAllowed inComment : Bool) : Source → Bool × Source
  | [] => (keyAllowed, [])
  | (c, mark) :: r =>
    if isBreak c then skipGap inFlow (keyAllowed || !inFlow) false r
    else if inComment || c = ' ' then skipGap inFlow keyAllowed inComment r
    else if c = '#' then skipGap inFlow keyAllowed true r
    else if c = '\ufeff' ∧ mark.column = 0 then skipGap inFlow keyAllowed false r
    else if c = '\t' ∧ (inFlow ∨ !keyAllowed) then skipGap inFlow keyAllowed false r
    else (keyAllowed, (c, mark) :: r)

theorem length_afterMarker? {char : Char} {src r : Source} (h : afterMarker? char src = some r) :
    r.length < src.length := by
  unfold afterMarker? at h
  split at h
  · split at h
    · cases h
      simp only [List.length_cons]
      omega
    · cases h
  · cases h

theorem length_skipGap (inFlow keyAllowed inComment : Bool) (src : Source) :
    (skipGap inFlow keyAllowed inComment src).2.length ≤ src.length := by
  fun_induction skipGap with
  | case1 => exact Nat.le_refl _
  | case7 => exact Nat.le_refl _
  | _ => simp only [List.length_cons]; omega

end Source

end RecordFilters.Yaml
