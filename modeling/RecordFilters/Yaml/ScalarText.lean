import RecordFilters.Yaml.Basic
import RecordFilters.Yaml.Source

/-! # The text of one scalar

A scalar may span lines. What stands between two of its words is a *gap*: the blanks and line breaks
there, of which only the breaks count if there are any. Within each of the three kinds of scalars
the text so far and the gap after it are kept in reverse.

* `scanPlain` reads a scalar without quotation marks, `scanSingle` and `scanDouble` one within them.
* `scanScalar` reads any of the three. -/

namespace RecordFilters.Yaml

/-- Line breaks as they are folded. A single line feed is a space and the first of several is left
out; a separator of lines or paragraphs stays, and so does all that follows it. -/
def foldBreaks : List Char → List Char
  | ['\n'] => [' ']
  | '\n' :: r => r
  | breaks => breaks

/-- What a gap stands for, in reverse. -/
def joinGap (blanks breaks : List Char) : List Char :=
  if breaks.isEmpty then blanks else (foldBreaks breaks.reverse).reverse

/-! ### Without quotation marks -/

/-- Whether a character has a meaning of its own inside flow collections. -/
def isFlowIndicator (c : Char) : Bool := [',', '[', ']', '\x7b', '\x7d'].contains c

/-- Whether a scalar without quotation marks has ended here, where a word begins or goes on. -/
def endsPlain (inFlow inGap : Bool) (indent : Nat) : Source → Bool
  | [] => true
  | (c, mark) :: r =>
    inGap && (!inFlow && mark.column < indent || c = '#' || Source.atMarker ((c, mark) :: r)) ||
      c = ':' && Source.endsWord r || inFlow && isFlowIndicator c

/-- Whether a colon stands here that neither ends a word nor belongs to it. -/
def strayColon (inFlow : Bool) : Source → Bool
  | (':', _) :: (d, _) :: _ => inFlow && (isFlowIndicator d || d = '?')
  | _ => false

/-- A scalar without quotation marks: its text, whether a line break follows it, and what comes
after that. In block collections the following lines have to be indented by `indent`. -/
def scanPlain (inFlow : Bool) (indent : Nat) (text blanks breaks : List Char) :
    Source → Option (String × Bool × Source)
  | [] => some (String.ofList text.reverse, !breaks.isEmpty, [])
  | (c, mark) :: r =>
    if isBreak c then scanPlain inFlow indent text blanks (c :: breaks) r
    else if c = '\t' ∧ !breaks.isEmpty ∧ mark.column < indent then none
    else if isBlank c then scanPlain inFlow indent text (c :: blanks) breaks r
    else if endsPlain inFlow (!blanks.isEmpty || !breaks.isEmpty) indent ((c, mark) :: r) then
      some (String.ofList text.reverse, !breaks.isEmpty, (c, mark) :: r)
    else if strayColon inFlow ((c, mark) :: r) then none
    else scanPlain inFlow indent (c :: joinGap blanks breaks ++ text) [] [] r

/-- Whether a scalar without quotation marks may begin with a character. -/
def startsPlain (inFlow : Bool) (c : Char) (r : Source) : Bool :=
  if c = '-' then !Source.endsWord r
  else if c = '?' ∨ c = ':' then !inFlow && !Source.endsWord r
  else !isFlowIndicator c && !"#&*!|>%@`\t".toList.contains c

/-! ### In single quotation marks -/

/-- A scalar in single quotation marks, after the first of them; two of them inside stand for
one. -/
def scanSingle (text blanks breaks : List Char) : Source → Option (String × Source)
  | [] => none
  | ('\'', _) :: ('\'', _) :: r => scanSingle ('\'' :: joinGap blanks breaks ++ text) [] [] r
  | ('\'', _) :: r => some (String.ofList (joinGap blanks breaks ++ text).reverse, r)
  | (c, mark) :: r =>
    if isBreak c then scanSingle text blanks (c :: breaks) r
    else if isBlank c then scanSingle text (c :: blanks) breaks r
    else if Source.atMarker ((c, mark) :: r) then none
    else scanSingle (c :: joinGap blanks breaks ++ text) [] [] r

/-! ### In double quotation marks -/

/-- The character that a one-letter escape stands for. -/
def escaped? : Char → Option Char
  | '0' => some '\x00'
  | 'a' => some '\x07'
  | 'b' => some '\x08'
  | 't' | '\t' => some '\t'
  | 'n' => some '\n'
  | 'v' => some '\x0b'
  | 'f' => some '\x0c'
  | 'r' => some '\r'
  | 'e' => some '\x1b'
  | ' ' => some ' '
  | '"' => some '"'
  | '/' => some '/'
  | '\\' => some '\\'
  | 'N' => some '\u0085'
  | '_' => some '\u00a0'
  | 'L' => some '\u2028'
  | 'P' => some '\u2029'
  | _ => none

/-- The character with a hexadecimal number. -/
def numbered? (cs : List Char) : Option Char :=
  (Scalar.ofDigits? 16 cs).bind fun n => if n.isValidChar then some (Char.ofNat n) else none

/-- A scalar in double quotation marks, after the first of them. A backslash at the end of a line
takes the break away, of which `held` keeps a record. -/
def scanDouble (text blanks breaks : List Char) (held : Bool) : Source → Option (String × Source)
  | [] => none
  | ('"', _) :: r => some (String.ofList (gap text).reverse, r)
  | ('\\', _) :: ('x', _) :: (a, _) :: (b, _) :: r =>
    match numbered? [a, b] with
    | some c => scanDouble (c :: gap text) [] [] false r
    | none => none
  | ('\\', _) :: ('u', _) :: (a, _) :: (b, _) :: (c, _) :: (d, _) :: r =>
    match numbered? [a, b, c, d] with
    | some c => scanDouble (c :: gap text) [] [] false r
    | none => none
  | ('\\', _) :: ('U', _) :: (a, _) :: (b, _) :: (c, _) :: (d, _) :: (e, _) :: (f, _) :: (g, _) ::
      (h, _) :: r =>
    match numbered? [a, b, c, d, e, f, g, h] with
    | some c => scanDouble (c :: gap text) [] [] false r
    | none => none
  | ('\\', _) :: (e, _) :: r =>
    if isBreak e then scanDouble (gap text) [] [] true r
    else match escaped? e with
      | some c => scanDouble (c :: gap text) [] [] false r
      | none => none
  | (c, mark) :: r =>
    if isBreak c then scanDouble text blanks (c :: breaks) held r
    else if isBlank c then scanDouble text (if held then [] else c :: blanks) breaks held r
    else if Source.atMarker ((c, mark) :: r) then none
    else scanDouble (c :: gap text) [] [] false r
where
  /-- The text with the gap after it; after a held break only further breaks count. -/
  gap (text : List Char) : List Char :=
    if held then breaks ++ text else joinGap blanks breaks ++ text

/-! ### Any scalar -/

/-- A scalar, whether a key may begin after it, and what follows it. -/
def scanScalar (inFlow : Bool) (indent : Nat) : Source → Option (Yaml × Bool × Source)
  | [] => none
  | (c, _) :: r =>
    if c = '\'' then (scanSingle [] [] [] r).map fun (s, rest) => (quoted s, false, rest)
    else if c = '"' then (scanDouble [] [] [] false r).map fun (s, rest) => (quoted s, false, rest)
    else if startsPlain inFlow c r then
      (scanPlain inFlow indent [c] [] [] r).map fun (s, rest) => (plain s, rest)
    else none

/-! ### Lengths -/

theorem length_scanPlain {inFlow : Bool} {indent : Nat} {text blanks breaks : List Char}
    {src : Source} {s : String} {b : Bool} {r : Source}
    (h : scanPlain inFlow indent text blanks breaks src = some (s, b, r)) :
    r.length ≤ src.length := by
  fun_induction scanPlain inFlow indent text blanks breaks src with
  | case1 | case5 => cases h; exact Nat.le_refl _
  | case3 | case6 => cases h
  | case2 | case4 | case7 =>
    rename_i ih
    exact Nat.le_succ_of_le (ih h)

theorem length_scanSingle {text blanks breaks : List Char} {src : Source} {s : String} {r : Source}
    (h : scanSingle text blanks breaks src = some (s, r)) : r.length ≤ src.length := by
  fun_induction scanSingle text blanks breaks src with
  | case1 | case6 => cases h
  | case3 => cases h; exact Nat.le_succ _
  | _ =>
    rename_i ih
    have := ih h
    simp only [List.length_cons]
    omega

theorem length_scanDouble {text blanks breaks : List Char} {held : Bool} {src : Source} {s : String}
    {r : Source} (h : scanDouble text blanks breaks held src = some (s, r)) :
    r.length ≤ src.length := by
  fun_induction scanDouble text blanks breaks held src with
  | case2 => cases h; exact Nat.le_succ _
  | case1 | case4 | case6 | case8 | case11 | case14 => cases h
  | _ =>
    rename_i ih
    have := ih h
    simp only [List.length_cons]
    omega

theorem length_scanScalar {inFlow : Bool} {indent : Nat} {src : Source} {y : Yaml} {b : Bool}
    {r : Source} (h : scanScalar inFlow indent src = some (y, b, r)) : r.length < src.length := by
  match src, h with
  | (c, _) :: rest, h =>
    simp only [scanScalar] at h
    split at h
    · obtain ⟨⟨s, r'⟩, hs, e⟩ := Option.map_eq_some_iff.1 h
      cases e
      exact Nat.lt_succ_of_le (length_scanSingle hs)
    · split at h
      · obtain ⟨⟨s, r'⟩, hs, e⟩ := Option.map_eq_some_iff.1 h
        cases e
        exact Nat.lt_succ_of_le (length_scanDouble hs)
      · split at h
        · obtain ⟨⟨s, b', r'⟩, hs, e⟩ := Option.map_eq_some_iff.1 h
          cases e
          exact Nat.lt_succ_of_le (length_scanPlain hs)
        · cases h

end RecordFilters.Yaml
