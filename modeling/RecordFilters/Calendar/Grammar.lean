import RecordFilters.Calendar.Day
import RecordFilters.Text.Blank

/-! # Days in texts

The grammars in which a day may be written. In the tolerant ones a number may have blanks before it
and fewer digits than its place allows, and a year beyond four digits needs its sign; the strict
grammar of time stamps with an offset has a fixed number of digits everywhere.

* `Day.ofDateText?` reads stored days.
* `Day.ofAnyText?` reads days and times in condition and field values; of a time with an offset it
  takes the local day. -/

namespace RecordFilters.Day

open Text

/-- A number of `least` to `most` digits, and the rest. -/
def readNumber (least most : Nat) (cs : List Char) : Option (Nat × List Char) :=
  let ds := (cs.take most).takeWhile Char.isDigit
  if ds.length < least then none else some (digitsValue ds, cs.drop ds.length)

/-- One given character. -/
def readChar (c : Char) : List Char → Option (List Char)
  | d :: r => if d = c then some r else none
  | [] => none

/-- A number of up to two digits, blanks before it allowed, within bounds. -/
def readField (least most : Nat) (cs : List Char) : Option (Nat × List Char) := do
  let (n, r) ← readNumber 1 2 (dropBlanks cs)
  if least ≤ n ∧ n ≤ most then some (n, r) else none

/-- A year: any number of digits after a sign, up to four without one; blanks before it allowed. -/
def readYear (cs : List Char) : Option (Int × List Char) :=
  match dropBlanks cs with
  | '-' :: r => (readNumber 1 r.length r).map fun (n, r) => (-(n : Int), r)
  | '+' :: r => (readNumber 1 r.length r).map fun (n, r) => (n, r)
  | r => (readNumber 1 4 r).map fun (n, r) => (n, r)

/-- Year, month and day with `gap` in front of each dash, and the rest. -/
def readDate (gap : List Char → List Char) (cs : List Char) : Option (Day × List Char) := do
  let (year, r) ← readYear cs
  let (month, r) ← readField 1 12 (← readChar '-' (gap r))
  let (day, r) ← readField 1 31 (← readChar '-' (gap r))
  some (← of? year month day, r)

/-- Hours, minutes and seconds, of which a minute may have sixty-one, up to the end. -/
def readTime (cs : List Char) : Option Unit := do
  let (_, r) ← readField 0 23 cs
  let (_, r) ← readField 0 59 (← readChar ':' r)
  let (_, r) ← readField 0 60 (← readChar ':' r)
  if r.isEmpty then some () else none

/-- The day in a text that holds nothing else; blanks are allowed around the dashes and after. -/
def ofDateText? (s : String) : Option Day := do
  let (day, r) ← readDate dropBlanks s.toList
  if (dropBlanks r).isEmpty then some day else none

/-- A number of exactly two digits within bounds. -/
def readPair (least most : Nat) (cs : List Char) : Option (List Char) := do
  let (n, r) ← readNumber 2 2 cs
  if least ≤ n ∧ n ≤ most then some r else none

/-- A fraction of a second, if a point announces one. -/
def readFraction : List Char → Option (List Char)
  | '.' :: r => if (r.takeWhile Char.isDigit).isEmpty then none else some (r.dropWhile Char.isDigit)
  | r => some r

/-- The offset of a time zone, up to the end: the letter `Z` or a sign, hours and minutes. -/
def readOffset : List Char → Option Unit
  | [c] => if c = 'Z' ∨ c = 'z' then some () else none
  | c :: r => do
    if c = '+' ∨ c = '-' ∨ c = '\u2212' then
      let r ← readChar ':' (← readPair 0 23 r)
      if (← readPair 0 59 r).isEmpty then some () else none
    else none
  | [] => none

/-- The local day of a time stamp with an offset. -/
def ofStampText? (cs : List Char) : Option Day := do
  let (year, r) ← readNumber 4 4 cs
  let (month, r) ← readNumber 2 2 (← readChar '-' r)
  let (day, r) ← readNumber 2 2 (← readChar '-' r)
  let date ← of? year month day
  match r with
  | c :: r =>
    if c = 'T' ∨ c = 't' ∨ c = ' ' then
      let r ← readChar ':' (← readPair 0 23 r)
      let r ← readChar ':' (← readPair 0 59 r)
      let r ← readFraction (← readPair 0 60 r)
      readOffset r
      some date
    else none
  | [] => none

/-- The day in a text that holds a day or a time, whatever blanks stand around it. -/
def ofAnyText? (s : String) : Option Day :=
  let cs := trimBlanks s.toList
  let plain := do
    let (day, r) ← readDate id cs
    if r.isEmpty then some day else none
  let joined := do
    let (day, r) ← readDate id cs
    readTime (← readChar 'T' r)
    some day
  let spaced := do
    let (day, r) ← readDate id cs
    readTime (dropBlanks r)
    some day
  plain <|> joined <|> spaced <|> ofStampText? cs

end RecordFilters.Day
