import RecordFilters.Json.Numeral
import RecordFilters.Json.Outline

/-! # Reading JSON texts

A text is first cut into tokens; the tokens then drive a machine whose stack holds the arrays and
objects that are still open. A document has its arrays and objects nested at most 127 deep. -/

namespace RecordFilters.Json

inductive Token
  | openArray
  | closeArray
  | openObject
  | closeObject
  | comma
  | colon
  /-- A string, if it has no blot. -/
  | text (s : Option String)
  | atom (o : Outline)

/-! ### Tokens -/

/-- The value of four hexadecimal digits. -/
def hexValue? (cs : List Char) : Option Nat :=
  cs.foldlM (fun n c =>
    if c.isDigit then some (16 * n + (c.toNat - 48))
    else if 'a' ≤ c ∧ c ≤ 'f' then some (16 * n + (c.toNat - 87))
    else if 'A' ≤ c ∧ c ≤ 'F' then some (16 * n + (c.toNat - 55))
    else none) 0

/-- The character that a one-letter escape stands for. -/
def escaped? : Char → Option Char
  | '"' => some '"'
  | '\\' => some '\\'
  | '/' => some '/'
  | 'b' => some '\x08'
  | 'f' => some '\x0c'
  | 'n' => some '\n'
  | 'r' => some '\r'
  | 't' => some '\t'
  | _ => none

/-- Whether a number is half of a pair of UTF-16 surrogates. -/
def isSurrogate (n : Nat) : Bool := 0xD800 ≤ n && n < 0xE000

/-- The character written as a pair of UTF-16 surrogates. -/
def pairedSurrogates? (high low : Nat) : Option Char :=
  if 0xD800 ≤ high ∧ high < 0xDC00 ∧ 0xDC00 ≤ low ∧ low < 0xE000 then
    some (Char.ofNat (0x10000 + (high - 0xD800) * 0x400 + (low - 0xDC00)))
  else none

/-- The characters up to the closing quotation mark, and what follows it. Half of a surrogate pair
is a blot, after which the string is not `clean`. -/
def readString (clean : Bool) (before : List Char) :
    List Char → Option (Option String × List Char)
  | '"' :: r => some (if clean then some (String.ofList before.reverse) else none, r)
  | '\\' :: 'u' :: a :: b :: c :: d :: '\\' :: 'u' :: e :: f :: g :: h :: r =>
    match hexValue? [a, b, c, d] with
    | none => none
    | some n =>
      match (hexValue? [e, f, g, h]).bind (pairedSurrogates? n) with
      | some c => readString clean (c :: before) r
      | none =>
        readString (clean && !isSurrogate n) (Char.ofNat n :: before)
          ('\\' :: 'u' :: e :: f :: g :: h :: r)
  | '\\' :: 'u' :: a :: b :: c :: d :: r =>
    match hexValue? [a, b, c, d] with
    | none => none
    | some n => readString (clean && !isSurrogate n) (Char.ofNat n :: before) r
  | '\\' :: c :: r =>
    match escaped? c with
    | some c => readString clean (c :: before) r
    | none => none
  | c :: r => if c.toNat < 0x20 then none else readString clean (c :: before) r
  | [] => none
termination_by structural cs => cs

theorem length_of_readString {clean : Bool} {before cs r : List Char} {s : Option String}
    (h : readString clean before cs = some (s, r)) : r.length < cs.length := by
  fun_induction readString clean before cs with
  | case1 => simp only [Option.some.injEq, Prod.mk.injEq] at h; simp [h.2]
  | case3 | case4 | case6 | case7 | case10 =>
    rename_i ih
    have := ih h
    simp only [List.length_cons] at this ⊢
    omega
  | _ => cases h

/-- The tokens of a text. -/
def tokens : List Char → Option (List Token)
  | [] => some []
  | '[' :: r => (tokens r).map (.openArray :: ·)
  | ']' :: r => (tokens r).map (.closeArray :: ·)
  | '\x7b' :: r => (tokens r).map (.openObject :: ·)
  | '\x7d' :: r => (tokens r).map (.closeObject :: ·)
  | ',' :: r => (tokens r).map (.comma :: ·)
  | ':' :: r => (tokens r).map (.colon :: ·)
  | '"' :: r =>
    match h : readString true [] r with
    | some (s, r') =>
      have := length_of_readString h
      (tokens r').map (.text s :: ·)
    | none => none
  | 'n' :: 'u' :: 'l' :: 'l' :: r => (tokens r).map (.atom (.atom .null) :: ·)
  | 't' :: 'r' :: 'u' :: 'e' :: r => (tokens r).map (.atom (.atom (.bool true)) :: ·)
  | 'f' :: 'a' :: 'l' :: 's' :: 'e' :: r => (tokens r).map (.atom (.atom (.bool false)) :: ·)
  | c :: r =>
    if c = ' ' ∨ c = '\t' ∨ c = '\n' ∨ c = '\r' then tokens r
    else if c.isDigit ∨ c = '-' then
      have : (r.dropWhile isNumeralChar).length < r.length + 1 :=
        Nat.lt_succ_of_le (List.dropWhile_sublist _).length_le
      match readNumeral (c :: r.takeWhile isNumeralChar) with
      | some j =>
        (tokens (r.dropWhile isNumeralChar)).map (.atom ((j.map .atom).getD .blot) :: ·)
      | none => none
    else none
termination_by cs => cs.length
decreasing_by all_goals simp_wf; try omega

/-! ### The machine -/

/-- An array or object that is still open; what it holds so far stands in reverse. -/
inductive Frame
  | items (before : List Outline)
  | members (before : List (Option String × Outline)) (name : Option String)

/-- What has been read, by what may come next. -/
inductive Reading
  /-- A value must come. -/
  | value (stack : List Frame)
  /-- An array has just been opened: a value or its end. -/
  | firstItem (stack : List Frame)
  /-- After an item: a comma or the end of the array. -/
  | nextItem (stack : List Frame) (before : List Outline)
  /-- An object has just been opened: a name or its end. -/
  | firstName (stack : List Frame)
  /-- After a comma in an object: a name. -/
  | memberName (stack : List Frame) (before : List (Option String × Outline))
  /-- After a name: a colon. -/
  | colon (stack : List Frame) (before : List (Option String × Outline)) (name : Option String)
  /-- After a member: a comma or the end of the object. -/
  | nextMember (stack : List Frame) (before : List (Option String × Outline))
  /-- The whole document: nothing. -/
  | finished (o : Outline)

namespace Reading

/-- A value is complete. -/
def complete (o : Outline) : List Frame → Reading
  | [] => .finished o
  | .items before :: stack => .nextItem stack (o :: before)
  | .members before name :: stack => .nextMember stack ((name, o) :: before)

/-- How many arrays and objects may enclose a value. -/
def maxDepth : Nat := 127

/-- An array or object is complete. -/
def close (o : Outline) (stack : List Frame) : Reading :=
  complete (if stack.length < maxDepth then o else .blot) stack

/-- A value begins. -/
def start (stack : List Frame) : Token → Option Reading
  | .atom o => some (complete o stack)
  | .text s => some (complete ((s.map fun s => .atom (.string s)).getD .blot) stack)
  | .openArray => some (.firstItem stack)
  | .openObject => some (.firstName stack)
  | _ => none

def step : Reading → Token → Option Reading
  | .value stack, t => start stack t
  | .firstItem stack, .closeArray => some (close (.array []) stack)
  | .firstItem stack, t => start (.items [] :: stack) t
  | .nextItem stack before, .comma => some (.value (.items before :: stack))
  | .nextItem stack before, .closeArray => some (close (.array before.reverse) stack)
  | .firstName stack, .closeObject => some (close (.object []) stack)
  | .firstName stack, .text name => some (.colon stack [] name)
  | .memberName stack before, .text name => some (.colon stack before name)
  | .colon stack before name, .colon => some (.value (.members before name :: stack))
  | .nextMember stack before, .comma => some (.memberName stack before)
  | .nextMember stack before, .closeObject => some (close (.object before.reverse) stack)
  | _, _ => none

end Reading

/-- The outline of a text. -/
def outline? (s : String) : Option Outline := do
  match ← (← tokens s.toList).foldlM Reading.step (.value []) with
  | .finished o => some o
  | _ => none

/-- The document that a text holds. -/
def read? (s : String) : Option Json := (outline? s).bind Outline.json?

end RecordFilters.Json
