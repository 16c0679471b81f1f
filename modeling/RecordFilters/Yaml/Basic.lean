import RecordFilters.Number.Decimal
import RecordFilters.Json.Basic
import RecordFilters.Number.Layout

/-! # YAML documents

A YAML document as a tree of scalars, sequences and mappings. A scalar keeps its text beside the
value that it stands for: a reader that wants a text takes any scalar as it is written, one that
wants a tree of values takes what the scalars stand for.

* `Scalar.ofPlain` is what a scalar without quotation marks stands for.
* `Yaml.isRegular`: no mapping has a key twice, integers have at most 64 bits, and the nesting is
  not too deep. -/

namespace RecordFilters

/-- The value of a scalar. -/
inductive Scalar
  | null
  | bool (b : Bool)
  | whole (n : Int)
  | real (n : Number)
  | text (s : String)
  deriving DecidableEq

inductive Yaml
  | scalar (text : String) (value : Scalar)
  | sequence (items : List Yaml)
  | mapping (members : List (Yaml × Yaml))

namespace Scalar

open Text

/-- The number that the digits of a base spell, of which there has to be one. -/
def ofDigits? (base : Nat) (cs : List Char) : Option Nat :=
  if cs.isEmpty then none
  else cs.foldlM (fun n c =>
    let d := if c.isDigit then c.toNat - 48 else if c.isLower then c.toNat - 87
      else if c.isUpper then c.toNat - 55 else base
    if d < base then some (base * n + d) else none) 0

/-- The number that digits spell, in the base that they are marked with. -/
def magnitude? (cs : List Char) : Option Nat :=
  match cs with
  | '0' :: 'x' :: r => ofDigits? 16 r
  | '0' :: 'o' :: r => ofDigits? 8 r
  | '0' :: 'b' :: r => ofDigits? 2 r
  | r => ofDigits? 10 r

/-- Digits after a zero are no numeral. -/
def isPaddedDigits (cs : List Char) : Bool :=
  match (Decimal.spanSign cs).2 with
  | '0' :: c :: r => (c :: r).all Char.isDigit
  | _ => false

/-- An integer of at most 128 bits. -/
def integer? (cs : List Char) : Option Int :=
  if isPaddedDigits cs then none
  else
    let (negative, ds) := Decimal.spanSign cs
    (magnitude? ds).bind fun n =>
      if negative then if n ≤ Nat.pow 2 127 then some (-n) else none
      else if n < Nat.pow 2 128 then some n else none

/-- A number that is written as no integer. -/
def real? (cs : List Char) : Option Number :=
  let s := String.ofList cs
  let unsigned := match cs with
    | '+' :: r => r
    | _ => cs
  if isPaddedDigits cs then none
  else if [".inf", ".Inf", ".INF"].contains (String.ofList unsigned) then some (.infinite false)
  else if ["-.inf", "-.Inf", "-.INF"].contains s then some (.infinite true)
  else if [".nan", ".NaN", ".NAN"].contains s then some .nan
  else (Number.ofText? s).filter Number.isFinite

/-- The value of a scalar without quotation marks. -/
def ofPlain (s : String) : Scalar :=
  if ["", "~", "null", "Null", "NULL"].contains s then .null
  else if ["true", "True", "TRUE"].contains s then .bool true
  else if ["false", "False", "FALSE"].contains s then .bool false
  else match integer? s.toList with
    | some n => .whole n
    | none =>
      match real? s.toList with
      | some n => .real n
      | none => .text s

/-- The same value; the two zeros are one number, and so are all undefined numbers. -/
def same : Scalar → Scalar → Bool
  | .real n, .real m => n = m || n.same m
  | v, w => v = w

/-- Whether an integer has at most 64 bits. -/
def isRegular : Scalar → Bool
  | .whole n => Number.leastWhole ≤ n && n < UInt64.size
  | _ => true

end Scalar

namespace Yaml

def plain (s : String) : Yaml := .scalar s (.ofPlain s)

def quoted (s : String) : Yaml := .scalar s (.text s)

/-- The node that stands where nothing is written. -/
def empty : Yaml := plain ""

instance : Inhabited Yaml := ⟨empty⟩

/-- Whether nothing is written. -/
def isVoid : Yaml → Bool
  | .scalar text value => text.isEmpty && value = .null
  | _ => false

def isNull : Yaml → Bool
  | .scalar _ value => value = .null
  | _ => false

/-- The text that a node stands for. -/
def asText? : Yaml → Option String
  | .scalar _ (.text s) => some s
  | _ => none

mutual

/-- The same value, however it is written. The order of the members of a mapping does not count. -/
def same : Yaml → Yaml → Bool
  | .scalar _ v, .scalar _ w => v.same w
  | .sequence l, .sequence m => sameItems l m
  | .mapping l, .mapping m => l.length = m.length && sameMembers l m
  | _, _ => false

def sameItems : List Yaml → List Yaml → Bool
  | [], [] => true
  | a :: r, b :: s => same a b && sameItems r s
  | _, _ => false

/-- Whether all members are among others. -/
def sameMembers : List (Yaml × Yaml) → List (Yaml × Yaml) → Bool
  | [], _ => true
  | (a, x) :: r, m => (m.any fun p => same a p.1 && same x p.2) && sameMembers r m

end

mutual

/-- Whether no mapping has a key twice, all integers have at most 64 bits and at most `depth`
collections enclose a scalar. -/
def regularWithin (depth : Nat) : Yaml → Bool
  | .scalar _ value => value.isRegular
  | .sequence items => 0 < depth && regularItems (depth - 1) items
  | .mapping members => 0 < depth && regularMembers (depth - 1) members

def regularItems (depth : Nat) : List Yaml → Bool
  | [] => true
  | a :: r => regularWithin depth a && regularItems depth r

def regularMembers (depth : Nat) : List (Yaml × Yaml) → Bool
  | [] => true
  | (k, a) :: r => regularWithin depth k && regularWithin depth a &&
    r.all (fun m => !same k m.1) && regularMembers depth r

end

/-- Whether the document is a tree of values. -/
def isRegular (y : Yaml) : Bool := y.regularWithin 128

mutual

/-- A JSON document, which is a YAML document too. -/
def ofJson : Json → Yaml
  | .null => .scalar "null" .null
  | .bool b => .scalar (if b then "true" else "false") (.bool b)
  | .whole n => .scalar (Text.ofInt n) (.whole n)
  | .real n => .scalar n.toText (.real n)
  | .string s => quoted s
  | .array items => .sequence (ofJsonItems items)
  | .object members => .mapping (ofJsonMembers members)

def ofJsonItems : List Json → List Yaml
  | [] => []
  | j :: r => ofJson j :: ofJsonItems r

def ofJsonMembers : List (String × Json) → List (Yaml × Yaml)
  | [] => []
  | (name, j) :: r => (quoted name, ofJson j) :: ofJsonMembers r

end

mutual

/-- The JSON document of a tree of values; none if a key is no text. Numbers that are not finite
become null. -/
def toJson? : Yaml → Option Json
  | .scalar _ .null => some .null
  | .scalar _ (.bool b) => some (.bool b)
  | .scalar _ (.whole n) => some (.whole n)
  | .scalar _ (.real n) => some (if n.isFinite then .real n else .null)
  | .scalar _ (.text s) => some (.string s)
  | .sequence items => (toJsonItems? items).map .array
  | .mapping members => (toJsonMembers? members).map .object

def toJsonItems? : List Yaml → Option (List Json)
  | [] => some []
  | a :: r => do some ((← toJson? a) :: (← toJsonItems? r))

def toJsonMembers? : List (Yaml × Yaml) → Option (List (String × Json))
  | [] => some []
  | (k, a) :: r => do some ((← asText? k, ← toJson? a) :: (← toJsonMembers? r))

end

end Yaml

end RecordFilters
