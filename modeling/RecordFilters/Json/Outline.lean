import RecordFilters.Json.Basic

/-! # Outlines of JSON texts

What is written in a JSON text, before anyone asks for its values. A text may be well formed and
still say something that no document can hold: a number beyond all finite ones, half of a surrogate
pair, or arrays and objects nested too deep. An outline has a *blot* in such a place. A reader that
passes over the place never sees the blot; one that wants the whole document gets none. -/

namespace RecordFilters.Json

inductive Outline
  | blot
  /-- Null, a flag, a number or a string. -/
  | atom (j : Json)
  | array (items : List Outline)
  | object (members : List (Option String × Outline))

namespace Outline

mutual

/-- The document of an outline without blots. -/
def json? : Outline → Option Json
  | .blot => none
  | .atom j => some j
  | .array items => (jsonItems? items).map .array
  | .object members => (jsonMembers? members).map .object

def jsonItems? : List Outline → Option (List Json)
  | [] => some []
  | o :: r => do some ((← json? o) :: (← jsonItems? r))

def jsonMembers? : List (Option String × Outline) → Option (List (String × Json))
  | [] => some []
  | (name, o) :: r => do some ((← name, ← json? o) :: (← jsonMembers? r))

end

/-- The members of an object whose names have no blot. -/
def members? : Outline → Option (List (String × Outline))
  | .object members => members.mapM fun (name, o) => name.map (·, o)
  | _ => none

end Outline

end RecordFilters.Json
