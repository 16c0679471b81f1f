import RecordFilters.Predicate.Basic
import RecordFilters.Text.Lowercase

/-! # Comparing values

How the value of a field compares with the values of a condition. A field with several values
compares if one of them does, a missing value compares with nothing.

* `Value.order?` is the order that `gt`, `lte` and `range` go by: numbers if the field is one, else
  days, else numbers again.
* `Value.compares` is the whole test. -/

namespace RecordFilters

/-- Whether the second list stands somewhere in the first. -/
def Text.hasInfix (cs ds : List Char) : Bool :=
  ds.isPrefixOf cs || match cs with
    | [] => false
    | _ :: r => hasInfix r ds

theorem Text.hasInfix_iff {cs ds : List Char} : Text.hasInfix cs ds = true ↔ ds <:+: cs := by
  induction cs with
  | nil => simp [Text.hasInfix]
  | cons c r ih => simp [Text.hasInfix, ih, List.infix_cons_iff]

namespace Value

/-- How a field stands to a value. -/
def order? (field value : Value) : Option Ordering :=
  match field, value.number? with
  | .number a, some b => a.compare? b
  | _, _ =>
    match field.day?, value.day? with
    | some a, some b => some (a.compare b)
    | _, _ =>
      match field.number?, value.number? with
      | some a, some b => a.compare? b
      | _, _ => none

/-- The text forms of a field and a value in a relation, in small letters if case is ignored. -/
def textsRelate (ignoreCase : Bool) (test : List Char → List Char → Bool) (field value : Value) :
    Bool :=
  let fold (s : String) : List Char := (if ignoreCase then Text.lowercase s else s).toList
  match field.text?, value.text? with
  | some a, some b => test (fold a) (fold b)
  | _, _ => false

/-- Equality: of numbers if the field is one, else of texts. -/
def equals (field value : Value) : Bool :=
  match field, value.number? with
  | .number a, some b => a.same b
  | _, _ => textsRelate false (· == ·) field value

/-- Whether a field compares with one value. -/
def comparesWith (field : Value) (c : Comparison) (value : Value) : Bool :=
  match c with
  | .equals => field.equals value
  | .iEquals => textsRelate true (· == ·) field value
  | .contains => textsRelate false Text.hasInfix field value
  | .iContains => textsRelate true Text.hasInfix field value
  | .startsWith => textsRelate false (fun a b => b.isPrefixOf a) field value
  | .iStartsWith => textsRelate true (fun a b => b.isPrefixOf a) field value
  | .endsWith => textsRelate false (fun a b => b.isSuffixOf a) field value
  | .iEndsWith => textsRelate true (fun a b => b.isSuffixOf a) field value
  | .gt => field.order? value = some .gt
  | .gte => field.order? value = some .gt || field.order? value = some .eq
  | .lt => field.order? value = some .lt
  | .lte => field.order? value = some .lt || field.order? value = some .eq
  | .isEmpty | .range => false

/-- Whether a field that holds one value compares with the values. -/
def singleCompares (field : Value) (c : Comparison) (values : List Value) : Bool :=
  if field.isEmpty then false
  else match c, values with
    | .range, [low, high] =>
      (field.order? low = some .gt || field.order? low = some .eq) &&
        (field.order? high = some .lt || field.order? high = some .eq)
    | .range, _ => false
    | c, values => values.any (field.comparesWith c)

mutual

/-- Whether a field, which may hold several values, compares with the values. -/
def someCompares (c : Comparison) (values : List Value) : Value → Bool
  | .list items => anyCompares c values items
  | v => v.singleCompares c values

def anyCompares (c : Comparison) (values : List Value) : List Value → Bool
  | [] => false
  | v :: r => someCompares c values v || anyCompares c values r

end

/-- Whether a field compares with the values. -/
def compares (field : Value) (c : Comparison) (values : List Value) : Bool :=
  if c = .isEmpty then field.isEmpty else someCompares c values field

end Value

end RecordFilters
