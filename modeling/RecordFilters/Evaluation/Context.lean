import RecordFilters.Error
import RecordFilters.Operand

/-! # Evaluation contexts

One request is evaluated in one context: it knows the acting user and the day, and remembers what
has been worked out, the values of operands and the predicates of filters. Nothing of it outlives
the request, and what it remembers stays even when an evaluation fails. -/

namespace RecordFilters

structure Context where
  user : Option ActingUser := none
  today : Day
  /-- The values of the operands resolved so far, by operand. -/
  resolved : Index (Prod.fst : String × List Value → String) := ∅
  /-- The predicates of the filters compiled so far, by filter. -/
  memo : Index (Prod.fst : FilterId × Predicate → FilterId) := ∅
  /-- How many times an operand has been resolved. -/
  resolutions : Nat := 0

/-- A step of an evaluation: it may fail, and it changes what the context remembers. -/
abbrev Evaluation (α : Type) := ExceptT FilterError (StateM Context) α

namespace Evaluation

/-- Runs a step in a context. -/
def runIn {α : Type} (e : Evaluation α) (ctx : Context) : Except FilterError α × Context :=
  (ExceptT.run e).run ctx

def ofExcept {α : Type} : Except FilterError α → Evaluation α
  | .ok a => pure a
  | .error e => throw e

/-- The values of an operand, resolved at most once in a context. -/
def resolve (o : Operand) : Evaluation (List Value) := do
  let ctx ← get
  match ctx.resolved.get? o.typeId with
  | some (_, values) => return values
  | none =>
    let values := o.resolve ctx.user ctx.today
    set { ctx with
      resolved := ctx.resolved.insert (o.typeId, values), resolutions := ctx.resolutions + 1 }
    return values

/-- The predicate remembered for a filter. -/
def remembered? (id : FilterId) : Evaluation (Option Predicate) := do
  return ((← get).memo.get? id).map Prod.snd

def remember (id : FilterId) (p : Predicate) : Evaluation Unit :=
  modify fun ctx => { ctx with memo := ctx.memo.insert (id, p) }

end Evaluation

end RecordFilters
