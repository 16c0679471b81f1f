import RecordFilters.Catalog
import RecordFilters.Record.Matching

/-! # Evaluating filters

A filter is compiled into one predicate, and the predicate is handed to the storage. A condition
whose references have vanished since it was accepted is left out; a filter that has no condition
left selects every record. Filters inside filters are followed to a bounded depth.

* `Evaluator.compile` is the predicate of a filter, remembered in the context.
* `Evaluator.conditionErrors` are the conditions that would be left out or fail, by position. -/

namespace RecordFilters

/-- What an evaluation reads, and how deep it follows filters inside filters. -/
structure Evaluator where
  catalogs : Catalogs
  schema : Schema
  filters : FilterSet
  maxDepth : Nat

namespace Evaluator

/-- What the handlers may consult about the conditions of a filter. -/
def scope (ev : Evaluator) (f : Filter) (nested : Filter → Evaluation Predicate) :
    PredicateScope where
  operators := ev.catalogs.operators
  schema := ev.schema
  filters := ev.filters
  entityType := f.entityType
  registry := ev.catalogs.registries.get? f.filterType
  nested := nested

/-- The predicate of one condition of a filter. -/
def conditionPredicate (ev : Evaluator) (f : Filter) (nested : Filter → Evaluation Predicate)
    (c : Condition) : Evaluation Predicate := do
  let handler ← Evaluation.ofExcept (ev.catalogs.handler c.kind c.reference)
  handler.predicate (ev.scope f nested) c

/-- The predicates of the conditions that can be evaluated; what refers to something absent is left
out, and any other failure is the failure of all. -/
def usableParts (ev : Evaluator) (f : Filter) (nested : Filter → Evaluation Predicate) :
    List Condition → Evaluation (List Predicate)
  | [] => return []
  | c :: r => do
    let part ← tryCatch (some <$> ev.conditionPredicate f nested c) fun e =>
      if e.isConfig then pure none else throw e
    return part.toList ++ (← ev.usableParts f nested r)

/-- The parts of a filter put together. -/
def combine (useOr : Bool) (parts : List Predicate) : Predicate :=
  if parts.isEmpty then .always else if useOr then .either parts else .both parts

/-- The predicate of a filter, with so many levels left for it and the filters inside it. -/
def compileWithin (ev : Evaluator) : Nat → Filter → Evaluation Predicate
  | 0, f => throw (.validation (.tooDeep ev.maxDepth) [f.id])
  | levels + 1, f => do
    match ← Evaluation.remembered? f.id with
    | some p => return p
    | none =>
      let p := combine f.useOr (← ev.usableParts f (ev.compileWithin levels) f.conditions)
      Evaluation.remember f.id p
      return p

/-- The predicate of a filter. -/
def compile (ev : Evaluator) (f : Filter) : Evaluation Predicate :=
  ev.compileWithin (ev.maxDepth + 1) f

/-- The errors of the conditions from a position on that cannot be evaluated, each with the position
of its condition. -/
def errorsFrom (ev : Evaluator) (f : Filter) (position : Nat) (ctx : Context) :
    List Condition → List (Nat × FilterError) × Context
  | [] => ([], ctx)
  | c :: r =>
    let (result, ctx) := (ev.conditionPredicate f (ev.compileWithin ev.maxDepth) c).runIn ctx
    let (rest, ctx) := ev.errorsFrom f (position + 1) ctx r
    match result with
    | .ok _ => (rest, ctx)
    | .error e => ((position, e) :: rest, ctx)

/-- The errors of the conditions that cannot be evaluated, each with the position of its
condition. -/
def conditionErrors (ev : Evaluator) (f : Filter) (ctx : Context) :
    List (Nat × FilterError) × Context :=
  ev.errorsFrom f 0 ctx f.conditions

/-- The records that a filter selects. A filter that selects nothing whatever the records are is
answered without reading them. -/
def apply (ev : Evaluator) (f : Filter) (ctx : Context) (storage : Storage) :
    Except FilterError (List RecordId) × Context × Storage :=
  match (ev.compile f).runIn ctx with
  | (.error e, ctx) => (.error e, ctx, storage)
  | (.ok p, ctx) =>
    if p.isNever then (.ok [], ctx, storage)
    else
      let (result, storage) := storage.fetch f.entityType p
      (result, ctx, storage)

end Evaluator

end RecordFilters
