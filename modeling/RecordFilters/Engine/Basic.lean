import RecordFilters.Authorization
import RecordFilters.Engine.Config
import RecordFilters.Engine.Request
import RecordFilters.Evaluation.Compile
import RecordFilters.Repository.Basic

/-! # The engine

The engine keeps filters in a repository and answers the requests of users. Every change goes the
same way: the conditions are built, the graph of filters is checked for cycles, the ownership rules
are checked, and then the whole filter is stored at once. A request that is rejected changes no
filter.

* `Engine.create`, `Engine.update` and `Engine.delete` are the changes.
* `Engine.canView`, …, `Engine.canDelete` say what a user may do.
* `Engine.apply` and `Engine.predicate` evaluate a filter in a context. -/

namespace RecordFilters

structure Engine where
  config : EngineConfig
  catalogs : Catalogs := .standard
  schema : Schema
  directory : Directory
  references : References := ∅
  storage : Storage
  repository : Repository

namespace Engine

def filters (e : Engine) : FilterSet := e.repository.filters

def walk (e : Engine) : GraphWalk := ⟨e.filters, e.config.maxDepth⟩

def authorization (e : Engine) : Authorization :=
  ⟨e.directory, e.filters, e.references, e.config.maxDepth⟩

def evaluator (e : Engine) : Evaluator := ⟨e.catalogs, e.schema, e.filters, e.config.maxDepth⟩

/-- A stored filter. -/
def require (e : Engine) (id : FilterId) : Except EngineError Filter :=
  match e.repository.get? id with
  | some f => .ok f
  | none => .error (.repository (.notFound id))

/-- The condition for a request; nothing is stored. -/
def buildCondition (e : Engine) (filterType : FilterType) (entityType : String) (d : Descriptor) :
    Except EngineError Condition :=
  (e.catalogs.build e.schema e.filters filterType entityType d).mapError .filter

/-! ### Changes -/

/-- What a candidate must satisfy towards the other filters, given what is stored in its place. -/
def checkGraph (e : Engine) (u : ActingUser) (candidate : Filter) (previous : Option Filter) :
    Except FilterError Unit := do
  e.walk.checkAcyclic candidate
  e.authorization.validate u candidate previous

/-- The filter that a request asks for. -/
def prepareCreate (e : Engine) (u : ActingUser) (id : FilterId) (request : FilterRequest) :
    Except FilterError Filter := do
  let conditions ← e.catalogs.buildAll e.schema e.filters request.filterType request.entityType
    request.conditions
  let f ← Filter.ensureConditions
    (Filter.ofConditions? id request.name request.entityType conditions)
  let candidate := { f with
    useOr := request.useOr, ownership := request.ownership, filterType := request.filterType }
  e.checkGraph u candidate none
  return candidate

/-- A filter under another name, which its users may not always give it. -/
def renamed (u : ActingUser) (previous : Filter) (name : Option String) :
    Except FilterError Filter :=
  match name with
  | some name =>
    if name = previous.name then .ok previous
    else (previous.canRename u).ensure previous.id |>.map fun _ => { previous with name := name }
  | none => .ok previous

/-- A filter with other conditions. -/
def withConditions (e : Engine) (f : Filter) (conditions : Option (List Descriptor × Bool)) :
    Except FilterError Filter :=
  match conditions with
  | some (descriptors, useOr) => do
    let conditions ← e.catalogs.buildAll e.schema e.filters f.filterType f.entityType descriptors
    Filter.ensureConditions (f.setConditions? conditions useOr)
  | none => .ok f

/-- The filter that an update makes of a stored one. -/
def prepareUpdate (e : Engine) (u : ActingUser) (previous : Filter) (update : FilterUpdate) :
    Except FilterError Filter := do
  (previous.canEdit u).ensure previous.id
  let f ← renamed u previous update.name
  let f := { f with ownership := update.ownership.getD f.ownership }
  let candidate ← e.withConditions f update.conditions
  e.checkGraph u candidate (some previous)
  return candidate

/-- What stands against deleting a filter, as a rejection. -/
def ensureDeletable (e : Engine) (u : ActingUser) (f : Filter) : Except FilterError Unit := do
  (f.canDelete u).ensure f.id
  match e.authorization.dependents f.id with
  | [] => return ()
  | dependents => throw (.conflict (.filterInUse f.id) dependents)

/-- The answer of the repository to a change, and the engine with the repository as it is then. -/
def afterChange {α β : Type} (e : Engine) (answer : α → β) :
    Except RepositoryError α × Repository → Except EngineError β × Engine
  | (.ok a, r) => (.ok (answer a), { e with repository := r })
  | (.error error, r) => (.error (.repository error), { e with repository := r })

/-- The id that a request asks for, or else a new one. -/
def chooseId (e : Engine) (request : FilterRequest) : FilterId × Engine :=
  match request.id with
  | some id => (id, e)
  | none =>
    let (id, repository) := e.repository.nextId e.config.filterIdPrefix request.entityType
    (id, { e with repository := repository })

/-- Makes a filter. -/
def create (e : Engine) (u : ActingUser) (request : FilterRequest) :
    Except EngineError Filter × Engine :=
  let (id, e) := e.chooseId request
  if e.repository.contains id then (.error (.repository (.duplicateId id)), e)
  else match e.prepareCreate u id request with
    | .error error => (.error (.filter error), e)
    | .ok candidate => e.afterChange (fun _ => candidate) (e.repository.insert candidate)

/-- Changes some parts of a filter. -/
def update (e : Engine) (u : ActingUser) (id : FilterId) (update : FilterUpdate) :
    Except EngineError Filter × Engine :=
  match e.require id with
  | .error error => (.error error, e)
  | .ok previous =>
    if update.isEmpty then (.ok previous, e)
    else match e.prepareUpdate u previous update with
      | .error error => (.error (.filter error), e)
      | .ok candidate => e.afterChange (fun _ => candidate) (e.repository.save candidate)

def setConditions (e : Engine) (u : ActingUser) (id : FilterId) (conditions : List Descriptor)
    (useOr : Bool) : Except EngineError Filter × Engine :=
  e.update u id { conditions := some (conditions, useOr) }

def changeOwnership (e : Engine) (u : ActingUser) (id : FilterId) (ownership : Ownership) :
    Except EngineError Filter × Engine :=
  e.update u id { ownership := some ownership }

def rename (e : Engine) (u : ActingUser) (id : FilterId) (name : String) :
    Except EngineError Filter × Engine :=
  e.update u id { name := some name }

/-- Deletes a filter that nothing depends on any more. -/
def delete (e : Engine) (u : ActingUser) (id : FilterId) : Except EngineError Filter × Engine :=
  match e.require id with
  | .error error => (.error error, e)
  | .ok f =>
    match e.ensureDeletable u f with
    | .error error => (.error (.filter error), e)
    | .ok () => e.afterChange (fun removed => removed) (e.repository.remove id)

/-! ### Permissions -/

def canView (e : Engine) (u : ActingUser) (id : FilterId) : Except EngineError Access :=
  (e.require id).map (·.canView u)

def canEdit (e : Engine) (u : ActingUser) (id : FilterId) : Except EngineError Access :=
  (e.require id).map (·.canEdit u)

def canRename (e : Engine) (u : ActingUser) (id : FilterId) : Except EngineError Access :=
  (e.require id).map (·.canRename u)

/-- Deletion, with what depends on the filter taken into account. -/
def canDelete (e : Engine) (u : ActingUser) (id : FilterId) : Except EngineError Access :=
  (e.require id).map (e.authorization.canDelete u)

/-- What uses a filter. -/
def dependents (e : Engine) (id : FilterId) : List String := e.authorization.dependents id

/-- The filters that a user may see, of one entity type if that is given, in order. -/
def visibleFilters (e : Engine) (u : ActingUser) (entityType : Option String) : List Filter :=
  e.filters.toList.filter fun f =>
    entityType.all (· = f.entityType) && (f.canView u).isGranted

/-! ### Evaluation -/

/-- A filter that the user of a context may see; without a user, any filter. -/
def visibleIn (e : Engine) (ctx : Context) (id : FilterId) : Except EngineError Filter := do
  let f ← e.require id
  match ctx.user with
  | some u => ((f.canView u).ensure id).mapError .filter
  | none => .ok ()
  return f

/-- The records that a filter selects, found in a context. -/
def apply (e : Engine) (ctx : Context) (id : FilterId) :
    Except EngineError (List RecordId) × Context × Engine :=
  match e.visibleIn ctx id with
  | .error error => (.error error, ctx, e)
  | .ok f =>
    let (result, ctx, storage) := e.evaluator.apply f ctx e.storage
    (result.mapError .filter, ctx, { e with storage := storage })

/-- The predicate of a filter, found in a context. -/
def predicate (e : Engine) (ctx : Context) (id : FilterId) :
    Except EngineError Predicate × Context :=
  match e.visibleIn ctx id with
  | .error error => (.error error, ctx)
  | .ok f =>
    let (result, ctx) := (e.evaluator.compile f).runIn ctx
    (result.mapError .filter, ctx)

/-- The conditions of a filter that cannot be evaluated any more, by position, on a day. -/
def conditionErrors (e : Engine) (today : Day) (id : FilterId) :
    Except EngineError (List (Nat × FilterError)) :=
  (e.require id).map fun f => (e.evaluator.conditionErrors f { today := today }).1

end Engine

end RecordFilters
