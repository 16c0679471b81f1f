import RecordFilters.Engine.Basic
import RecordFilters.Repository.Installed

/-! # Making an engine

An engine is made of a configuration, the data it works on and the extensions of its catalogs. Its
system filters are installed in the repository: those that are there already stay as they are, and
the new ones are checked together before any of them is stored.

* `Engine.build` makes the engine.
* `Installation.check` is what new system filters have to satisfy. -/

namespace RecordFilters

/-- What an engine is to be made of. -/
structure EnginePlan where
  config : EngineConfig := {}
  schema : Option Schema := none
  directory : Option Directory := none
  storage : Option Storage := none
  references : References := ∅
  systemFilters : List Filter := []
  handlers : List Handler := []
  operands : List Operand := []
  registries : List Registry := []

namespace EnginePlan

/-- The catalogs with their extensions. -/
def catalogs (p : EnginePlan) : Except SetupFault Catalogs := do
  let standard := Catalogs.standard
  let operands := standard.operands.insertAll p.operands
  let declared ← p.config.filterTypes.mapM fun t => t.toRegistry operands
  return { standard with
    operands := operands
    handlers := standard.handlers.insertAll p.handlers
    registries := (standard.registries.insertAll declared).insertAll p.registries }

/-- All system filters: the given ones and those of the files. -/
def allSystemFilters (p : EnginePlan) (disk : Disk) : Except RepositoryError (List Filter) := do
  let loaded ← p.config.systemFilterFiles.mapM (InstalledFilters.loadFile disk)
  return p.systemFilters.map Filter.asSystem ++ loaded.flatten

end EnginePlan

/-- What new system filters are checked against: the filters that there would be with them. -/
structure Installation where
  catalogs : Catalogs
  schema : Schema
  staged : FilterSet
  maxDepth : Nat

namespace Installation

def evaluator (i : Installation) : Evaluator := ⟨i.catalogs, i.schema, i.staged, i.maxDepth⟩

/-- Whether a condition would be accepted from a user. -/
def checkCondition (i : Installation) (f : Filter) (c : Condition) : Except FilterError Unit :=
  match c.descriptor? with
  | some d => (i.catalogs.build i.schema i.staged f.filterType f.entityType d).map fun _ => ()
  | none => do (← i.catalogs.registry f.filterType).ensureAllows c.kind c.reference

/-- Checks the conditions from a position on. -/
def checkConditions (i : Installation) (f : Filter) (position : Nat) :
    List Condition → Except EngineError Unit
  | [] => .ok ()
  | c :: r =>
    match i.checkCondition f c with
    | .ok () => i.checkConditions f (position + 1) r
    | .error error => .error (.setup (.systemFilter f.id position error))

/-- Checks new system filters one after the other: none may close a cycle, and each condition has
to be acceptable and to evaluate. -/
def check (i : Installation) (ctx : Context) : List Filter → Except EngineError Unit
  | [] => .ok ()
  | f :: r => do
    ((⟨i.staged, i.maxDepth⟩ : GraphWalk).checkAcyclic f).mapError .filter
    i.checkConditions f 0 f.conditions
    match i.evaluator.conditionErrors f ctx with
    | ((position, error) :: _, _) => throw (.setup (.systemFilter f.id position error))
    | ([], ctx) => i.check ctx r

end Installation

namespace Engine

/-- Stores filters one after the other, up to the first that cannot be stored. -/
def insertEach (r : Repository) : List Filter → Except RepositoryError Unit × Repository
  | [] => (.ok (), r)
  | f :: rest =>
    match r.insert f with
    | (.ok (), r) => insertEach r rest
    | (.error error, r) => (.error error, r)

/-- The system filters that are not stored yet. -/
def freshFilters (r : Repository) (filters : List Filter) : List Filter :=
  filters.filter fun f => !r.contains f.id

/-- Installs system filters on a day. -/
def install (catalogs : Catalogs) (schema : Schema) (maxDepth : Nat) (today : Day)
    (filters : List Filter) (r : Repository) : Except EngineError Unit × Repository :=
  let fresh := freshFilters r filters
  let checked : Except EngineError Unit := do
    let staging ← (Repository.ofFilters (r.filters.toList ++ fresh)).mapError .repository
    Installation.check ⟨catalogs, schema, staging.filters, maxDepth⟩ { today := today } fresh
  match checked with
  | .error error => (.error error, r)
  | .ok () =>
    let (result, r) := insertEach r fresh
    (result.mapError .repository, r)

/-- The collaborator that a plan brings. -/
def given {α : Type} (what : Collaborator) : Option α → Except EngineError α
  | some a => .ok a
  | none => .error (.missing what)

/-- Makes an engine over a repository on a day. The repository is returned in any case, as it was
left. -/
def build (plan : EnginePlan) (disk : Disk) (today : Day) (repository : Repository) :
    Except EngineError Engine × Repository :=
  let prepared : Except EngineError (Engine × List Filter) := do
    if plan.config.maxDepth = 0 then throw (.setup .zeroDepth)
    let schema ← given .schema plan.schema
    let directory ← given .identity plan.directory
    let storage ← given .storage plan.storage
    let catalogs ← plan.catalogs.mapError .setup
    let systemFilters ← (plan.allSystemFilters disk).mapError .repository
    return ({
      config := plan.config, catalogs := catalogs, schema := schema, directory := directory
      references := plan.references, storage := storage, repository := repository },
      systemFilters)
  match prepared with
  | .error error => (.error error, repository)
  | .ok (engine, systemFilters) =>
    match install engine.catalogs engine.schema engine.config.maxDepth today systemFilters
        repository with
    | (.error error, r) => (.error error, r)
    | (.ok (), r) => (.ok { engine with repository := r }, r)

end Engine

end RecordFilters
