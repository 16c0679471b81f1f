import RecordFilters.Engine.Error
import RecordFilters.Disk.Basic
import RecordFilters.Handler.Basic
import RecordFilters.Yaml.Document
import RecordFilters.Yaml.Reader

/-! # Configuration of an engine

How deep filters may be nested, how new ids begin, which files hold system filters, and which types
of filters there are besides the two of this library. A configuration is read from YAML, where every
part may be left out. -/

namespace RecordFilters

open Document

/-- A type of filters: the kinds of conditions that its filters may hold and the operands they may
use. -/
structure FilterTypeConfig where
  id : String
  handlers : List UInt16 := []
  operands : List String := []
  deriving DecidableEq

structure EngineConfig where
  maxDepth : Nat := 32
  filterIdPrefix : String := "userfilter"
  systemFilterFiles : List Path := []
  filterTypes : List FilterTypeConfig := []
  deriving DecidableEq

namespace FilterTypeConfig

def ofDocument? {δ : Type} [Document δ] (d : δ) : Option FilterTypeConfig := do
  let parts ← parts? ["id", "handlers", "operands"] d
  some {
    id := ← parts.required "id" text?
    handlers := ← parts.orDefault "handlers" [] (listOf? readWord?)
    operands := ← parts.orDefault "operands" [] texts? }

def toJson (t : FilterTypeConfig) : Json :=
  .object [("id", .string t.id), ("handlers", .array (t.handlers.map fun k => .ofNat k.toNat)),
    ("operands", .ofStrings t.operands)]

/-- The operands of the given names, out of the known ones. -/
def pickOperands (filterType : String) (known : OperandCatalog) :
    List String → Except SetupFault (List Operand)
  | [] => .ok []
  | id :: r =>
    match known.get? id with
    | some o => (pickOperands filterType known r).map (o :: ·)
    | none => .error (.unknownOperand filterType id)

/-- The registry of the filter type. The types of this library have theirs already. -/
def toRegistry (t : FilterTypeConfig) (known : OperandCatalog) : Except SetupFault Registry :=
  if (FilterType.mk t.id).isBuiltin then .error (.builtinFilterType t.id)
  else (pickOperands t.id known t.operands).map fun operands =>
    { filterType := ⟨t.id⟩, kinds := .ofList (t.handlers.map .ofId), operands := .ofList operands }

end FilterTypeConfig

namespace EngineConfig

def ofDocument? {δ : Type} [Document δ] (d : δ) : Option EngineConfig := do
  let parts ← parts? ["max_depth", "filter_id_prefix", "system_filter_files", "filter_types"] d
  let default : EngineConfig := {}
  some {
    maxDepth := ← parts.orDefault "max_depth" default.maxDepth (natural? UInt64.size)
    filterIdPrefix := ← parts.orDefault "filter_id_prefix" default.filterIdPrefix text?
    systemFilterFiles := ← parts.orDefault "system_filter_files" [] texts?
    filterTypes := ← parts.orDefault "filter_types" [] (listOf? FilterTypeConfig.ofDocument?) }

def toJson (c : EngineConfig) : Json :=
  .object [("max_depth", .ofNat c.maxDepth), ("filter_id_prefix", .string c.filterIdPrefix),
    ("system_filter_files", .ofStrings c.systemFilterFiles),
    ("filter_types", .array (c.filterTypes.map FilterTypeConfig.toJson))]

def validate (c : EngineConfig) : Except SetupFault EngineConfig :=
  if c.maxDepth = 0 then .error .zeroDepth
  else if Text.isBlankText c.filterIdPrefix then .error .blankPrefix
  else .ok c

/-- The configuration in a YAML text. -/
def ofYaml (s : String) : Except SetupFault EngineConfig :=
  match (Yaml.read? s).bind fun y => ofDocument? (Yaml.ByForm.mk y) with
  | some c => c.validate
  | none => .error .unreadable

/-- The same configuration with its files taken relative to a directory. -/
def inDirectory (c : EngineConfig) (directory : Path) : EngineConfig :=
  { c with systemFilterFiles := c.systemFilterFiles.map directory.join }

/-- The configuration in a file; the files it names are relative to its directory. -/
def load (disk : Disk) (path : Path) : Except EngineError EngineConfig :=
  match disk.content? path with
  | some content =>
    match ofYaml content.toText with
    | .ok c => .ok (c.inDirectory path.parent)
    | .error fault => .error (.setup fault)
  | none => .error .io

end EngineConfig

end RecordFilters
