import RecordFilters.Graph
import RecordFilters.References

/-! # Who may own and use a filter

Three rules are checked before a filter is stored.

1. `Authorization.checkOwner`: a private filter belongs to the acting user or to one of their teams;
   with elevated rights, to any user or team that exists.
2. `Authorization.checkSubFilters`: a filter reaches only filters that its owner may see. Everyone
   sees public filters; a user their own and those of the teams in which the directory has them; a
   team its own.
3. `Authorization.checkDependents`: when the owner changes, whatever reaches the filter must still
   satisfy the second rule.

`Authorization.dependents` are what stands against deleting a filter. -/

namespace RecordFilters

/-- What the rules are checked against. -/
structure Authorization where
  directory : Directory
  filters : FilterSet
  references : References := ∅
  maxDepth : Nat

namespace Authorization

def walk (a : Authorization) : GraphWalk := ⟨a.filters, a.maxDepth⟩

/-- The first rule. -/
def checkOwner (a : Authorization) (u : ActingUser) : Ownership → Except FilterError Unit
  | .everyone => .ok ()
  | .user owner =>
    if !a.directory.userExists owner then .error (.validation .unknownOwner [owner])
    else if !u.elevated && owner ≠ u.id then .error (.validation .ownerIsOther [owner])
    else .ok ()
  | .team id =>
    match a.directory.team? id with
    | none => .error (.validation .unknownTeam [id])
    | some team =>
      if !u.elevated && !(u.isMemberOf id || team.hasMember u.id) then
        .error (.validation .teamIsOther [id])
      else .ok ()

/-- Whether a filter of one owner may use a filter of another. -/
def mayReference (d : Directory) : Ownership → Ownership → Bool
  | _, .everyone => true
  | .everyone, _ => false
  | .user u, .user v => u = v
  | .user u, .team t => (d.teamsOf u).contains t
  | .team s, .team t => s = t
  | .team _, .user _ => false

/-- The second rule. -/
def checkSubFilters (a : Authorization) (candidate : Filter) : Except FilterError Unit := do
  let below ← a.walk.descendants candidate
  match below.find? fun sub => !mayReference a.directory candidate.ownership sub.ownership with
  | some sub =>
    throw (.validation (.subFilterNotShared candidate.ownership sub.id sub.ownership) [sub.id])
  | none => return ()

/-- The filters above a candidate that may not use it under its owner. -/
def blocked (a : Authorization) (candidate : Filter) (above : List FilterId) : List FilterId :=
  ((above.filterMap a.filters.get?).filter fun f =>
    !mayReference a.directory f.ownership candidate.ownership).map Filter.id

/-- The third rule. -/
def checkDependents (a : Authorization) (candidate : Filter) : Except FilterError Unit := do
  match a.blocked candidate (← a.walk.ancestors candidate.id) with
  | [] => return ()
  | ids => throw (.conflict (.ownershipInUse candidate.id candidate.ownership) ids)

/-- All rules that a candidate must satisfy, given what is stored in its place. -/
def validate (a : Authorization) (u : ActingUser) (candidate : Filter) (previous : Option Filter) :
    Except FilterError Unit := do
  if candidate.isPrivate && !candidate.isCustom then
    throw (.validation .systemPrivate [candidate.id])
  let ownerChanged := previous.all fun p => p.ownership ≠ candidate.ownership
  if ownerChanged then a.checkOwner u candidate.ownership
  a.checkSubFilters candidate
  if previous.isSome && ownerChanged then a.checkDependents candidate

/-- What uses a filter: the filters that point at it, then the labels of external references. -/
def dependents (a : Authorization) (id : FilterId) : List String :=
  a.filters.parentsOf id ++ a.references.labelsOf id

/-- Whether a user may delete a filter: nothing may depend on it any more. -/
def canDelete (a : Authorization) (u : ActingUser) (f : Filter) : Access :=
  match f.canDelete u with
  | .denied why => .denied why
  | .granted =>
    let dependents := a.dependents f.id
    if dependents.isEmpty then .granted else .denied (.inUse dependents)

end Authorization

end RecordFilters
