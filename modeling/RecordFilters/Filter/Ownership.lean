import RecordFilters.Directory
import RecordFilters.Condition.Basic

/-! # Owners and access

A filter is public, or private to a user or to a team. Its owner decides who may see it, edit it and
use it inside another filter. A denied access says why. -/

namespace RecordFilters

/-- Who a filter belongs to. -/
inductive Ownership
  /-- A public filter. -/
  | everyone
  | user (id : UserId)
  | team (id : TeamId)
  deriving DecidableEq

namespace Ownership

def isPrivate (o : Ownership) : Bool := o ≠ everyone

/-- Whether a user is the owner, or brings the owning team. -/
def isOwnedBy (o : Ownership) (u : ActingUser) : Bool :=
  match o with
  | everyone => false
  | user id => id = u.id
  | team id => u.isMemberOf id

/-- The owner in messages. -/
def describe : Ownership → String
  | everyone => "public"
  | user id => s!"private to user '{id}'"
  | team id => s!"private to team '{id}'"

end Ownership

/-- Why access to a filter is denied. -/
inductive Denial
  | view
  | edit
  | delete
  | systemDelete
  | systemRename
  | inUse (dependents : List String)
  deriving DecidableEq

def Denial.message : Denial → String
  | view => "You are not allowed to view this private filter"
  | edit => "You are not allowed to edit this private filter"
  | delete => "You are not allowed to delete this private filter"
  | systemDelete => "This filter is a system filter and cannot be deleted"
  | systemRename => "The name of a system filter cannot be changed"
  | inUse dependents => "This filter is used by: " ++ String.intercalate ", " dependents

inductive Access
  | granted
  | denied (why : Denial)
  deriving DecidableEq

namespace Access

def isGranted : Access → Bool
  | granted => true
  | denied _ => false

/-- Granted if a condition holds, else denied for a reason. -/
def check (allowed : Bool) (why : Denial) : Access := if allowed then granted else denied why

@[simp] theorem isGranted_check (allowed : Bool) (why : Denial) :
    (check allowed why).isGranted = allowed := by
  cases allowed <;> rfl

end Access

end RecordFilters
