import RecordFilters.Document
import RecordFilters.Index

/-! # Users and teams

A request runs for an acting user, who brings the teams they belong to. The directory knows which
users and teams exist and who is a member of which team; the two need not agree. -/

namespace RecordFilters

abbrev UserId := String

abbrev TeamId := String

/-- The user for whom a request runs. -/
structure ActingUser where
  id : UserId
  teams : NameSet := ∅
  /-- Administrators have elevated rights. -/
  elevated : Bool := false
  deriving DecidableEq

namespace ActingUser

def isMemberOf (u : ActingUser) (team : TeamId) : Bool := u.teams.contains team

end ActingUser

/-- A named group of users. -/
structure Team where
  id : TeamId
  name : String
  members : NameSet := ∅
  deriving DecidableEq

namespace Team

def hasMember (t : Team) (user : UserId) : Bool := t.members.contains user

end Team

/-- The users and teams that exist. -/
structure Directory where
  users : NameSet := ∅
  teams : Index Team.id := ∅
  deriving DecidableEq

namespace Directory

def userExists (d : Directory) (user : UserId) : Bool := d.users.contains user

def team? (d : Directory) (id : TeamId) : Option Team := d.teams.get? id

/-- The teams of which a user is a member. -/
def teamsOf (d : Directory) (user : UserId) : NameSet :=
  .ofList ((d.teams.filter (·.hasMember user)).toList.map Team.id)

/-- A known user as the acting user, with their present teams. -/
def actingUser? (d : Directory) (user : UserId) : Option ActingUser :=
  if d.userExists user then some { id := user, teams := d.teamsOf user } else none

/-! ### Changes -/

def addUser (d : Directory) (user : UserId) : Directory :=
  { d with users := d.users.insert user }

/-- Adds or replaces a team; its members become known users. -/
def addTeam (d : Directory) (team : Team) : Directory :=
  { users := d.users.insertAll team.members.toList, teams := d.teams.insert team }

/-- Makes a user, known from now on, a member of a team, and whether this is new to the team. -/
def addMember (d : Directory) (team : TeamId) (user : UserId) : Bool × Directory :=
  ((d.team? team).any (!·.hasMember user),
    { users := d.users.insert user
      teams := d.teams.modify team fun t => { t with members := t.members.insert user } })

/-- Takes a member out of a team, and whether they were one. -/
def removeMember (d : Directory) (team : TeamId) (user : UserId) : Bool × Directory :=
  ((d.team? team).any (·.hasMember user),
    { d with teams := d.teams.modify team fun t => { t with members := t.members.erase user } })

end Directory

/-! ### JSON -/

open Document

def NameSet.ofJson? (j : Json) : Option NameSet := (texts? j).map .ofList

def NameSet.toJson (s : NameSet) : Json := .ofStrings s.toList

namespace ActingUser

def ofJson? (j : Json) : Option ActingUser := do
  let parts ← parts? ["id", "teams", "elevated"] j
  some {
    id := ← parts.required "id" text?
    teams := ← parts.orDefault "teams" ∅ NameSet.ofJson?
    elevated := ← parts.orDefault "elevated" false flag? }

def toJson (u : ActingUser) : Json :=
  .object [("id", .string u.id), ("teams", u.teams.toJson), ("elevated", .bool u.elevated)]

end ActingUser

namespace Team

def ofJson? (j : Json) : Option Team := do
  let parts ← parts? ["id", "name", "members"] j
  some {
    id := ← parts.required "id" text?
    name := ← parts.required "name" text?
    members := ← parts.orDefault "members" ∅ NameSet.ofJson? }

def toJson (t : Team) : Json :=
  .object [("id", .string t.id), ("name", .string t.name), ("members", t.members.toJson)]

end Team

/-- A directory as lists of user ids and of teams. -/
def Directory.ofJson? (j : Json) : Option Directory := do
  let parts ← parts? ["users", "teams"] j
  let users ← parts.orDefault "users" [] texts?
  let teams ← parts.orDefault "teams" [] (listOf? Team.ofJson?)
  some (teams.foldl Directory.addTeam (users.foldl Directory.addUser {}))

end RecordFilters
