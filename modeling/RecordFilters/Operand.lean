import RecordFilters.Directory
import RecordFilters.Value
import RecordFilters.Schema.Field

/-! # Operands

An operand is a placeholder that stands, by its name, among the values of a condition. It gets its
values when the condition is evaluated: from the acting user and the day, never from storage. -/

namespace RecordFilters

structure Operand where
  typeId : String
  name : String
  /-- Whether the operand may stand for a value of a field. -/
  accepts : Field → Bool
  /-- The values for an acting user on a day. -/
  resolve : Option ActingUser → Day → List Value

namespace Operand

def currentUserId : String := "__currentuser__"

/-- The acting user and the teams they bring; without a user, nothing. -/
def currentUserValues : Option ActingUser → List Value
  | some user => .text user.id :: user.teams.toList.map .text
  | none => []

def currentUser : Operand where
  typeId := currentUserId
  name := "Current user"
  accepts := Field.refersToUsers
  resolve user _ := currentUserValues user

end Operand

/-- Operands by their name. -/
abbrev OperandCatalog := Index Operand.typeId

def OperandCatalog.standard : OperandCatalog := .ofList [Operand.currentUser]

end RecordFilters
