import RecordFilters.Record.Basic
import RecordFilters.Record.Comparing
import RecordFilters.Error

/-! # Matching records

When a record satisfies a predicate, and the storage that looks for the records that do.

* `Predicate.holds` is the meaning of a predicate on a record among others.
* `Storage.fetch` returns the ids of the records of a type that satisfy it, in order. -/

namespace RecordFilters

/-- Whether an object passes a test that needs no predicate. -/
def ObjectTest.accepts (records : RecordSet) (object : RecordId) : ObjectTest → Bool
  | .any => true
  | .entity id => id = object
  | .ofType entityType => ((records.get? object).map Record.entityType) = some entityType

namespace Predicate

mutual

/-- Whether a record satisfies a predicate; relations lead to the given records. -/
def holds (records : RecordSet) : Predicate → Record → Bool
  | always, _ => true
  | never, _ => false
  | compare target c values, r => (r.value target).compares c values
  | dateRange target start stop, r =>
    match (r.value target).day? with
    | some d => (start.all fun s => s ≤ d) && (stop.all fun e => d ≤ e)
    | none => false
  | related relation object, r =>
    r.relations.any fun (kind, id) => kind = relation && object.accepts records id
  | relatedMatching relation entityType p, r =>
    r.relations.any fun (kind, id) => kind = relation &&
      match records.get? id with
      | some o => o.entityType = entityType && holds records p o
      | none => false
  | hasProperty id, r => r.properties.contains id
  | all items, r => allHold records items r
  | any items, r => someHolds records items r
  | not p, r => !holds records p r

def allHold (records : RecordSet) : List Predicate → Record → Bool
  | [], _ => true
  | p :: rest, r => holds records p r && allHold records rest r

def someHolds (records : RecordSet) : List Predicate → Record → Bool
  | [], _ => false
  | p :: rest, r => holds records p r || someHolds records rest r

end

theorem allHold_eq_all (records : RecordSet) (items : List Predicate) (r : Record) :
    allHold records items r = items.all (holds records · r) := by
  induction items with
  | nil => rfl
  | cons p rest ih => rw [allHold, ih, List.all_cons]

theorem someHolds_eq_any (records : RecordSet) (items : List Predicate) (r : Record) :
    someHolds records items r = items.any (holds records · r) := by
  induction items with
  | nil => rfl
  | cons p rest ih => rw [someHolds, ih, List.any_cons]

end Predicate

/-- The records of an entity type that satisfy a predicate, by id. -/
def RecordSet.select (records : RecordSet) (entityType : String) (p : Predicate) : List RecordId :=
  (records.toList.filter fun r => r.entityType = entityType && p.holds records r).map Record.id

/-- Stored records. A storage may be out of order, and then every read fails with one message; it
counts the reads. -/
structure Storage where
  records : RecordSet := ∅
  failure : Option String := none
  reads : Nat := 0

namespace Storage

def fetch (s : Storage) (entityType : String) (p : Predicate) :
    Except FilterError (List RecordId) × Storage :=
  let result := match s.failure with
    | some message => .error (.storage message)
    | none => .ok (s.records.select entityType p)
  (result, { s with reads := s.reads + 1 })

end Storage

end RecordFilters
