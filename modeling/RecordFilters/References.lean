import RecordFilters.Filter.Basic

/-! # External references

Records outside the filters, such as reports and dashboards, that use a filter. Each is known by a
label, and a filter cannot be deleted while it has one. -/

namespace RecordFilters

/-- The labels of what uses a filter. -/
structure Referenced where
  filter : FilterId
  labels : NameSet
  deriving DecidableEq

abbrev References := Index Referenced.filter

namespace References

/-- The labels of what uses a filter, in order. -/
def labelsOf (r : References) (id : FilterId) : List String :=
  ((r.get? id).map (·.labels.toList)).getD []

def add (r : References) (id : FilterId) (label : String) : References :=
  r.insert ⟨id, (((r.get? id).map Referenced.labels).getD ∅).insert label⟩

/-- Forgets one reference, and whether there was one; a filter without any left is forgotten too. -/
def remove (r : References) (id : FilterId) (label : String) : Bool × References :=
  match r.get? id with
  | none => (false, r)
  | some entry =>
    let labels := entry.labels.erase label
    (entry.labels.contains label,
      if labels.isEmpty then r.erase id else r.insert ⟨id, labels⟩)

end References

end RecordFilters
