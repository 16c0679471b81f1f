import Mathlib
import RecordFilters.Record.Matching

/-! # What the folding connectives mean

The connectives that build predicates keep constants and nested groups out of what they build. None
of this changes which records satisfy the result.

* `holds_both`, `holds_either`, `holds_negate`, `holds_when`: each connective means what it says. -/

namespace RecordFilters.Predicate

variable {records : RecordSet} {p : Predicate} {items : List Predicate} {r : Record}

/-! ### One constructor -/

@[simp] theorem holds_always : always.holds records r = true := rfl

@[simp] theorem holds_never : never.holds records r = false := rfl

@[simp] theorem holds_not : p.not.holds records r = !p.holds records r := rfl

theorem holds_compare {target : Target} {c : Comparison} {values : List Value} :
    (compare target c values).holds records r = (r.value target).compares c values := rfl

theorem holds_dateRange {target : Target} {start stop : Option Day} :
    (dateRange target start stop).holds records r =
      match (r.value target).day? with
      | some d => (start.all fun s => s ≤ d) && (stop.all fun e => d ≤ e)
      | none => false := rfl

theorem holds_related {relation : String} {object : ObjectTest} :
    (related relation object).holds records r =
      r.relations.any fun (kind, id) => kind = relation && object.accepts records id := rfl

theorem holds_hasProperty {id : String} :
    (hasProperty id).holds records r = r.properties.contains id := rfl

@[simp] theorem holds_all : (all items).holds records r = items.all (holds records · r) :=
  allHold_eq_all records items r

@[simp] theorem holds_any : (any items).holds records r = items.any (holds records · r) :=
  someHolds_eq_any records items r

theorem isNever_iff : p.isNever = true ↔ p = never := by
  cases p <;> simp [isNever]

theorem isAlways_iff : p.isAlways = true ↔ p = always := by
  cases p <;> simp [isAlways]

/-! ### Groups -/

/-- A member of a conjunction holds if all that it contributes does. -/
theorem all_conjuncts (p : Predicate) :
    p.conjuncts.all (holds records · r) = p.holds records r := by
  unfold conjuncts
  split
  next => simp
  next items => rw [holds_all]
  next => simp

/-- A member of a disjunction holds if some of what it contributes does. -/
theorem any_disjuncts (p : Predicate) :
    p.disjuncts.any (holds records · r) = p.holds records r := by
  unfold disjuncts
  split
  next => simp
  next items => rw [holds_any]
  next => simp

theorem holds_both : (both items).holds records r = items.all (holds records · r) := by
  have parts : (items.flatMap conjuncts).all (holds records · r) =
      items.all (holds records · r) := by
    rw [List.all_flatMap]
    exact congrArg items.all (funext all_conjuncts)
  unfold both
  split
  next hnever =>
    obtain ⟨p, hp, hnever⟩ := List.any_eq_true.1 hnever
    have hall : items.all (holds records · r) = false := by
      refine List.all_eq_false.2 ⟨p, hp, ?_⟩
      rw [isNever_iff.1 hnever]
      simp
    rw [hall, holds_never]
  next =>
    rw [← parts]
    split
    next hnil => simp [hnil]
    next p hone => simp [hone]
    next => rw [holds_all]

theorem holds_either : (either items).holds records r = items.any (holds records · r) := by
  have parts : (items.flatMap disjuncts).any (holds records · r) =
      items.any (holds records · r) := by
    rw [List.any_flatMap]
    exact congrArg items.any (funext any_disjuncts)
  unfold either
  split
  next halways =>
    obtain ⟨p, hp, halways⟩ := List.any_eq_true.1 halways
    have hany : items.any (holds records · r) = true := by
      refine List.any_eq_true.2 ⟨p, hp, ?_⟩
      rw [isAlways_iff.1 halways]
      simp
    rw [hany, holds_always]
  next =>
    rw [← parts]
    split
    next hnil => simp [hnil]
    next p hone => simp [hone]
    next => rw [holds_any]

/-! ### Negation -/

theorem holds_negate : p.negate.holds records r = !p.holds records r := by
  unfold negate
  split <;> simp

/-- A predicate that is kept or negated holds where the flag says so. -/
theorem holds_when {keep : Bool} :
    (p.when keep).holds records r = (p.holds records r == keep) := by
  unfold Predicate.when
  cases keep with
  | true => simp
  | false => simp [holds_negate]

end RecordFilters.Predicate
