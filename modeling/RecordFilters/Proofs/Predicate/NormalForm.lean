import RecordFilters.Handler.Relation
import RecordFilters.Operator
import RecordFilters.Proofs.Predicate.Folding

/-! # Normal forms of predicates

The folding connectives look one level down. What they make of predicates in normal form is in normal
form, so that nothing has to be looked for further down.

* `Predicate.Folded`: no constant at any depth, no group that could be smaller or flatter, and no
  negation of a negation.
* `Predicate.IsNormal`: a constant, or folded.
* `Predicate.isNormal_both`, `Predicate.isNormal_either`, `Predicate.IsNormal.negate`,
  `Predicate.IsNormal.when`, `Handler.isNormal_relatedTo`: the connectives keep normal forms. -/

namespace RecordFilters

namespace Predicate

/-- A predicate that cannot be folded any further. No constant is in it, not even in what is asked of
related objects. -/
inductive Folded : Predicate → Prop
  | compare (target : Target) (comparison : Comparison) (values : List Value) :
    Folded (compare target comparison values)
  | dateRange (target : Target) (start stop : Option Day) : Folded (dateRange target start stop)
  | related (relation : String) (object : ObjectTest) : Folded (related relation object)
  | relatedMatching (relation entityType : String) {p : Predicate} (object : Folded p) :
    Folded (relatedMatching relation entityType p)
  | hasProperty (id : String) : Folded (hasProperty id)
  /-- A conjunction has two members at least, and none of them is a conjunction. -/
  | all {items : List Predicate} (many : 2 ≤ items.length) (folded : ∀ p ∈ items, Folded p)
    (flat : ∀ inner, all inner ∉ items) : Folded (all items)
  /-- A disjunction has two members at least, and none of them is a disjunction. -/
  | any {items : List Predicate} (many : 2 ≤ items.length) (folded : ∀ p ∈ items, Folded p)
    (flat : ∀ inner, any inner ∉ items) : Folded (any items)
  | not {p : Predicate} (folded : Folded p) (single : ∀ q, p ≠ not q) : Folded (not p)

/-- A predicate in normal form: a constant, or one without constants that is folded. -/
def IsNormal (p : Predicate) : Prop := p = always ∨ p = never ∨ p.Folded

variable {p q : Predicate} {items parts : List Predicate}

theorem Folded.isNormal (h : p.Folded) : p.IsNormal := Or.inr (Or.inr h)

theorem isNormal_always : always.IsNormal := Or.inl rfl

theorem isNormal_never : never.IsNormal := Or.inr (Or.inl rfl)

/-! ### Groups -/

/-- What a member other than the constant contributes to a conjunction. -/
theorem IsNormal.folded_of_mem_conjuncts (h : p.IsNormal) (hnever : p.isNever = false)
    (hq : q ∈ p.conjuncts) : q.Folded ∧ ∀ inner, q ≠ all inner := by
  rcases h with rfl | rfl | h
  · cases hq
  · cases hnever
  · cases h with
    | all many folded flat => exact ⟨folded q hq, fun inner hinner => flat inner (hinner ▸ hq)⟩
    | _ =>
      cases List.mem_singleton.1 hq
      exact ⟨by constructor <;> assumption, nofun⟩

/-- What a member other than the constant contributes to a disjunction. -/
theorem IsNormal.folded_of_mem_disjuncts (h : p.IsNormal) (halways : p.isAlways = false)
    (hq : q ∈ p.disjuncts) : q.Folded ∧ ∀ inner, q ≠ any inner := by
  rcases h with rfl | rfl | h
  · cases halways
  · cases hq
  · cases h with
    | any many folded flat => exact ⟨folded q hq, fun inner hinner => flat inner (hinner ▸ hq)⟩
    | _ =>
      cases List.mem_singleton.1 hq
      exact ⟨by constructor <;> assumption, nofun⟩

/-- Folded parts make up a normal form: the constant if there are none, the part if there is one, and
else their group. -/
theorem isNormal_of_parts {unit : Predicate} {group : List Predicate → Predicate}
    (hunit : unit.IsNormal) : (∀ p ∈ parts, p.Folded) →
    (2 ≤ parts.length → (group parts).Folded) →
    IsNormal (match parts with
      | [] => unit
      | [p] => p
      | parts => group parts) := by
  intro hparts hgroup
  match parts with
  | [] => exact hunit
  | [p] => exact (hparts p List.mem_cons_self).isNormal
  | p :: q :: rest => exact (hgroup (by simp)).isNormal

theorem isNormal_both (h : ∀ p ∈ items, p.IsNormal) : (both items).IsNormal := by
  unfold both
  split
  next => exact isNormal_never
  next hnever =>
    have hparts : ∀ q ∈ items.flatMap conjuncts, q.Folded ∧ ∀ inner, q ≠ all inner := by
      intro q hq
      obtain ⟨p, hp, hq⟩ := List.mem_flatMap.1 hq
      refine (h p hp).folded_of_mem_conjuncts (Bool.eq_false_iff.2 fun hp' => ?_) hq
      exact hnever (List.any_eq_true.2 ⟨p, hp, hp'⟩)
    exact isNormal_of_parts isNormal_always (fun q hq => (hparts q hq).1) fun many =>
      .all many (fun q hq => (hparts q hq).1) fun inner hinner => (hparts _ hinner).2 inner rfl

theorem isNormal_either (h : ∀ p ∈ items, p.IsNormal) : (either items).IsNormal := by
  unfold either
  split
  next => exact isNormal_always
  next halways =>
    have hparts : ∀ q ∈ items.flatMap disjuncts, q.Folded ∧ ∀ inner, q ≠ any inner := by
      intro q hq
      obtain ⟨p, hp, hq⟩ := List.mem_flatMap.1 hq
      refine (h p hp).folded_of_mem_disjuncts (Bool.eq_false_iff.2 fun hp' => ?_) hq
      exact halways (List.any_eq_true.2 ⟨p, hp, hp'⟩)
    exact isNormal_of_parts isNormal_never (fun q hq => (hparts q hq).1) fun many =>
      .any many (fun q hq => (hparts q hq).1) fun inner hinner => (hparts _ hinner).2 inner rfl

/-! ### Negation -/

theorem Folded.negate (h : p.Folded) : p.negate.Folded := by
  cases h with
  | not folded _ => exact folded
  | _ =>
    refine Folded.not ?_ ?_
    · constructor <;> assumption
    · nofun

theorem IsNormal.negate (h : p.IsNormal) : p.negate.IsNormal := by
  rcases h with rfl | rfl | h
  · exact isNormal_never
  · exact isNormal_always
  · exact h.negate.isNormal

theorem IsNormal.when (h : p.IsNormal) (keep : Bool) : (p.when keep).IsNormal := by
  cases keep with
  | true => exact h
  | false => exact h.negate

end Predicate

open Predicate

/-! ### Relations and operators -/

theorem Handler.isNormal_relatedTo {p : Predicate} (relation entityType : String)
    (h : p.IsNormal) : (relatedTo relation entityType p).IsNormal := by
  rcases h with rfl | rfl | h
  · exact (Folded.related _ _).isNormal
  · exact isNormal_never
  · cases h <;> exact (Folded.relatedMatching _ _ (by constructor <;> assumption)).isNormal

namespace Operator

variable {o : Operator}

/-- The standard operators compare, or deny that. -/
theorem build_eq (h : o ∈ standard) :
    (∃ c keep, o.build = comparing c keep) ∨ o.build = testingEmptiness := by
  simp only [standard, List.mem_cons, List.not_mem_nil, or_false] at h
  rcases h with rfl | rfl | rfl | rfl | rfl | rfl | rfl | rfl | rfl | rfl | rfl | rfl | rfl |
    rfl | rfl | rfl | rfl | rfl | rfl | rfl | rfl | rfl
  all_goals dsimp only
  all_goals first
    | exact Or.inl ⟨_, _, rfl⟩
    | exact Or.inr rfl

theorem isNormal_build (h : o ∈ OperatorCatalog.standard) (target : Target)
    (values : List Value) : (o.build target values).IsNormal := by
  rcases build_eq (Index.mem_of_mem_ofList h) with ⟨c, keep, hbuild⟩ | hbuild
  · rw [hbuild]
    exact (Folded.compare target c values).isNormal.when keep
  · rw [hbuild]
    exact (Folded.compare target .isEmpty []).isNormal.when _

end Operator

end RecordFilters
