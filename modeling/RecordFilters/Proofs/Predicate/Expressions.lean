import RecordFilters.Proofs.Predicate.Folding

/-! # Expressions in the folding connectives

Predicates are put together by expressions in the folding connectives, over predicates that are not
folded themselves: what they start from may hold constants, empty groups and negations of negations
at any depth. An expression is read in three ways: folded, as the predicate of the same shape, and as
a test of records. The three agree.

* `Predicate.Expression`, `Predicate.Reading`: expressions, and the ways to read them.
* `Predicate.Expression.holds_read`: a reading that is right about every connective is right about
  every expression.
* `Predicate.folding_preserves_meaning`: the readings agree, and a predicate and its negation split
  the records of a type. -/

namespace RecordFilters

namespace Predicate

/-- An expression in the connectives, over predicates of any shape. -/
inductive Expression
  | of (p : Predicate)
  | both (items : List Expression)
  | either (items : List Expression)
  | negate (e : Expression)
  | when (e : Expression) (keep : Bool)
  /-- Some object of a relation is of an entity type and satisfies the expression. -/
  | relatedMatching (relation entityType : String) (e : Expression)

/-- A way to read expressions: what becomes of a predicate, and of each connective. -/
structure Reading (α : Type) where
  of : Predicate → α
  both : List α → α
  either : List α → α
  negate : α → α
  when : α → Bool → α
  relatedMatching : String → String → α → α

namespace Reading

/-- Every connective folds. -/
def folding : Reading Predicate where
  of p := p
  both := Predicate.both
  either := Predicate.either
  negate := Predicate.negate
  when := Predicate.when
  relatedMatching := Predicate.relatedMatching

/-- Every connective stands in the predicate. -/
def plain : Reading Predicate where
  of p := p
  both := all
  either := any
  negate := not
  when p keep := if keep then p else p.not
  relatedMatching := Predicate.relatedMatching

/-- Every connective is that of tests of records. -/
def meaning (records : RecordSet) : Reading (Record → Bool) where
  of p r := p.holds records r
  both tests r := tests.all fun test => test r
  either tests r := tests.any fun test => test r
  negate test r := !test r
  when test keep r := test r == keep
  relatedMatching relation entityType test r := r.relations.any fun (kind, id) =>
    kind = relation &&
      match records.get? id with
      | some o => o.entityType = entityType && test o
      | none => false

end Reading

namespace Expression

mutual

def read {α : Type} (m : Reading α) : Expression → α
  | of p => m.of p
  | both items => m.both (readItems m items)
  | either items => m.either (readItems m items)
  | negate e => m.negate (read m e)
  | when e keep => m.when (read m e) keep
  | relatedMatching relation entityType e => m.relatedMatching relation entityType (read m e)

def readItems {α : Type} (m : Reading α) : List Expression → List α
  | [] => []
  | e :: rest => read m e :: readItems m rest

end

/-- The predicate that the folding connectives make of an expression. -/
def folded (e : Expression) : Predicate := e.read .folding

/-- The predicate of the shape of an expression. -/
def unfolded (e : Expression) : Predicate := e.read .plain

/-- What an expression says of the records among others. -/
def test (records : RecordSet) (e : Expression) : Record → Bool := e.read (.meaning records)

end Expression

/-! ### Readings that agree -/

variable {records : RecordSet} {m : Reading Predicate}

theorem holds_relatedMatching {relation entityType : String} {p : Predicate} {r : Record} :
    (relatedMatching relation entityType p).holds records r =
      (Reading.meaning records).relatedMatching relation entityType (p.holds records) r := rfl

/-- A reading as predicates whose every connective means what it says. -/
structure Reading.Right (m : Reading Predicate) (records : RecordSet) : Prop where
  of : ∀ p r, (m.of p).holds records r = p.holds records r
  both : ∀ items r, (m.both items).holds records r = items.all (holds records · r)
  either : ∀ items r, (m.either items).holds records r = items.any (holds records · r)
  negate : ∀ p r, (m.negate p).holds records r = !p.holds records r
  when : ∀ p keep r, (m.when p keep).holds records r = (p.holds records r == keep)
  relatedMatching : ∀ relation entityType p,
    m.relatedMatching relation entityType p = .relatedMatching relation entityType p

theorem Reading.right_folding : Reading.folding.Right records where
  of _ _ := rfl
  both _ _ := holds_both
  either _ _ := holds_either
  negate _ _ := holds_negate
  when _ _ _ := holds_when
  relatedMatching _ _ _ := rfl

theorem Reading.right_plain : Reading.plain.Right records where
  of _ _ := rfl
  both _ _ := holds_all
  either _ _ := holds_any
  negate _ _ := holds_not
  when p keep r := by cases keep <;> simp [plain]
  relatedMatching _ _ _ := rfl

namespace Expression

mutual

/-- A reading that is right about every connective is right about every expression. -/
theorem holds_read (h : m.Right records) (e : Expression) :
    (e.read m).holds records = e.test records := by
  funext r
  match e with
  | of p => exact h.of p r
  | both items =>
    calc (m.both (readItems m items)).holds records r
      _ = ((readItems m items).map (holds records)).all fun test => test r := by
        rw [h.both, List.all_map]
        rfl
      _ = (both items).test records r := by
        rw [holds_readItems h items]
        rfl
  | either items =>
    calc (m.either (readItems m items)).holds records r
      _ = ((readItems m items).map (holds records)).any fun test => test r := by
        rw [h.either, List.any_map]
        rfl
      _ = (either items).test records r := by
        rw [holds_readItems h items]
        rfl
  | negate e =>
    rw [read, h.negate, holds_read h e]
    rfl
  | when e keep =>
    rw [read, h.when, holds_read h e]
    rfl
  | relatedMatching relation entityType e =>
    rw [read, h.relatedMatching, holds_relatedMatching, holds_read h e]
    rfl

theorem holds_readItems (h : m.Right records) (items : List Expression) :
    (readItems m items).map (holds records) = readItems (.meaning records) items := by
  match items with
  | [] => rfl
  | e :: rest =>
    rw [readItems, readItems, List.map_cons, holds_read h e, holds_readItems h rest]
    rfl

end

theorem holds_folded (e : Expression) (records : RecordSet) :
    e.folded.holds records = e.test records :=
  holds_read Reading.right_folding e

theorem holds_unfolded (e : Expression) (records : RecordSet) :
    e.unfolded.holds records = e.test records :=
  holds_read Reading.right_plain e

end Expression

end Predicate

/-! ### A predicate and its negation -/

namespace RecordSet

open Predicate

variable {records : RecordSet} {entityType : String} {p : Predicate} {id : RecordId}

theorem pairwise_select : (records.select entityType p).Pairwise (· < ·) :=
  List.pairwise_map.2 (records.sorted.filter _)

theorem mem_select : id ∈ records.select entityType p ↔
    ∃ r ∈ records, r.id = id ∧ r.entityType = entityType ∧ p.holds records r = true := by
  simp only [select, List.mem_map, List.mem_filter, Bool.and_eq_true, decide_eq_true_eq]
  constructor
  · rintro ⟨r, ⟨hr, htype, hholds⟩, hid⟩
    exact ⟨r, hr, hid, htype, hholds⟩
  · rintro ⟨r, hr, hid, htype, hholds⟩
    exact ⟨r, ⟨hr, htype, hholds⟩, hid⟩

theorem disjoint_select_negate :
    (records.select entityType p).Disjoint (records.select entityType p.negate) := by
  intro id hkept hrejected
  obtain ⟨r, hr, hid, -, hholds⟩ := mem_select.1 hkept
  obtain ⟨r', hr', hid', -, hholds'⟩ := mem_select.1 hrejected
  cases Index.eq_of_key_eq hr hr' (hid.trans hid'.symm)
  rw [holds_negate, hholds] at hholds'
  cases hholds'

theorem mem_select_or_negate :
    id ∈ records.select entityType p ∨ id ∈ records.select entityType p.negate ↔
      ∃ r ∈ records, r.id = id ∧ r.entityType = entityType := by
  rw [mem_select, mem_select]
  constructor
  · rintro (⟨r, hr, hid, htype, -⟩ | ⟨r, hr, hid, htype, -⟩) <;> exact ⟨r, hr, hid, htype⟩
  · rintro ⟨r, hr, hid, htype⟩
    cases hholds : p.holds records r with
    | true => exact Or.inl ⟨r, hr, hid, htype, hholds⟩
    | false => exact Or.inr ⟨r, hr, hid, htype, by rw [holds_negate, hholds]; rfl⟩

end RecordSet

/-- **Folding preserves meaning.** What the folding connectives make of an expression, and the
predicate of its shape, are satisfied by the records of which the expression is true. A storage that
answers splits the records of an entity type into those that satisfy a predicate and those that
satisfy the negation, both by id. -/
theorem Predicate.folding_preserves_meaning :
    (∀ (e : Expression) (records : RecordSet) (r : Record),
      e.folded.holds records r = e.test records r ∧
        e.unfolded.holds records r = e.test records r) ∧
    ∀ (p : Predicate) (records : RecordSet) (reads : Nat) (entityType : String),
      ∃ kept rejected, ((Storage.mk records none reads).fetch entityType p).1 = .ok kept ∧
        ((Storage.mk records none reads).fetch entityType p.negate).1 = .ok rejected ∧
        kept.Pairwise (· < ·) ∧ rejected.Pairwise (· < ·) ∧ kept.Disjoint rejected ∧
        ∀ id, id ∈ kept ∨ id ∈ rejected ↔
          ∃ r ∈ records, r.id = id ∧ r.entityType = entityType :=
  ⟨fun e records r => ⟨congrFun (e.holds_folded records) r, congrFun (e.holds_unfolded records) r⟩,
    fun p records _ entityType => ⟨records.select entityType p,
      records.select entityType p.negate, rfl, rfl, RecordSet.pairwise_select,
      RecordSet.pairwise_select, RecordSet.disjoint_select_negate,
      fun _ => RecordSet.mem_select_or_negate⟩⟩

end RecordFilters
