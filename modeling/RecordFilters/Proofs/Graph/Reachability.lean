import Mathlib
import RecordFilters.Filter.Basic

/-! # What a filter reaches

The edges of a set of filters lead from each stored filter to the ids its conditions name, stored or
not. `Reaches` follows one or more of them; `Below` starts at the conditions of a candidate, which
need not be stored, and follows stored edges from there on.

* `Acyclic`, `Complete`: no filter reaches itself, every id that is pointed at is stored.
* `pointsAt_insert`, `pointsAt_erase`: a change of one filter changes the edges that start there.
* `reaches_insert_cases`: a way through a set with one new filter either was there before, or it
  enters what lies below the new filter. -/

namespace RecordFilters

open Relation

namespace FilterSet

/-- A stored filter points at an id. -/
def PointsAt (s : FilterSet) (a b : FilterId) : Prop := ∃ f ∈ s, f.id = a ∧ b ∈ f.subFilterIds

/-- A way of one or more edges leads from a stored filter to an id. -/
def Reaches (s : FilterSet) : FilterId → FilterId → Prop := TransGen s.PointsAt

/-- The conditions of a candidate, and from there on stored edges, lead to an id. -/
def Below (s : FilterSet) (candidate : Filter) (id : FilterId) : Prop :=
  ∃ sub ∈ candidate.subFilterIds, ReflTransGen s.PointsAt sub id

/-- No filter reaches itself. -/
def Acyclic (s : FilterSet) : Prop := ∀ id, ¬ s.Reaches id id

/-- Every filter that is pointed at is stored. -/
def Complete (s : FilterSet) : Prop := ∀ a b, s.PointsAt a b → s.contains b = true

variable {s t : FilterSet} {f : Filter} {a b id : FilterId}

/-! ### Edges -/

theorem pointsAt_of_mem (hf : f ∈ s) (hb : b ∈ f.subFilterIds) : s.PointsAt f.id b :=
  ⟨f, hf, rfl, hb⟩

/-- The edges of a stored filter are those of its conditions. -/
theorem mem_subFilterIds_of_pointsAt (hf : f ∈ s) (h : s.PointsAt f.id b) :
    b ∈ f.subFilterIds := by
  obtain ⟨g, hg, hi, hb⟩ := h
  rwa [← Index.eq_of_key_eq hg hf hi]

theorem pointsAt_insert : PointsAt (s.insert f) a b ↔
    (a = f.id ∧ b ∈ f.subFilterIds) ∨ (a ≠ f.id ∧ s.PointsAt a b) := by
  constructor
  · rintro ⟨g, hg, rfl, hb⟩
    rcases Index.mem_insert.1 hg with rfl | ⟨hg, hne⟩
    · exact Or.inl ⟨rfl, hb⟩
    · exact Or.inr ⟨hne, g, hg, rfl, hb⟩
  · rintro (⟨rfl, hb⟩ | ⟨hne, g, hg, rfl, hb⟩)
    · exact ⟨f, Index.mem_insert.2 (Or.inl rfl), rfl, hb⟩
    · exact ⟨g, Index.mem_insert.2 (Or.inr ⟨hg, hne⟩), rfl, hb⟩

theorem pointsAt_erase : PointsAt (s.erase id) a b ↔ a ≠ id ∧ s.PointsAt a b := by
  constructor
  · rintro ⟨g, hg, rfl, hb⟩
    obtain ⟨hg, hne⟩ := Index.mem_erase.1 hg
    exact ⟨hne, g, hg, rfl, hb⟩
  · rintro ⟨hne, g, hg, rfl, hb⟩
    exact ⟨g, Index.mem_erase.2 ⟨hg, hne⟩, rfl, hb⟩

/-- Nothing points at an id without parents. -/
theorem not_pointsAt_of_parentsOf_eq_nil (h : s.parentsOf id = []) : ¬ s.PointsAt a id := by
  rintro ⟨f, hf, -, hb⟩
  have : f.id ∈ s.parentsOf id := mem_parentsOf.2 ⟨f, hf, rfl, hb⟩
  rw [h] at this
  exact List.not_mem_nil this

/-! ### Ways -/

theorem Reaches.mono (h : ∀ a b, s.PointsAt a b → t.PointsAt a b) (hs : s.Reaches a b) :
    t.Reaches a b := TransGen.mono h _ _ hs

/-- In a complete set only stored filters are reached. -/
theorem Complete.contains_of_reaches (hc : s.Complete) (h : s.Reaches a b) :
    s.contains b = true := by
  cases h with
  | single h => exact hc _ _ h
  | tail _ h => exact hc _ _ h

theorem Below.tail (h : s.Below f a) (hab : s.PointsAt a b) : s.Below f b := by
  obtain ⟨sub, hs, h⟩ := h
  exact ⟨sub, hs, h.tail hab⟩

theorem Below.trans (h : s.Below f a) (hab : s.Reaches a b) : s.Below f b := by
  obtain ⟨sub, hs, h⟩ := h
  exact ⟨sub, hs, h.trans hab.to_reflTransGen⟩

/-- What lies below a stored filter is what it reaches. -/
theorem below_iff_reaches (hf : f ∈ s) : s.Below f a ↔ s.Reaches f.id a := by
  constructor
  · rintro ⟨sub, hs, h⟩
    exact TransGen.head' (pointsAt_of_mem hf hs) h
  · intro h
    obtain ⟨sub, hs, h⟩ := TransGen.head'_iff.1 h
    exact ⟨sub, mem_subFilterIds_of_pointsAt hf hs, h⟩

/-- Nothing below a filter that does not lead back to itself is changed with it. -/
theorem below_of_reaches_insert (hf : ¬ s.Below f f.id)
    (h : Reaches (s.insert f) f.id b) : s.Below f b := by
  induction h with
  | single h =>
    rcases pointsAt_insert.1 h with ⟨-, hb⟩ | ⟨hne, -⟩
    · exact ⟨_, hb, ReflTransGen.refl⟩
    · exact absurd rfl hne
  | tail _ h ih =>
    rcases pointsAt_insert.1 h with ⟨rfl, -⟩ | ⟨-, h⟩
    · exact absurd ih hf
    · exact ih.tail h

/-- A way from another filter through a set with a new filter `f` was there before, or it reached
`f` before and ends below it. -/
theorem reaches_insert_cases (hf : ¬ s.Below f f.id) (ha : a ≠ f.id)
    (h : Reaches (s.insert f) a b) : s.Reaches a b ∨ (s.Reaches a f.id ∧ s.Below f b) := by
  induction h with
  | single h =>
    rcases pointsAt_insert.1 h with ⟨rfl, -⟩ | ⟨-, h⟩
    · exact absurd rfl ha
    · exact Or.inl (TransGen.single h)
  | tail _ h ih =>
    rcases pointsAt_insert.1 h with ⟨rfl, hb⟩ | ⟨-, h⟩
    · rcases ih with ih | ⟨-, ih⟩
      · exact Or.inr ⟨ih, _, hb, ReflTransGen.refl⟩
      · exact absurd ih hf
    · rcases ih with ih | ⟨ih, ih'⟩
      · exact Or.inl (TransGen.tail ih h)
      · exact Or.inr ⟨ih, ih'.tail h⟩

/-! ### What a change of one filter keeps -/

/-- Where edges lead downwards there is no cycle. -/
theorem Acyclic.of_rank (rank : FilterId → Nat)
    (h : ∀ f ∈ s, ∀ b ∈ f.subFilterIds, rank b < rank f.id) : s.Acyclic := by
  have down : ∀ a b, s.Reaches a b → rank b < rank a := by
    intro a b hway
    induction hway with
    | single hedge =>
      obtain ⟨f, hf, rfl, hb⟩ := hedge
      exact h f hf _ hb
    | tail _ hedge ih =>
      obtain ⟨f, hf, rfl, hb⟩ := hedge
      exact Nat.lt_trans (h f hf _ hb) ih
  exact fun id hcycle => Nat.lt_irrefl _ (down id id hcycle)

/-- **A filter that does not lead back to itself closes no cycle.** -/
theorem Acyclic.insert (hs : s.Acyclic) (hf : ¬ s.Below f f.id) : Acyclic (s.insert f) := by
  intro id h
  by_cases hid : id = f.id
  · subst hid
    exact hf (below_of_reaches_insert hf h)
  · rcases reaches_insert_cases hf hid h with h | ⟨hup, hdown⟩
    · exact hs id h
    · exact hf (hdown.trans hup)

/-- Filters that do not lead back to themselves close no cycle together: a cycle would either have
been there before or pass one of them. -/
theorem Acyclic.of_mem (hs : s.Acyclic) (h : ∀ f ∈ t, f ∈ s ∨ ¬ t.Below f f.id) : t.Acyclic := by
  have split : ∀ a b, t.Reaches a b → s.Reaches a b ∨
      ∃ f ∈ t, ¬ t.Below f f.id ∧ ReflTransGen t.PointsAt a f.id ∧ t.Below f b := by
    intro a b hway
    induction hway with
    | single hedge =>
      obtain ⟨f, hf, rfl, hb⟩ := hedge
      rcases h f hf with hold | hnew
      · exact Or.inl (TransGen.single (pointsAt_of_mem hold hb))
      · exact Or.inr ⟨f, hf, hnew, ReflTransGen.refl, _, hb, ReflTransGen.refl⟩
    | tail hway hedge ih =>
      rcases ih with ih | ⟨f, hf, hnew, hup, hdown⟩
      · obtain ⟨f, hf, rfl, hb⟩ := hedge
        rcases h f hf with hold | hnew
        · exact Or.inl (TransGen.tail ih (pointsAt_of_mem hold hb))
        · exact Or.inr ⟨f, hf, hnew, hway.to_reflTransGen, _, hb, ReflTransGen.refl⟩
      · exact Or.inr ⟨f, hf, hnew, hup, hdown.tail hedge⟩
  intro id hcycle
  rcases split id id hcycle with hold | ⟨f, hf, hnew, hup, hdown⟩
  · exact hs id hold
  · obtain ⟨sub, hsub, hway⟩ := hdown
    exact hnew ⟨sub, hsub, hway.trans hup⟩

theorem Acyclic.erase (hs : s.Acyclic) (id : FilterId) : Acyclic (s.erase id) :=
  fun a h => hs a (Reaches.mono (fun _ _ h => (pointsAt_erase.1 h).2) h)

theorem complete_iff : s.Complete ↔
    ∀ f ∈ s.toList, ∀ b ∈ f.subFilterIds, s.contains b = true := by
  constructor
  · intro h f hf b hb
    exact h f.id b (pointsAt_of_mem hf hb)
  · rintro h a b ⟨f, hf, -, hb⟩
    exact h f hf b hb

instance : Decidable s.Complete := decidable_of_iff _ complete_iff.symm

theorem Complete.insert (hs : s.Complete) (hf : ∀ id ∈ f.subFilterIds, s.contains id = true) :
    Complete (s.insert f) := by
  intro a b h
  rcases pointsAt_insert.1 h with ⟨-, hb⟩ | ⟨-, h⟩
  · exact Index.contains_insert.2 (Or.inr (hf b hb))
  · exact Index.contains_insert.2 (Or.inr (hs a b h))

theorem Complete.erase (hs : s.Complete) (hid : s.parentsOf id = []) :
    Complete (s.erase id) := by
  intro a b h
  obtain ⟨-, hab⟩ := pointsAt_erase.1 h
  refine Index.contains_erase.2 ⟨?_, hs a b hab⟩
  rintro rfl
  exact not_pointsAt_of_parentsOf_eq_nil hid hab

end FilterSet

end RecordFilters
