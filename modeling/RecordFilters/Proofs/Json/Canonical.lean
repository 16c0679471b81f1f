import Mathlib
import RecordFilters.Json.Basic

/-! # Canonical documents

Two documents that differ in the order of members, or in members that a later one of the same name
overrides, have one canonical form.

* `Json.sortMembers_eq_of_mem_iff`: sorted members are determined by which there are.
* `Json.canonical_canonical`: a canonical form is its own canonical form.
* `Json.InBounds`: the documents whose integers have 64 bits.
* `Json.IsRegular`: the documents as they are kept, with all their parts. -/

namespace RecordFilters

namespace Index

variable {α κ : Type} [KeyOrder κ] {key : α → κ} {s : Index key} {l : List α} {a : α}

theorem mem_insertAll_of_nodup (h : (l.map key).Nodup) :
    a ∈ s.insertAll l ↔ a ∈ l ∨ a ∈ s ∧ ∀ b ∈ l, key b ≠ key a := by
  induction l generalizing s with
  | nil => simp [insertAll]
  | cons b r ih =>
    have hfresh : ∀ c ∈ r, key c ≠ key b := by simpa using (List.nodup_cons.1 h).1
    have hstep : s.insertAll (b :: r) = (s.insert b).insertAll r := rfl
    rw [hstep, ih (List.nodup_cons.1 h).2, mem_insert, List.mem_cons]
    constructor
    · rintro (ha | ⟨rfl | ⟨ha, hb⟩, hr⟩)
      · exact .inl (.inr ha)
      · exact .inl (.inl rfl)
      · exact .inr ⟨ha, List.forall_mem_cons.2 ⟨hb.symm, hr⟩⟩
    · rintro ((rfl | ha) | ⟨ha, hr⟩)
      · exact .inr ⟨.inl rfl, hfresh⟩
      · exact .inl ha
      · obtain ⟨hb, hr⟩ := List.forall_mem_cons.1 hr
        exact .inr ⟨.inr ⟨ha, hb.symm⟩, hr⟩

/-- Entries under different keys all come in. -/
theorem mem_ofList_of_nodup (h : (l.map key).Nodup) : a ∈ (ofList l : Index key) ↔ a ∈ l := by
  have hempty : ¬ a ∈ (empty : Index key) := not_mem_empty
  simp [ofList, mem_insertAll_of_nodup h, hempty]

end Index

namespace Json

/-! ### Members in order -/

/-- Members in name order, each name once. -/
def Sorted {α : Type} (l : List (String × α)) : Prop := l.Pairwise fun a b => a.1 < b.1

variable {α : Type} {l m : List (String × α)}

theorem sorted_sortMembers (l : List (String × α)) : Sorted (sortMembers l) :=
  (Index.ofList l : Index (Prod.fst : String × α → String)).sorted

theorem mem_of_mem_sortMembers {a : String × α} (h : a ∈ sortMembers l) : a ∈ l :=
  Index.mem_of_mem_ofList h

theorem Sorted.nodup (h : Sorted l) : (l.map Prod.fst).Nodup := by
  refine List.pairwise_map.2 (h.imp ?_)
  intro a b hab he
  rw [he] at hab
  exact String.lt_irrefl b.1 hab

/-- Sorted members are determined by which there are. -/
theorem sortMembers_eq_of_mem_iff (hl : (l.map Prod.fst).Nodup) (hm : Sorted m)
    (h : ∀ a, a ∈ l ↔ a ∈ m) : sortMembers l = m :=
  Index.list_eq_of_mem_iff (sorted_sortMembers l) hm fun a =>
    (Index.mem_ofList_of_nodup hl).trans (h a)

theorem Sorted.sortMembers_eq (h : Sorted l) : sortMembers l = l :=
  sortMembers_eq_of_mem_iff h.nodup h fun _ => Iff.rfl

/-- A member before its place is moved there. -/
theorem sortMembers_cons_of_lt {a : String × α} (hl : Sorted l) (ha : ∀ m ∈ l, m.1 < a.1) :
    sortMembers (a :: l) = l ++ [a] := by
  have hsorted : Sorted (l ++ [a]) :=
    List.pairwise_append.2 ⟨hl, List.pairwise_singleton _ _, by simpa using ha⟩
  have hnodup : ((a :: l).map Prod.fst).Nodup := by
    have hperm : (l ++ [a]).Perm (a :: l) := List.perm_append_singleton a l
    exact (hperm.map Prod.fst).nodup_iff.1 hsorted.nodup
  exact sortMembers_eq_of_mem_iff hnodup hsorted fun m => by simp [or_comm]

theorem mem_sortMembers {a : String × α} (hl : (l.map Prod.fst).Nodup) :
    a ∈ sortMembers l ↔ a ∈ l :=
  Index.mem_ofList_of_nodup hl

theorem lookup_eq_some_iff_mem {name : String} {a : α} (hl : (l.map Prod.fst).Nodup) :
    l.lookup name = some a ↔ (name, a) ∈ l := by
  induction l with
  | nil => simp
  | cons b r ih =>
    obtain ⟨first, b⟩ := b
    obtain ⟨hfirst, hr⟩ := List.nodup_cons.1 hl
    by_cases h : name = first
    · subst h
      have hnot : (name, a) ∉ r := fun ha => hfirst (List.mem_map.2 ⟨_, ha, rfl⟩)
      simp [hnot, eq_comm]
    · have hne : (name == first) = false := beq_false_of_ne h
      rw [List.lookup_cons, hne]
      simp [ih hr, h]

/-- A look-up among different names does not depend on their order. -/
theorem lookup_sortMembers (hl : (l.map Prod.fst).Nodup) (name : String) :
    (sortMembers l).lookup name = l.lookup name := by
  ext a
  rw [lookup_eq_some_iff_mem (sorted_sortMembers l).nodup, lookup_eq_some_iff_mem hl,
    mem_sortMembers hl]

/-! ### Canonical forms -/

/-- A document in its canonical form. -/
def IsCanonical (j : Json) : Prop := j.canonical = j

theorem canonicalItems_eq_map (l : List Json) : canonicalItems l = l.map canonical := by
  induction l with
  | nil => rfl
  | cons j r ih => rw [canonicalItems, ih, List.map_cons]

theorem canonicalMembers_eq_map (l : List (String × Json)) :
    canonicalMembers l = l.map fun m => (m.1, m.2.canonical) := by
  induction l with
  | nil => rfl
  | cons m r ih => rw [canonicalMembers, ih, List.map_cons]

theorem isCanonical_array {items : List Json} (h : ∀ j ∈ items, j.IsCanonical) :
    (array items).IsCanonical := by
  unfold IsCanonical
  rw [canonical, canonicalItems_eq_map, List.map_congr_left h, List.map_id']

theorem canonicalMembers_eq_self {members : List (String × Json)}
    (h : ∀ m ∈ members, m.2.IsCanonical) : canonicalMembers members = members := by
  have hsame : ∀ m ∈ members, (m.1, m.2.canonical) = m := fun m hm => Prod.ext rfl (h m hm)
  rw [canonicalMembers_eq_map, List.map_congr_left hsame, List.map_id']

theorem isCanonical_object {members : List (String × Json)} (hsorted : Sorted members)
    (h : ∀ m ∈ members, m.2.IsCanonical) : (object members).IsCanonical := by
  unfold IsCanonical
  rw [canonical, canonicalMembers_eq_self h, hsorted.sortMembers_eq]

mutual

/-- A canonical form is its own canonical form. -/
theorem canonical_canonical (j : Json) : j.canonical.canonical = j.canonical :=
  match j with
  | .null | .bool _ | .whole _ | .string _ => rfl
  | .real n => by
    by_cases h : n.isFinite = true <;> simp [canonical, h]
  | .array items => by
    have hitems := isCanonical_of_mem_canonicalItems items
    exact isCanonical_array hitems
  | .object members => by
    have hmembers := isCanonical_of_mem_canonicalMembers members
    exact isCanonical_object (sorted_sortMembers _) fun m hm =>
      hmembers m (mem_of_mem_sortMembers hm)

theorem isCanonical_of_mem_canonicalItems (items : List Json) :
    ∀ j ∈ canonicalItems items, j.IsCanonical :=
  match items with
  | [] => nofun
  | j :: r => List.forall_mem_cons.2
    ⟨canonical_canonical j, isCanonical_of_mem_canonicalItems r⟩

theorem isCanonical_of_mem_canonicalMembers (members : List (String × Json)) :
    ∀ m ∈ canonicalMembers members, m.2.IsCanonical :=
  match members with
  | [] => nofun
  | (_, j) :: r => List.forall_mem_cons.2
    ⟨canonical_canonical j, isCanonical_of_mem_canonicalMembers r⟩

end

/-! ### Bounds -/

/-- A document whose integers have 64 bits, with a sign or without. Every document that is read from
a text is one. -/
inductive InBounds : Json → Prop
  | null : InBounds .null
  | bool (b : Bool) : InBounds (.bool b)
  | whole {n : Int} (least : Number.leastWhole ≤ n) (most : n < UInt64.size) : InBounds (.whole n)
  | real (n : Number) : InBounds (.real n)
  | string (s : String) : InBounds (.string s)
  | array {items : List Json} (items_inBounds : ∀ j ∈ items, InBounds j) : InBounds (.array items)
  | object {members : List (String × Json)} (members_inBounds : ∀ m ∈ members, InBounds m.2) :
      InBounds (.object members)

@[simp] theorem inBounds_whole {n : Int} :
    (whole n).InBounds ↔ Number.leastWhole ≤ n ∧ n < UInt64.size := by
  constructor
  · rintro (_ | _ | ⟨hleast, hmost⟩)
    exact ⟨hleast, hmost⟩
  · exact fun ⟨hleast, hmost⟩ => .whole hleast hmost

@[simp] theorem inBounds_array {items : List Json} :
    (array items).InBounds ↔ ∀ j ∈ items, j.InBounds := by
  constructor
  · rintro (_ | _ | _ | _ | _ | hitems)
    exact hitems
  · exact .array

@[simp] theorem inBounds_object {members : List (String × Json)} :
    (object members).InBounds ↔ ∀ m ∈ members, m.2.InBounds := by
  constructor
  · rintro (_ | _ | _ | _ | _ | _ | hmembers)
    exact hmembers
  · exact .object

theorem InBounds.canonical {j : Json} (h : j.InBounds) : j.canonical.InBounds := by
  induction h with
  | null => exact .null
  | bool b => exact .bool b
  | string s => exact .string s
  | whole hleast hmost => exact .whole hleast hmost
  | real n =>
    rw [Json.canonical]
    split
    · exact .real n
    · exact .null
  | array _ ih =>
    rw [Json.canonical, canonicalItems_eq_map]
    exact .array (List.forall_mem_map.2 ih)
  | object _ ih =>
    rw [Json.canonical, canonicalMembers_eq_map]
    refine .object fun m hm => ?_
    obtain ⟨m', hm', rfl⟩ := List.mem_map.1 (mem_of_mem_sortMembers hm)
    exact ih m' hm'

/-- A document as it is kept: in its canonical form, with integers of 64 bits. -/
structure IsRegular (j : Json) : Prop where
  inBounds : j.InBounds
  isCanonical : j.IsCanonical

theorem InBounds.isRegular {j : Json} (h : j.InBounds) : j.canonical.IsRegular :=
  ⟨h.canonical, canonical_canonical j⟩

namespace IsRegular

variable {items : List Json} {members : List (String × Json)}

/-- The items of a kept list are kept as well. -/
theorem of_mem_items (h : (array items).IsRegular) {j : Json} (hj : j ∈ items) :
    j.IsRegular := by
  have hsame : canonicalItems items = items := array.inj h.isCanonical
  cases h.inBounds with
  | array hitems =>
    rw [← hsame] at hj
    have hcanonical := isCanonical_of_mem_canonicalItems items j hj
    rw [hsame] at hj
    exact ⟨hitems j hj, hcanonical⟩

/-- The members of a kept object are kept as well. -/
theorem of_mem_members (h : (object members).IsRegular) {m : String × Json} (hm : m ∈ members) :
    m.2.IsRegular := by
  have hsame : sortMembers (canonicalMembers members) = members := object.inj h.isCanonical
  cases h.inBounds with
  | object hmembers =>
    have hbounds := hmembers m hm
    rw [← hsame] at hm
    exact ⟨hbounds, isCanonical_of_mem_canonicalMembers members m (mem_of_mem_sortMembers hm)⟩

end IsRegular

end Json

end RecordFilters
