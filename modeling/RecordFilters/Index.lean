/-! # Sorted collections by key

A finite collection in which every entry carries its own key, no key occurs twice and the entries
stand in key order. Every table of this library whose order can be seen is one: filters by id,
records by id, operators by number, a set of names by the names themselves.

* `Index.insert` adds an entry or replaces the one with its key, `Index.erase` drops a key.
* `get?_insert`, `get?_erase`: what a look-up finds afterwards.
* `eq_of_get?_eq`: a collection is determined by its look-ups. -/

namespace RecordFilters

/-- A decidable strict total order on keys. -/
class KeyOrder (κ : Type) extends LT κ where
  decLt : DecidableRel (α := κ) (· < ·)
  decEq : DecidableEq κ
  irrefl : ∀ a : κ, ¬ a < a
  trans : ∀ a b c : κ, a < b → b < c → a < c
  connected : ∀ a b : κ, ¬ a < b → ¬ b < a → a = b

namespace KeyOrder

instance (κ : Type) [KeyOrder κ] : DecidableRel (α := κ) (· < ·) := decLt

instance (priority := low) (κ : Type) [KeyOrder κ] : DecidableEq κ := decEq

/-- Texts are ordered by code point. -/
instance : KeyOrder String where
  decLt := inferInstance
  decEq := inferInstance
  irrefl := String.lt_irrefl
  trans _ _ _ := String.lt_trans
  connected _ _ h h' := String.le_antisymm (String.not_lt.1 h') (String.not_lt.1 h)

instance : KeyOrder Nat where
  decLt := inferInstance
  decEq := inferInstance
  irrefl := Nat.lt_irrefl
  trans _ _ _ := Nat.lt_trans
  connected _ _ h h' := by omega

/-- A type whose values are told apart by a key is ordered by that key. -/
@[reducible] def lift {κ ι : Type} [KeyOrder κ] (f : ι → κ) (inj : ∀ a b, f a = f b → a = b) :
    KeyOrder ι where
  lt a b := f a < f b
  decLt _ _ := inferInstanceAs (Decidable (_ < _))
  decEq a b := if h : f a = f b then .isTrue (inj a b h) else .isFalse fun e => h (by rw [e])
  irrefl a := KeyOrder.irrefl (f a)
  trans _ _ _ := KeyOrder.trans _ _ _
  connected a b h h' := inj a b (KeyOrder.connected _ _ h h')

end KeyOrder

variable {α κ : Type} [KeyOrder κ] {key : α → κ}

/-- Entries in strictly increasing key order. -/
structure Index (key : α → κ) where
  toList : List α
  sorted : toList.Pairwise fun a b => key a < key b

namespace Index

@[ext] theorem ext {s t : Index key} (h : s.toList = t.toList) : s = t := by
  cases s; cases t; cases h; rfl

def empty : Index key := ⟨[], .nil⟩

instance : EmptyCollection (Index key) := ⟨empty⟩

instance : Inhabited (Index key) := ⟨empty⟩

instance : Membership α (Index key) := ⟨fun s a => a ∈ s.toList⟩

instance [DecidableEq α] : DecidableEq (Index key) := fun s t =>
  if h : s.toList = t.toList then .isTrue (ext h) else .isFalse fun e => h (by rw [e])

def size (s : Index key) : Nat := s.toList.length

def isEmpty (s : Index key) : Bool := s.toList.isEmpty

def keys (s : Index key) : List κ := s.toList.map key

/-- The entry with key `k`. -/
def get? (s : Index key) (k : κ) : Option α := s.toList.find? fun a => key a = k

/-- Whether some entry has key `k`. -/
def contains (s : Index key) (k : κ) : Bool := (s.get? k).isSome

/-- `a` at its place in a sorted list, in place of the entry with the same key. -/
def insertSorted (key : α → κ) (a : α) : List α → List α
  | [] => [a]
  | b :: r =>
    if key a < key b then a :: b :: r
    else if key b < key a then b :: insertSorted key a r
    else a :: r

theorem mem_of_mem_insertSorted {a b : α} {l : List α} (h : b ∈ insertSorted key a l) :
    b = a ∨ b ∈ l := by
  induction l with
  | nil => simpa [insertSorted] using h
  | cons c r ih =>
    unfold insertSorted at h
    split at h
    · simpa using h
    · split at h
      · rcases List.mem_cons.1 h with rfl | h
        · simp
        · rcases ih h with h | h <;> simp [h]
      · rcases List.mem_cons.1 h with rfl | h <;> simp [*]

theorem pairwise_insertSorted (a : α) {l : List α} (h : l.Pairwise fun a b => key a < key b) :
    (insertSorted key a l).Pairwise fun a b => key a < key b := by
  induction l with
  | nil => simp [insertSorted]
  | cons b r ih =>
    have hb := List.pairwise_cons.1 h
    unfold insertSorted
    split
    next hab =>
      refine List.pairwise_cons.2 ⟨fun c hc => ?_, h⟩
      rcases List.mem_cons.1 hc with rfl | hc
      · exact hab
      · exact KeyOrder.trans _ _ _ hab (hb.1 c hc)
    next hab =>
      split
      next hba =>
        refine List.pairwise_cons.2 ⟨fun c hc => ?_, ih hb.2⟩
        rcases mem_of_mem_insertSorted hc with rfl | hc
        · exact hba
        · exact hb.1 c hc
      next hba =>
        have e := KeyOrder.connected _ _ hab hba
        exact List.pairwise_cons.2 ⟨fun c hc => e ▸ hb.1 c hc, hb.2⟩

/-- Adds `a`, or puts it in place of the entry with its key. -/
def insert (s : Index key) (a : α) : Index key :=
  ⟨insertSorted key a s.toList, pairwise_insertSorted a s.sorted⟩

/-- The entries that satisfy `p`. -/
def filter (s : Index key) (p : α → Bool) : Index key :=
  ⟨s.toList.filter p, s.sorted.filter p⟩

/-- Drops the entry with key `k`. -/
def erase (s : Index key) (k : κ) : Index key := s.filter fun a => key a ≠ k

/-- The entry with key `k` replaced by what `f` makes of it. -/
def modify (s : Index key) (k : κ) (f : α → α) : Index key :=
  match s.get? k with
  | some a => s.insert (f a)
  | none => s

/-- Entries added one by one; of two with one key the later stays. -/
def insertAll (s : Index key) (l : List α) : Index key := l.foldl insert s

def ofList (l : List α) : Index key := empty.insertAll l

/-! ### Look-ups -/

theorem mem_def {s : Index key} {a : α} : a ∈ s ↔ a ∈ s.toList := Iff.rfl

theorem key_of_get? {s : Index key} {k : κ} {a : α} (h : s.get? k = some a) : key a = k := by
  simpa using List.find?_some h

theorem mem_of_get? {s : Index key} {k : κ} {a : α} (h : s.get? k = some a) : a ∈ s :=
  List.mem_of_find?_eq_some h

/-- Entries with one key are equal. -/
theorem eq_of_key_eq {s : Index key} {a b : α} (ha : a ∈ s) (hb : b ∈ s)
    (h : key a = key b) : a = b := by
  obtain ⟨l, hl⟩ := s
  simp only [mem_def] at ha hb
  induction l with
  | nil => cases ha
  | cons c r ih =>
    have hc := List.pairwise_cons.1 hl
    rcases List.mem_cons.1 ha with ea | ha' <;> rcases List.mem_cons.1 hb with eb | hb'
    · rw [ea, eb]
    · exact absurd (h ▸ ea ▸ hc.1 b hb') (KeyOrder.irrefl _)
    · exact absurd (h ▸ eb ▸ hc.1 a ha') (KeyOrder.irrefl _)
    · exact ih hc.2 ha' hb'

theorem get?_eq_some_iff {s : Index key} {k : κ} {a : α} :
    s.get? k = some a ↔ a ∈ s ∧ key a = k := by
  refine ⟨fun h => ⟨mem_of_get? h, key_of_get? h⟩, fun ⟨ha, hk⟩ => ?_⟩
  cases h : s.get? k with
  | none => exact absurd hk (by simpa using List.find?_eq_none.1 h a ha)
  | some b => rw [eq_of_key_eq (mem_of_get? h) ha ((key_of_get? h).trans hk.symm)]

theorem get?_eq_none_iff {s : Index key} {k : κ} : s.get? k = none ↔ ∀ a ∈ s, key a ≠ k := by
  simp [get?, List.find?_eq_none, mem_def]

/-- Strictly sorted lists with the same entries are equal. -/
theorem list_eq_of_mem_iff {l m : List α} (hl : l.Pairwise fun a b => key a < key b)
    (hm : m.Pairwise fun a b => key a < key b) (h : ∀ a, a ∈ l ↔ a ∈ m) : l = m := by
  induction l generalizing m with
  | nil =>
    cases m with
    | nil => rfl
    | cons b r => exact absurd ((h b).2 (List.mem_cons_self ..)) List.not_mem_nil
  | cons a l ih =>
    cases m with
    | nil => exact absurd ((h a).1 (List.mem_cons_self ..)) List.not_mem_nil
    | cons b m =>
      have hl' := List.pairwise_cons.1 hl
      have hm' := List.pairwise_cons.1 hm
      have e : a = b := by
        rcases List.mem_cons.1 ((h a).1 (List.mem_cons_self ..)) with e | ha
        · exact e
        · rcases List.mem_cons.1 ((h b).2 (List.mem_cons_self ..)) with e | hb
          · exact e.symm
          · exact absurd (KeyOrder.trans _ _ _ (hm'.1 a ha) (hl'.1 b hb)) (KeyOrder.irrefl _)
      subst e
      congr 1
      refine ih hl'.2 hm'.2 fun c => ⟨fun hc => ?_, fun hc => ?_⟩
      · rcases List.mem_cons.1 ((h c).1 (List.mem_cons_of_mem _ hc)) with rfl | hc'
        · exact absurd (hl'.1 c hc) (KeyOrder.irrefl _)
        · exact hc'
      · rcases List.mem_cons.1 ((h c).2 (List.mem_cons_of_mem _ hc)) with rfl | hc'
        · exact absurd (hm'.1 c hc) (KeyOrder.irrefl _)
        · exact hc'

theorem eq_of_mem_iff {s t : Index key} (h : ∀ a, a ∈ s ↔ a ∈ t) : s = t :=
  ext (list_eq_of_mem_iff s.sorted t.sorted h)

/-- A collection is determined by its look-ups. -/
theorem eq_of_get?_eq {s t : Index key} (h : ∀ k, s.get? k = t.get? k) : s = t :=
  eq_of_mem_iff fun a => by
    have hs := get?_eq_some_iff (s := s) (k := key a) (a := a)
    have ht := get?_eq_some_iff (s := t) (k := key a) (a := a)
    simp only [and_true] at hs ht
    rw [← hs, ← ht, h]

theorem mem_insertSorted {a b : α} {l : List α} (h : l.Pairwise fun a b => key a < key b) :
    b ∈ insertSorted key a l ↔ b = a ∨ (b ∈ l ∧ key b ≠ key a) := by
  induction l with
  | nil => simp [insertSorted]
  | cons c r ih =>
    have hc := List.pairwise_cons.1 h
    unfold insertSorted
    split
    next hac =>
      have hne : ∀ d ∈ c :: r, key d ≠ key a := by
        intro d hd e
        rcases List.mem_cons.1 hd with rfl | hd
        · exact KeyOrder.irrefl _ (e ▸ hac)
        · exact KeyOrder.irrefl _ (e ▸ KeyOrder.trans _ _ _ hac (hc.1 d hd))
      constructor
      · intro hb
        rcases List.mem_cons.1 hb with rfl | hb
        · exact .inl rfl
        · exact .inr ⟨hb, hne b hb⟩
      · rintro (rfl | ⟨hb, -⟩)
        · exact List.mem_cons_self ..
        · exact List.mem_cons_of_mem _ hb
    next hac =>
      split
      next hca =>
        rw [List.mem_cons, ih hc.2, List.mem_cons]
        constructor
        · rintro (rfl | rfl | ⟨hb, hn⟩)
          · exact .inr ⟨.inl rfl, fun e => KeyOrder.irrefl _ (e ▸ hca)⟩
          · exact .inl rfl
          · exact .inr ⟨.inr hb, hn⟩
        · rintro (rfl | ⟨rfl | hb, hn⟩)
          · exact .inr (.inl rfl)
          · exact .inl rfl
          · exact .inr (.inr ⟨hb, hn⟩)
      next hca =>
        have e := KeyOrder.connected _ _ hac hca
        rw [List.mem_cons, List.mem_cons]
        constructor
        · rintro (rfl | hb)
          · exact .inl rfl
          · exact .inr ⟨.inr hb, fun e' => KeyOrder.irrefl _ ((e'.trans e) ▸ hc.1 b hb)⟩
        · rintro (rfl | ⟨rfl | hb, hn⟩)
          · exact .inl rfl
          · exact absurd e.symm hn
          · exact .inr hb

@[simp] theorem mem_insert {s : Index key} {a b : α} :
    b ∈ s.insert a ↔ b = a ∨ (b ∈ s ∧ key b ≠ key a) := mem_insertSorted s.sorted

@[simp] theorem mem_filter {s : Index key} {p : α → Bool} {a : α} :
    a ∈ s.filter p ↔ a ∈ s ∧ p a = true := List.mem_filter

@[simp] theorem mem_erase {s : Index key} {k : κ} {a : α} :
    a ∈ s.erase k ↔ a ∈ s ∧ key a ≠ k := by
  simp [erase]

@[simp] theorem not_mem_empty {a : α} : ¬ a ∈ (∅ : Index key) := List.not_mem_nil

/-- A look-up after an insertion finds the new entry under its key and the old ones elsewhere. -/
theorem get?_insert (s : Index key) (a : α) (k : κ) :
    (s.insert a).get? k = if k = key a then some a else s.get? k := by
  split
  next h => exact get?_eq_some_iff.2 ⟨mem_insert.2 (.inl rfl), h.symm⟩
  next h =>
    cases hs : s.get? k with
    | none =>
      refine get?_eq_none_iff.2 fun b hb e => ?_
      rcases mem_insert.1 hb with rfl | ⟨hb, -⟩
      · exact h e.symm
      · exact get?_eq_none_iff.1 hs b hb e
    | some b =>
      obtain ⟨hb, rfl⟩ := get?_eq_some_iff.1 hs
      exact get?_eq_some_iff.2 ⟨mem_insert.2 (.inr ⟨hb, h⟩), rfl⟩

/-- A collection grows by a new entry. -/
theorem size_insert_of_fresh {s : Index key} {a : α} (h : s.get? (key a) = none) :
    (s.insert a).size = s.size + 1 := by
  have general : ∀ l : List α, (∀ b ∈ l, key b ≠ key a) →
      (insertSorted key a l).length = l.length + 1 := by
    intro l
    induction l with
    | nil => exact fun _ => rfl
    | cons b r ih =>
      intro hnew
      unfold insertSorted
      split
      next => rfl
      next hab =>
        split
        next =>
          have hrest := ih fun c hc => hnew c (List.mem_cons_of_mem _ hc)
          rw [List.length_cons, hrest, List.length_cons]
        next hba => exact absurd (KeyOrder.connected _ _ hba hab) (hnew b List.mem_cons_self)
  exact general s.toList (get?_eq_none_iff.1 h)

/-- A look-up after an erasure finds what it found before, under any other key. -/
theorem get?_erase (s : Index key) (k j : κ) :
    (s.erase k).get? j = if j = k then none else s.get? j := by
  split
  next h => exact get?_eq_none_iff.2 fun a ha e => (mem_erase.1 ha).2 (e.trans h)
  next h =>
    cases hs : s.get? j with
    | none => exact get?_eq_none_iff.2 fun a ha => get?_eq_none_iff.1 hs a (mem_erase.1 ha).1
    | some a =>
      obtain ⟨ha, rfl⟩ := get?_eq_some_iff.1 hs
      exact get?_eq_some_iff.2 ⟨mem_erase.2 ⟨ha, h⟩, rfl⟩

theorem contains_iff {s : Index key} {k : κ} : s.contains k = true ↔ ∃ a ∈ s, key a = k := by
  unfold contains
  cases h : s.get? k with
  | none => simpa using get?_eq_none_iff.1 h
  | some a => simpa using ⟨a, mem_of_get? h, key_of_get? h⟩

theorem contains_insert {s : Index key} {a : α} {k : κ} :
    (s.insert a).contains k = true ↔ k = key a ∨ s.contains k = true := by
  simp only [contains_iff, mem_insert]
  constructor
  · rintro ⟨b, rfl | ⟨hb, -⟩, rfl⟩
    · exact .inl rfl
    · exact .inr ⟨b, hb, rfl⟩
  · rintro (rfl | ⟨b, hb, rfl⟩)
    · exact ⟨a, .inl rfl, rfl⟩
    · by_cases h : key b = key a
      · exact ⟨a, .inl rfl, h.symm⟩
      · exact ⟨b, .inr ⟨hb, h⟩, rfl⟩

theorem contains_erase {s : Index key} {j k : κ} :
    (s.erase j).contains k = true ↔ k ≠ j ∧ s.contains k = true := by
  simp only [contains_iff, mem_erase]
  constructor
  · rintro ⟨b, ⟨hb, hne⟩, rfl⟩
    exact ⟨hne, b, hb, rfl⟩
  · rintro ⟨hne, b, hb, rfl⟩
    exact ⟨b, ⟨hb, hne⟩, rfl⟩

theorem mem_of_mem_insertAll {s : Index key} {a : α} {l : List α} (h : a ∈ s.insertAll l) :
    a ∈ s ∨ a ∈ l := by
  induction l generalizing s with
  | nil => exact .inl h
  | cons b r ih =>
    rcases ih (s := s.insert b) h with h | h
    · rcases mem_insert.1 h with rfl | ⟨h, -⟩
      · exact .inr (List.mem_cons_self ..)
      · exact .inl h
    · exact .inr (List.mem_cons_of_mem _ h)

/-- A look-up does not see entries that are put under other keys. -/
theorem get?_insertAll {s : Index key} {l : List α} {k : κ} (h : ∀ a ∈ l, key a ≠ k) :
    (s.insertAll l).get? k = s.get? k := by
  induction l generalizing s with
  | nil => rfl
  | cons a r ih =>
    have hne : k ≠ key a := (h a List.mem_cons_self).symm
    have hrest : ((s.insert a).insertAll r).get? k = (s.insert a).get? k :=
      ih fun b hb => h b (List.mem_cons_of_mem _ hb)
    rw [get?_insert, if_neg hne] at hrest
    exact hrest

theorem mem_of_mem_ofList {a : α} {l : List α} (h : a ∈ (ofList l : Index key)) : a ∈ l :=
  (mem_of_mem_insertAll h).resolve_left not_mem_empty

/-- An entry with a new key comes in beside the others. -/
theorem mem_insert_of_fresh {s : Index key} {a b : α} (ha : ¬ s.contains (key a) = true) :
    b ∈ s.insert a ↔ b ∈ s ∨ b = a := by
  have hne : ∀ b ∈ s, key b ≠ key a := fun b hb h => ha (contains_iff.2 ⟨b, hb, h⟩)
  rw [mem_insert]
  constructor
  · rintro (rfl | ⟨hb, -⟩)
    · exact .inr rfl
    · exact .inl hb
  · rintro (hb | rfl)
    · exact .inr ⟨hb, hne b hb⟩
    · exact .inl rfl

end Index

/-- A set of names, in order. -/
abbrev NameSet := Index (id : String → String)

namespace NameSet

@[simp] theorem contains_iff_mem {s : NameSet} {a : String} : s.contains a = true ↔ a ∈ s := by
  simp [Index.contains_iff]

theorem mem_insertAll {s : NameSet} {l : List String} {a : String} :
    a ∈ s.insertAll l ↔ a ∈ s ∨ a ∈ l := by
  induction l generalizing s with
  | nil => simp [Index.insertAll]
  | cons b r ih =>
    have step : s.insertAll (b :: r) = (s.insert b).insertAll r := rfl
    rw [step, ih, Index.mem_insert, List.mem_cons]
    by_cases h : a = b <;> simp [h]

theorem mem_ofList {l : List String} {a : String} : a ∈ (Index.ofList l : NameSet) ↔ a ∈ l := by
  have empty : ¬ a ∈ (Index.empty : NameSet) := Index.not_mem_empty
  simp [Index.ofList, mem_insertAll, empty]

end NameSet

end RecordFilters
