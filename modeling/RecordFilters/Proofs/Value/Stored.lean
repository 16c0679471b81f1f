import RecordFilters.Proofs.Json.Canonical
import RecordFilters.Value

/-! # Stored values

A value is stored as a JSON document. JSON has no name for an infinite or undefined number, so these
are the values that are lost.

* `Value.IsStorable`: the values that a document can hold.
* `Value.ofJson_toJson`: a storable value is read back as it was.
* `Value.isStorable_ofJson`: what is read from a document is storable, however it was spelled. -/

namespace RecordFilters

/-! ### Integers -/

namespace Number

theorem divNearest_le (a b : Nat) : divNearest a b ≤ a / b + 1 := by
  unfold divNearest
  split <;> omega

/-- A magnitude is cut down to 53 bits. -/
theorem shifted_lt (n : Nat) : n / 2 ^ (n.log2 - 52) < 2 ^ 53 := by
  have hlt : n < 2 ^ (n.log2 + 1) := Nat.lt_log2_self
  rw [Nat.div_lt_iff_lt_mul (by positivity), ← pow_add]
  exact hlt.trans_le (Nat.pow_le_pow_right (by decide) (by omega))

theorem log2_mul_pow_le {n m bits k : Nat} (hn : n < 2 ^ bits) (hm : m = Nat.pow 2 k) :
    (n * m).log2 ≤ bits + k := by
  by_cases hzero : n * m = 0
  · rw [hzero, Nat.log2_zero]
    exact Nat.zero_le _
  · have hlt : n * m < 2 ^ (bits + k) := by
      rw [hm, Nat.pow_eq, pow_add]
      exact Nat.mul_lt_mul_of_pos_right hn (by positivity)
    exact ((Nat.log2_lt hzero).2 hlt).le

/-- The exponent stays a variable here: nobody has to compute the power. -/
theorem exists_one_eq : ∃ k, k ≤ 1074 ∧ one = Nat.pow 2 k := by
  delta one
  exact ⟨1074, le_rfl, Eq.refl _⟩

/-- The rank of an integer of at most 65 bits is far below the rank of the infinite magnitude. -/
theorem nearestRank_lt {n : Nat} (h : n < 2 ^ 65) : nearestRank n 1 < infinityRank := by
  obtain ⟨k, hk, hone⟩ := exists_one_eq
  have hlog : (n * one).log2 ≤ 65 + k := log2_mul_pow_le h hone
  have hoctave : octave = 2 ^ 52 := Nat.pow_eq
  have hshifted : n * one / (1 * Nat.pow 2 ((n * one).log2 - 52)) < 2 ^ 53 := by
    rw [one_mul]
    exact shifted_lt (n * one)
  have hrounded := divNearest_le (n * one) (1 * Nat.pow 2 ((n * one).log2 - 52))
  have hsteps : ((n * one).log2 - 52) * octave ≤ 1087 * octave :=
    Nat.mul_le_mul_right _ (by omega)
  unfold nearestRank infinityRank
  rw [Nat.div_one]
  show ((n * one).log2 - 52) * octave + _ < _
  omega

/-- An integer of 64 bits is no infinite number. -/
theorem isFinite_ofInt {n : Int} (hleast : leastWhole ≤ n) (hmost : n < UInt64.size) :
    (ofInt n).isFinite = true := by
  have hsize : (UInt64.size : Int) = 2 ^ 64 := rfl
  have hrank : nearestRank n.natAbs 1 < infinityRank := by
    refine nearestRank_lt ?_
    unfold leastWhole at hleast
    omega
  unfold ofInt ofRatio ofRank
  rw [dif_pos hrank]
  rfl

end Number

namespace Value

open Json

/-! ### What can be stored -/

/-- A value whose numbers are all finite and whose members stand in name order. -/
inductive IsStorable : Value → Prop
  | null : IsStorable .null
  | bool (b : Bool) : IsStorable (.bool b)
  | number {n : Number} (isFinite : n.isFinite = true) : IsStorable (.number n)
  | text (s : String) : IsStorable (.text s)
  | list {items : List Value} (items_isStorable : ∀ v ∈ items, IsStorable v) :
      IsStorable (.list items)
  | object {members : List (String × Value)} (sorted : Sorted members)
      (members_isStorable : ∀ m ∈ members, IsStorable m.2) : IsStorable (.object members)

theorem toJsonMembers_eq_map (l : List (String × Value)) :
    toJsonMembers l = l.map fun m => (m.1, m.2.toJson) := by
  induction l with
  | nil => rfl
  | cons m r ih => rw [toJsonMembers, ih, List.map_cons]

theorem ofJsonMembers_eq_map (l : List (String × Json)) :
    ofJsonMembers l = l.map fun m => (m.1, ofJson m.2) := by
  induction l with
  | nil => rfl
  | cons m r ih => rw [ofJsonMembers, ih, List.map_cons]

/-- A storable value is read back from its document. -/
theorem ofJson_toJson {v : Value} (h : v.IsStorable) : ofJson v.toJson = v := by
  induction h with
  | null | bool | text => rfl
  | number hfinite => rw [toJson, if_pos hfinite, ofJson]
  | @list items _ ih =>
    have hitems : ofJsonItems (toJsonItems items) = items := by
      rw [toJsonItems_eq_map, ofJsonItems_eq_map, List.map_map]
      exact (List.map_congr_left ih).trans (List.map_id' items)
    rw [toJson, ofJson, hitems]
  | @object members hsorted _ ih =>
    have hmembers : ofJsonMembers (toJsonMembers members) = members := by
      have hsame : ∀ m ∈ members, (m.1, ofJson m.2.toJson) = m := fun m hm => Prod.ext rfl (ih m hm)
      rw [toJsonMembers_eq_map, ofJsonMembers_eq_map, List.map_map]
      exact (List.map_congr_left hsame).trans (List.map_id' members)
    rw [toJson, ofJson, hmembers, hsorted.sortMembers_eq]

/-- The document of a storable value is in its canonical form. -/
theorem isCanonical_toJson {v : Value} (h : v.IsStorable) : v.toJson.IsCanonical := by
  induction h with
  | null | bool | text => rfl
  | number hfinite => simp [IsCanonical, toJson, canonical, hfinite]
  | list _ ih =>
    rw [toJson, toJsonItems_eq_map]
    exact isCanonical_array (List.forall_mem_map.2 ih)
  | object hsorted _ ih =>
    rw [toJson, toJsonMembers_eq_map]
    exact isCanonical_object (List.pairwise_map.2 hsorted) (List.forall_mem_map.2 ih)

/-- What is read from a document is storable. -/
theorem isStorable_ofJson {j : Json} (h : j.InBounds) : (ofJson j.canonical).IsStorable := by
  induction h with
  | null => exact .null
  | bool b => exact .bool b
  | string s => exact .text s
  | whole hleast hmost => exact .number (Number.isFinite_ofInt hleast hmost)
  | real n =>
    rw [canonical]
    split
    next hfinite => exact .number hfinite
    next => exact .null
  | array _ ih =>
    rw [canonical, ofJson, canonicalItems_eq_map, ofJsonItems_eq_map]
    refine .list (List.forall_mem_map.2 (List.forall_mem_map.2 ih))
  | object _ ih =>
    rw [canonical, ofJson, canonicalMembers_eq_map, ofJsonMembers_eq_map]
    refine .object (sorted_sortMembers _) fun m hm => ?_
    obtain ⟨m', hm', rfl⟩ := List.mem_map.1 (mem_of_mem_sortMembers hm)
    obtain ⟨m'', hm'', rfl⟩ := List.mem_map.1 (mem_of_mem_sortMembers hm')
    exact ih m'' hm''

theorem isStorable_of_isRegular {j : Json} (h : j.IsRegular) : (ofJson j).IsStorable := by
  have hstorable := isStorable_ofJson h.inBounds
  rwa [h.isCanonical] at hstorable

end Value

end RecordFilters
