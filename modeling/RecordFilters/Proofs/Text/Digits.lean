import Mathlib
import RecordFilters.Text.Digits

/-! # Digits and numerals

* `Text.digitsValue_digits`, `Text.digitsValue_paddedDigits`: a number is what its digits spell.
* `Text.digits_inj`, `Text.ofInt_inj`: a number is told by its digits and an integer by its
  numeral. -/

namespace RecordFilters.Text

variable {c : Char} {width n m : Nat} {i j : Int}

/-! ### Digits -/

theorem digitsValue_digits (n : Nat) : digitsValue (digits n) = n :=
  Nat.ofDigitChars_toDigits (by decide) (by decide)

theorem digitsValue_paddedDigits (width n : Nat) : digitsValue (paddedDigits width n) = n := by
  show Nat.ofDigitChars 10 (List.replicate _ '0' ++ Nat.toDigits 10 n) 0 = n
  rw [Nat.ofDigitChars_append, Nat.ofDigitChars_replicate_zero]
  exact digitsValue_digits n

theorem digits_inj (h : digits n = digits m) : n = m := by
  rw [← digitsValue_digits n, h, digitsValue_digits]

theorem digits_ne_nil (n : Nat) : digits n ≠ [] := List.ne_nil_of_length_pos Nat.length_toDigits_pos

theorem isDigit_of_mem_digits (h : c ∈ digits n) : c.isDigit = true :=
  Nat.isDigit_of_mem_toDigits (by decide) (by decide) h

theorem dash_notMem_digits (n : Nat) : '-' ∉ digits n :=
  fun h => absurd (isDigit_of_mem_digits h) (by decide)

theorem isDigit_of_mem_paddedDigits (h : c ∈ paddedDigits width n) : c.isDigit = true := by
  rcases List.mem_append.1 h with h | h
  · rw [List.eq_of_mem_replicate h]
    rfl
  · exact isDigit_of_mem_digits h

theorem length_paddedDigits (hwidth : 0 < width) (h : n < 10 ^ width) :
    (paddedDigits width n).length = width := by
  have hle : (digits n).length ≤ width :=
    (Nat.length_toDigits_le_iff (by decide) hwidth).2 h
  unfold paddedDigits
  rw [List.length_append, List.length_replicate]
  omega

theorem length_paddedDigits_pos : 0 < (paddedDigits width n).length := by
  have hpos : 0 < (digits n).length := Nat.length_toDigits_pos
  unfold paddedDigits
  rw [List.length_append]
  omega

theorem spanDigits_digits (n : Nat) : spanDigits (digits n) = (digits n, []) := by
  have hdigits : ∀ c ∈ digits n, c.isDigit = true := fun c hc => isDigit_of_mem_digits hc
  unfold spanDigits
  rw [List.takeWhile_eq_self_iff.2 hdigits, List.dropWhile_eq_nil_iff.2 hdigits]

/-! ### Numerals -/

/-- The sign tells the two halves of the integers apart, the digits the integers of each half. -/
theorem numeral_inj (h : numeral i = numeral j) : i = j := by
  unfold numeral at h
  split at h
  next hi =>
    split at h
    next hj =>
      have habs := digits_inj (List.cons.inj h).2
      omega
    next => exact absurd (h ▸ List.mem_cons_self) (dash_notMem_digits j.natAbs)
  next hi =>
    split at h
    next => exact absurd (h ▸ List.mem_cons_self) (dash_notMem_digits i.natAbs)
    next hj =>
      have habs := digits_inj h
      omega

theorem ofInt_inj : ofInt i = ofInt j ↔ i = j :=
  ⟨fun h => numeral_inj (String.ofList_injective h), fun h => h ▸ rfl⟩

theorem isDigit_or_dash_of_mem_numeral (h : c ∈ numeral i) : c.isDigit = true ∨ c = '-' := by
  unfold numeral at h
  split at h
  next =>
    rcases List.mem_cons.1 h with rfl | h
    · exact Or.inr rfl
    · exact Or.inl (isDigit_of_mem_digits h)
  next => exact Or.inl (isDigit_of_mem_digits h)

/-! ### In front of the letters -/

theorem toNat_lt_of_isDigit (h : c.isDigit = true) : c.toNat < 65 := by
  have hrange : 48 ≤ c.toNat ∧ c.toNat ≤ 57 := by
    simpa [Char.isDigit, UInt32.le_iff_toNat_le] using h
  omega

theorem toNat_lt_of_mem_numeral (h : c ∈ numeral i) : c.toNat < 65 := by
  rcases isDigit_or_dash_of_mem_numeral h with h | rfl
  · exact toNat_lt_of_isDigit h
  · decide

/-- A character in front of the letters is its own small form. -/
theorem toLower_eq_self (h : c.toNat < 65) : c.toLower = c := by
  have hcapital : ¬ (c.val ≥ 'A'.val ∧ c.val ≤ 'Z'.val) := by
    rintro ⟨hlow, -⟩
    have hlow : 65 ≤ c.toNat := UInt32.le_iff_toNat_le.1 hlow
    omega
  unfold Char.toLower
  rw [dif_neg hcapital]

end RecordFilters.Text
