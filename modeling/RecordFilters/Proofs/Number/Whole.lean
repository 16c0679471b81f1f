import RecordFilters.Number.Decimal
import RecordFilters.Proofs.Text.Digits
import RecordFilters.Proofs.Value.Stored

/-! # Whole numbers

A number that is an integer is found again from the integer: rounding changes nothing in a magnitude
that some rank has already. So whole numbers are told apart by their integers, and the numeral of the
integer is read back as the number, but for the sign of zero.

* `Number.nearestRank_eq`: an exact magnitude is rounded to itself.
* `Number.same_iff_of_whole?`: whole numbers are the same just if they are the same integer.
* `Number.whole?_ofInt`, `Number.ofText?_ofInt`: back from the integer, back from its numeral. -/

namespace RecordFilters

namespace Number

variable {rank num den k : Nat} {n m : Number} {i j : Int}

/-! ### Exact magnitudes -/

theorem one_pos : 0 < one := by
  obtain ⟨k, -, hone⟩ := exists_one_eq
  rw [hone]
  exact Nat.pow_pos (by decide)

theorem octave_eq : octave = 2 ^ 52 := Nat.pow_eq

theorem divNearest_mul (k : Nat) (hden : 0 < den) : divNearest (k * den) den = k := by
  have hmod : k * den % den = 0 := Nat.mul_mod_left k den
  have hdiv : k * den / den = k := Nat.mul_div_cancel k hden
  unfold divNearest
  rw [hmod, hdiv, if_neg (by omega)]

/-- Past the first octave a magnitude has 53 bits in front of the zeros of its octave. -/
theorem log2_units (h : octave ≤ rank) :
    (units rank).log2 = 52 + (rank / octave - 1) := by
  have hpos : 0 < octave := Nat.pow_pos (by decide)
  have hmod : rank % octave < octave := Nat.mod_lt rank hpos
  have hlow : 2 ^ 52 ≤ octave + rank % octave := by
    rw [← octave_eq]
    omega
  have hhigh : octave + rank % octave < 2 ^ 53 := by
    have htwice : octave + octave = 2 ^ 53 := by
      rw [octave_eq]
      rfl
    omega
  have hunits : units rank = (octave + rank % octave) * 2 ^ (rank / octave - 1) :=
    if_neg (not_lt.2 h)
  rw [hunits, Nat.log2_eq_iff (by positivity)]
  constructor
  · rw [pow_add]
    exact Nat.mul_le_mul_right _ hlow
  · rw [show 52 + (rank / octave - 1) + 1 = 53 + (rank / octave - 1) by omega, pow_add]
    exact Nat.mul_lt_mul_of_pos_right hhigh (by positivity)

/-- A magnitude is a multiple of the step between the ranks around it, and its rank counts these steps
behind the octaves below. -/
theorem exists_steps (rank : Nat) : ∃ k, units rank = k * 2 ^ ((units rank).log2 - 52) ∧
    ((units rank).log2 - 52) * octave + k = rank := by
  by_cases hsmall : rank < octave
  · have hunits : units rank = rank := if_pos hsmall
    have hlog : rank.log2 - 52 = 0 := by
      by_cases hzero : rank = 0
      · rw [hzero]
        rfl
      · have hlt : rank.log2 < 52 := (Nat.log2_lt hzero).2 (octave_eq ▸ hsmall)
        omega
    refine ⟨rank, ?_, ?_⟩
    · rw [hunits, hlog, pow_zero, mul_one]
    · rw [hunits, hlog, zero_mul, zero_add]
  · have hpos : 0 < octave := Nat.pow_pos (by decide)
    obtain ⟨steps, hsteps⟩ : ∃ steps, rank / octave = 1 + steps :=
      Nat.exists_eq_add_of_le ((Nat.one_le_div_iff hpos).2 (not_lt.1 hsmall))
    have hlog : (units rank).log2 - 52 = steps := by
      rw [log2_units (not_lt.1 hsmall), hsteps]
      omega
    have hunits : units rank = (octave + rank % octave) * 2 ^ (rank / octave - 1) := if_neg hsmall
    have hsplit : octave * (1 + steps) + rank % octave = rank := by
      rw [← hsteps]
      exact Nat.div_add_mod rank octave
    refine ⟨octave + rank % octave, ?_, ?_⟩
    · rw [hlog, hunits, hsteps, Nat.add_sub_cancel_left]
    · rw [hlog]
      linarith

/-- **An exact magnitude is rounded to itself.** -/
theorem nearestRank_eq (hden : 0 < den) (h : num * one = units rank * den) :
    nearestRank num den = rank := by
  obtain ⟨k, hunits, hrank⟩ := exists_steps rank
  have hquotient : num * one / den = units rank := by
    rw [h, Nat.mul_div_cancel _ hden]
  have hmultiple : num * one = k * (den * Nat.pow 2 ((units rank).log2 - 52)) := by
    rw [h, Nat.pow_eq, mul_comm den, ← mul_assoc, ← hunits]
  have hstep : 0 < den * Nat.pow 2 ((units rank).log2 - 52) :=
    Nat.mul_pos hden (Nat.pow_pos (by decide))
  unfold nearestRank
  rw [hquotient, hmultiple]
  dsimp only
  rw [divNearest_mul k hstep, hrank]

theorem units_injective : Function.Injective units := by
  intro a b h
  calc a = nearestRank (units a) one := (nearestRank_eq one_pos rfl).symm
    _ = b := nearestRank_eq one_pos (by rw [h])

theorem units_eq_zero_iff : units rank = 0 ↔ rank = 0 := by
  have hzero : units 0 = 0 := rfl
  rw [← hzero]
  exact units_injective.eq_iff

/-! ### The integer of a number -/

theorem whole?_finite {negative : Bool} (hrank : rank < infinityRank) (h : units rank = k * one) :
    (finite negative rank hrank).whole? = some (if negative then -(k : Int) else k) := by
  have hmod : units rank % one = 0 := by rw [h, Nat.mul_mod_left]
  have hdiv : units rank / one = k := by rw [h, Nat.mul_div_cancel k one_pos]
  unfold whole?
  dsimp only
  rw [if_pos hmod, hdiv]

/-- A whole number has a sign and the magnitude of an integer. -/
theorem exists_of_whole? (h : n.whole? = some i) : ∃ negative rank hrank k,
    n = finite negative rank hrank ∧ units rank = k * one ∧
      i = if negative then -(k : Int) else k := by
  cases n with
  | nan => cases h
  | infinite negative => cases h
  | finite negative rank hrank =>
    by_cases hmod : units rank % one = 0
    · have hunits : units rank = units rank / one * one :=
        (Nat.div_mul_cancel (Nat.dvd_of_mod_eq_zero hmod)).symm
      rw [whole?_finite hrank hunits] at h
      exact ⟨negative, rank, hrank, units rank / one, rfl, hunits, (Option.some.inj h).symm⟩
    · unfold whole? at h
      dsimp only at h
      rw [if_neg hmod] at h
      cases h

/-- A whole number has its place on the side of its integer, as far off as the magnitude is. -/
theorem exists_level?_of_whole? (h : n.whole? = some i) :
    ∃ l, n.level? = some l ∧ units l.natAbs = i.natAbs * one ∧ l.sign = i.sign := by
  obtain ⟨negative, rank, hrank, k, rfl, hunits, rfl⟩ := exists_of_whole? h
  have hzero : rank = 0 ↔ k = 0 := by
    rw [← units_eq_zero_iff, hunits, Nat.mul_eq_zero, or_iff_left one_pos.ne']
  have hsign : (rank : Int).sign = (k : Int).sign := by
    rcases Nat.eq_zero_or_pos rank with hrank | hrank
    · rw [hrank, hzero.1 hrank]
    · have hk : 0 < k := Nat.pos_of_ne_zero fun hk => hrank.ne' (hzero.2 hk)
      rw [Int.sign_eq_one_of_pos (by omega), Int.sign_eq_one_of_pos (by omega)]
  refine ⟨_, rfl, ?_⟩
  cases negative with
  | false => exact ⟨hunits, hsign⟩
  | true =>
    simp only [if_true, Int.natAbs_neg, Int.sign_neg, Int.natAbs_natCast]
    exact ⟨hunits, by rw [hsign]⟩

/-- **Whole numbers are the same just if they are the same integer.** -/
theorem same_iff_of_whole? (hn : n.whole? = some i) (hm : m.whole? = some j) :
    n.same m = true ↔ i = j := by
  obtain ⟨l, hl, hunits, hsign⟩ := exists_level?_of_whole? hn
  obtain ⟨l', hl', hunits', hsign'⟩ := exists_level?_of_whole? hm
  have hsame : n.same m = true ↔ l = l' := by
    simp only [same, compare?, hl, hl', Option.some.injEq, decide_eq_true_eq, compare_eq_iff_eq]
  rw [hsame]
  constructor
  · rintro rfl
    have habs : i.natAbs = j.natAbs := by
      refine Nat.eq_of_mul_eq_mul_right one_pos ?_
      rw [← hunits, hunits']
    rw [← Int.sign_mul_natAbs i, ← Int.sign_mul_natAbs j, habs, ← hsign, hsign']
  · rintro rfl
    have habs : l.natAbs = l'.natAbs := units_injective (by rw [hunits, hunits'])
    rw [← Int.sign_mul_natAbs l, ← Int.sign_mul_natAbs l', habs, hsign, hsign']

/-- The integer that a number is has a number of its own. -/
theorem whole?_ofInt (h : n.whole? = some i) : (ofInt i).whole? = some i := by
  obtain ⟨negative, rank, hrank, k, rfl, hunits, hi⟩ := exists_of_whole? h
  have habs : i.natAbs = k := by
    rw [hi]
    cases negative <;> simp
  have hnearest : nearestRank i.natAbs 1 = rank :=
    nearestRank_eq Nat.one_pos (by rw [habs, hunits, mul_one])
  unfold ofInt ofRatio ofRank
  rw [hnearest, dif_pos hrank, whole?_finite hrank hunits]
  simp only [decide_eq_true_eq, Option.some.injEq]
  split <;> omega

/-! ### The bounds of 64 bits -/

theorem whole?_ofInt_leastWhole : (ofInt leastWhole).whole? = some leastWhole := by
  decide +kernel

/-- The greatest integer of 64 bits has 63 binary digits, none of them zero, and a number has 53. -/
theorem whole?_ofInt_greatestWhole : (ofInt greatestWhole).whole? = some (greatestWhole + 1) := by
  decide +kernel

theorem ne_greatestWhole (h : n.whole? = some i) : i ≠ greatestWhole := by
  rintro rfl
  have hsame : some (greatestWhole + 1) = some greatestWhole := by
    rw [← whole?_ofInt_greatestWhole, whole?_ofInt h]
  exact absurd (Option.some.inj hsame) (by decide)

end Number

/-! ### Back from the numeral -/

namespace Decimal

open Text

/-- Behind the sign of a numeral there are the digits of the magnitude. -/
theorem spanSign_numeral (i : Int) : spanSign (numeral i) = (decide (i < 0), digits i.natAbs) := by
  unfold numeral
  split
  next hneg => rw [decide_eq_true hneg, spanSign]
  next hneg =>
    have hdigits : ∀ c ∈ digits i.natAbs, c.isDigit = true := fun c hc => isDigit_of_mem_digits hc
    rw [decide_eq_false hneg]
    unfold spanSign
    split
    next heq => exact absurd (hdigits '-' (by rw [heq]; exact List.mem_cons_self)) (by decide)
    next heq => exact absurd (hdigits '+' (by rw [heq]; exact List.mem_cons_self)) (by decide)
    next => rfl

theorem toNumber_whole {negative : Bool} {k : Nat} (h : (digits k).length ≤ 400) :
    (Decimal.mk negative k 0).toNumber = .ofRatio negative k 1 := by
  unfold toNumber
  dsimp only
  split
  next hzero => rw [hzero]
  next =>
    rw [if_neg (by omega), if_neg (by omega), if_pos le_rfl]
    show Number.ofRatio negative (k * 1) 1 = _
    rw [mul_one]

end Decimal

namespace Number

open Text Decimal

/-- **The numeral of an integer of 64 bits is read as the number nearest to it.** -/
theorem ofText?_ofInt {i : Int} (hleast : leastWhole ≤ i) (hmost : i ≤ greatestWhole) :
    Number.ofText? (Text.ofInt i) = some (ofInt i) := by
  have hlength : (digits i.natAbs).length ≤ 400 := by
    have hdigits : (digits i.natAbs).length ≤ 19 := by
      refine (Nat.length_toDigits_le_iff (by decide) (by decide)).2 ?_
      unfold leastWhole at hleast
      unfold greatestWhole at hmost
      omega
    omega
  -- the words for other numbers have letters
  have hword : ∀ word : List Char, 'n' ∈ word → (digits i.natAbs).map Char.toLower ≠ word := by
    rintro word hword rfl
    obtain ⟨c, hc, hn⟩ := List.mem_map.1 hword
    have hc : c.isDigit = true := isDigit_of_mem_digits hc
    rw [toLower_eq_self (toNat_lt_of_isDigit hc)] at hn
    exact absurd (hn ▸ hc) (by decide)
  unfold Number.ofText? Text.ofInt
  simp only [String.toList_ofList, spanSign_numeral]
  rw [if_neg (not_or.2 ⟨hword _ (by decide), hword _ (by decide)⟩), if_neg (hword _ (by decide)),
    spanDigits_digits]
  simp only [List.isEmpty_eq_false_iff.2 (digits_ne_nil _), Bool.false_and, Bool.false_eq_true,
    if_false, readExponent]
  unfold ofParts
  rw [List.append_nil, digitsValue_digits]
  exact congrArg some (toNumber_whole hlength)

end Number

end RecordFilters
