import RecordFilters.Calendar.Grammar
import RecordFilters.Proofs.Text.Digits

/-! # Written days, read again

A day is stored as a text, and the text is read by a grammar that allows more than what is written:
blanks, fewer digits, signs. What is written is read back as the same day in spite of that, years
beyond four digits and before the year zero included.

* `Day.readNumber_append`: a number is read up to the first character that is no digit.
* `Day.ofDateText?_toText`, `Day.ofAnyText?_toText`: a day is read back from its text. -/

namespace RecordFilters

namespace Text

variable {c : Char}

/-! ### Blanks before digits -/

theorem isBlank_of_isDigit (h : c.isDigit = true) : isBlank c = false := by
  have hrange : 48 ≤ c.toNat ∧ c.toNat ≤ 57 := by
    simpa [Char.isDigit, UInt32.le_iff_toNat_le] using h
  simp [isBlank]
  omega

theorem mem_of_append_eq_cons {ds r r' : List Char} (hne : 0 < ds.length)
    (h : ds ++ r = c :: r') : c ∈ ds := by
  cases ds with
  | nil => cases hne
  | cons d ds => rw [(List.cons.inj h).1]; exact List.mem_cons_self

theorem dropBlanks_cons (h : isBlank c = false) (r : List Char) : dropBlanks (c :: r) = c :: r := by
  simp [dropBlanks, h]

theorem dropBlanks_eq_self {cs : List Char} (h : ∀ c ∈ cs, isBlank c = false) :
    dropBlanks cs = cs := by
  cases cs with
  | nil => rfl
  | cons c r => exact dropBlanks_cons (h c List.mem_cons_self) r

/-- Nothing is trimmed where there are no blanks. -/
theorem trimBlanks_eq_self {cs : List Char} (h : ∀ c ∈ cs, isBlank c = false) :
    trimBlanks cs = cs := by
  unfold trimBlanks
  rw [dropBlanks_eq_self h, dropBlanks_eq_self fun c hc => h c (List.mem_reverse.1 hc),
    List.reverse_reverse]

theorem trim_eq_self {s : String} (h : ∀ c ∈ s.toList, isBlank c = false) : trim s = s := by
  unfold trim
  rw [trimBlanks_eq_self h, String.ofList_toList]

/-- No blanks stand before digits. -/
theorem dropBlanks_append_of_isDigit {ds r : List Char} (hne : 0 < ds.length)
    (hds : ∀ c ∈ ds, c.isDigit = true) : dropBlanks (ds ++ r) = ds ++ r := by
  cases ds with
  | nil => cases hne
  | cons c ds => exact dropBlanks_cons (isBlank_of_isDigit (hds c List.mem_cons_self)) _

end Text

open Text

namespace Day

variable {least most : Nat} {ds r : List Char}

/-! ### Reading -/

/-- A number is read up to the first character that is no digit. -/
theorem readNumber_append (hds : ∀ c ∈ ds, c.isDigit = true) (hleast : least ≤ ds.length)
    (hmost : ds.length ≤ most) (hr : ∀ c ∈ r.head?, c.isDigit = false) :
    readNumber least most (ds ++ r) = some (digitsValue ds, r) := by
  have htaken : ((ds ++ r).take most).takeWhile Char.isDigit = ds := by
    rw [List.take_append, List.take_of_length_le hmost, List.takeWhile_append_of_pos hds]
    cases r with
    | nil => simp
    | cons c r =>
      have hc : c.isDigit = false := hr c rfl
      cases most - ds.length <;> simp [hc]
  unfold readNumber
  rw [htaken, if_neg (by omega), List.drop_left]

theorem readField_paddedDigits {n : Nat} (hn : least ≤ n ∧ n ≤ most) (h : n < 100)
    (hr : ∀ c ∈ r.head?, c.isDigit = false) :
    readField least most (paddedDigits 2 n ++ r) = some (n, r) := by
  have hlength : (paddedDigits 2 n).length = 2 := length_paddedDigits (by decide) h
  have hdigits : ∀ c ∈ paddedDigits 2 n, c.isDigit = true := fun _ => isDigit_of_mem_paddedDigits
  unfold readField
  rw [dropBlanks_append_of_isDigit length_paddedDigits_pos hdigits,
    readNumber_append hdigits (by omega) (by omega) hr, digitsValue_paddedDigits]
  simp [hn]

/-- The year of a day as it is written. -/
def yearText (year : Int) : List Char :=
  if 0 ≤ year ∧ year ≤ 9999 then paddedDigits 4 year.natAbs
  else (if year < 0 then '-' else '+') :: paddedDigits 4 year.natAbs

/-- A year without a sign has four digits at most. -/
theorem readYear_append (hne : 0 < ds.length) (hds : ∀ c ∈ ds, c.isDigit = true)
    (hmost : ds.length ≤ 4) (hr : ∀ c ∈ r.head?, c.isDigit = false) :
    readYear (ds ++ r) = some ((digitsValue ds : Int), r) := by
  unfold readYear
  rw [dropBlanks_append_of_isDigit hne hds]
  have hnumber := readNumber_append hds hne hmost hr
  split
  next r' heq =>
    have hc : '-' ∈ ds := mem_of_append_eq_cons hne heq
    exact absurd (hds _ hc) (by decide)
  next r' heq =>
    have hc : '+' ∈ ds := mem_of_append_eq_cons hne heq
    exact absurd (hds _ hc) (by decide)
  next => rw [hnumber, Option.map_some]

theorem readYear_yearText (year : Int) (r : List Char) :
    readYear (yearText year ++ '-' :: r) = some (year, '-' :: r) := by
  have hdigits : ∀ c ∈ paddedDigits 4 year.natAbs, c.isDigit = true :=
    fun _ => isDigit_of_mem_paddedDigits
  have hpos : 0 < (paddedDigits 4 year.natAbs).length := length_paddedDigits_pos
  have hdash : ∀ c ∈ ('-' :: r).head?, c.isDigit = false := by simp
  unfold yearText
  split
  next hyear =>
    have hlength : (paddedDigits 4 year.natAbs).length = 4 :=
      length_paddedDigits (by decide) (by omega)
    rw [readYear_append hpos hdigits (by omega) hdash, digitsValue_paddedDigits]
    simp
    omega
  next hyear =>
    have hnumber : readNumber 1 (paddedDigits 4 year.natAbs ++ '-' :: r).length
        (paddedDigits 4 year.natAbs ++ '-' :: r) = some (year.natAbs, '-' :: r) := by
      rw [readNumber_append hdigits hpos (by simp) hdash, digitsValue_paddedDigits]
    unfold readYear
    by_cases hneg : year < 0
    · rw [if_pos hneg, List.cons_append, dropBlanks_cons (by decide)]
      simp only [hnumber, Option.map_some, Option.some.injEq, Prod.mk.injEq, and_true]
      omega
    · rw [if_neg hneg, List.cons_append, dropBlanks_cons (by decide)]
      simp only [hnumber, Option.map_some, Option.some.injEq, Prod.mk.injEq, and_true]
      omega

theorem toText_eq (d : Day) : d.toText = String.ofList
    (yearText d.year ++ '-' :: (paddedDigits 2 d.month ++ '-' :: paddedDigits 2 d.day)) := by
  unfold toText yearText
  simp

/-- A day is read up to its end, whether or not blanks are allowed in front of the dashes. -/
theorem readDate_toText (d : Day) {gap : List Char → List Char}
    (hgap : ∀ r, gap ('-' :: r) = '-' :: r) : readDate gap d.toText.toList = some (d, []) := by
  have hlong := Calendar.daysInMonth_le d.year d.month
  have hmonth := d.month_mem
  have hday := d.day_mem
  have hread : of? d.year d.month d.day = some d := of?_eq_some_iff.2 ⟨rfl, rfl, rfl⟩
  have hdash : ∀ r, readChar '-' (gap ('-' :: r)) = some r := fun r => by rw [hgap]; rfl
  have hend : readField 1 31 (paddedDigits 2 d.day) = some (d.day, []) := by
    have hread : readField 1 31 (paddedDigits 2 d.day ++ []) = some (d.day, []) :=
      readField_paddedDigits (by omega) (by omega) (by simp)
    rwa [List.append_nil] at hread
  have hmiddle : readField 1 12 (paddedDigits 2 d.month ++ '-' :: paddedDigits 2 d.day) =
      some (d.month, '-' :: paddedDigits 2 d.day) :=
    readField_paddedDigits (by omega) (by omega) (by simp)
  rw [toText_eq, String.toList_ofList]
  unfold readDate
  rw [readYear_yearText]
  simp [hdash, hmiddle, hend, hread]

/-- **A day is read back from its text.** -/
theorem ofDateText?_toText (d : Day) : ofDateText? d.toText = some d := by
  unfold ofDateText?
  rw [readDate_toText d fun r => dropBlanks_cons (by decide) r]
  rfl

/-! ### Days among values -/

/-- The text of a day holds digits and signs. -/
theorem isDigit_or_sign_of_mem_toText {d : Day} {c : Char} (h : c ∈ d.toText.toList) :
    c.isDigit = true ∨ c = '-' ∨ c = '+' := by
  have hyear : c ∈ yearText d.year → c.isDigit = true ∨ c = '-' ∨ c = '+' := by
    intro hc
    unfold yearText at hc
    split at hc
    next => exact Or.inl (isDigit_of_mem_paddedDigits hc)
    next =>
      rcases List.mem_cons.1 hc with rfl | hc
      · split
        · exact Or.inr (Or.inl rfl)
        · exact Or.inr (Or.inr rfl)
      · exact Or.inl (isDigit_of_mem_paddedDigits hc)
  rw [toText_eq, String.toList_ofList] at h
  simp only [List.mem_append, List.mem_cons] at h
  rcases h with h | rfl | h | rfl | h
  · exact hyear h
  · exact Or.inr (Or.inl rfl)
  · exact Or.inl (isDigit_of_mem_paddedDigits h)
  · exact Or.inr (Or.inl rfl)
  · exact Or.inl (isDigit_of_mem_paddedDigits h)

/-- No blank stands anywhere in the text of a day. -/
theorem isBlank_of_mem_toText {d : Day} {c : Char} (h : c ∈ d.toText.toList) :
    isBlank c = false := by
  rcases isDigit_or_sign_of_mem_toText h with h | rfl | rfl
  · exact isBlank_of_isDigit h
  · decide
  · decide

theorem toText_ne_nil (d : Day) : d.toText.toList ≠ [] := by
  rw [toText_eq, String.toList_ofList]
  simp

theorem isBlankText_toText (d : Day) : isBlankText d.toText = false := by
  obtain ⟨c, r, hc⟩ := List.exists_cons_of_ne_nil d.toText_ne_nil
  have hblank : isBlank c = false := isBlank_of_mem_toText (by rw [hc]; exact List.mem_cons_self)
  unfold isBlankText
  rw [hc, List.all_cons, hblank, Bool.false_and]

/-- **A day among the values of a condition is read back**, though times may stand there too. -/
theorem ofAnyText?_toText (d : Day) : ofAnyText? d.toText = some d := by
  have htrim : trimBlanks d.toText.toList = d.toText.toList :=
    trimBlanks_eq_self fun _ hc => isBlank_of_mem_toText hc
  unfold ofAnyText?
  dsimp only
  rw [htrim, readDate_toText d fun _ => rfl]
  rfl

end Day

end RecordFilters
