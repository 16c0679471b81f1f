import Mathlib
import RecordFilters.Calendar.Range

/-! # Days in their months

Days are numbered through their months: a day is told by the month that it lies in, counted from
January of the year zero, and its number there. The order of the days and the steps from one day to
the next are stated in these two numbers, so that nothing else has to know how long a month is.

* `Day.le_iff`, `Day.lt_iff`: the order of days.
* `Day.next?_eq_some_iff`: the day after, in the same month or the first of the next one.
* `Day.lt_iff_le_of_next?`: nothing lies between a day and the day after.
* `Day.next?_eq_none_iff`, `Day.previous?_eq_none_iff`: only the ends of the calendar have no
  neighbour. -/

namespace RecordFilters

open Calendar

namespace Day

variable {a b d : Day} {month : Int}

/-! ### Months -/

theorem monthCount_eq (d : Day) : d.monthCount = d.year * 12 + d.month - 1 := by
  have hmonth := d.month_mem
  unfold monthCount
  omega

/-- Days of one month have the year and the month in common. -/
theorem eq_of_monthCount_eq (h : a.monthCount = b.monthCount) :
    a.year = b.year ∧ a.month = b.month := by
  have ha := a.month_mem
  have hb := b.month_mem
  rw [monthCount_eq, monthCount_eq] at h
  omega

theorem monthCount_mem (d : Day) :
    firstYear * 12 ≤ d.monthCount ∧ d.monthCount ≤ lastYear * 12 + 11 := by
  have hyear := d.year_mem
  have hmonth := d.month_mem
  rw [monthCount_eq]
  omega

/-- The last day of its month. -/
def IsLast (d : Day) : Prop := d.day = daysInMonth d.year d.month

theorem IsLast.day_le (ha : a.IsLast) (h : d.monthCount = a.monthCount) : d.day ≤ a.day := by
  obtain ⟨hyear, hmonth⟩ := eq_of_monthCount_eq h
  have hd := d.day_mem.2
  rw [hyear, hmonth] at hd
  rw [ha]
  exact hd

theorem firstOfMonth?_eq_some_iff :
    firstOfMonth? month = some d ↔ d.monthCount = month ∧ d.day = 1 := by
  have hmonth := d.month_mem
  unfold firstOfMonth?
  rw [of?_eq_some_iff, monthCount_eq]
  omega

theorem exists_of?_eq_some {year : Int} {month day : Nat}
    (hyear : firstYear ≤ year ∧ year ≤ lastYear) (hmonth : 1 ≤ month ∧ month ≤ 12)
    (hday : 1 ≤ day ∧ day ≤ daysInMonth year month) : ∃ d, of? year month day = some d := by
  unfold of?
  exact ⟨_, dif_pos ⟨hyear, hmonth, hday⟩⟩

/-- A month of the calendar begins with a day. -/
theorem exists_firstOfMonth? (hfirst : firstYear * 12 ≤ month) (hlast : month ≤ lastYear * 12 + 11) :
    ∃ d, firstOfMonth? month = some d := by
  have hlength := daysInMonth_pos (month / 12) (month % 12 + 1).toNat
  exact exists_of?_eq_some (by omega) (by omega) ⟨le_rfl, by omega⟩

/-! ### The order of days -/

theorem place_eq (d : Day) : d.place = (d.monthCount + 1) * 32 + d.day := by
  rw [monthCount_eq]
  unfold place
  omega

theorem day_le (d : Day) : d.day ≤ 31 := d.day_mem.2.trans (daysInMonth_le _ _)

theorem le_iff : a ≤ b ↔
    a.monthCount < b.monthCount ∨ (a.monthCount = b.monthCount ∧ a.day ≤ b.day) := by
  have ha := a.day_le
  have hb := b.day_le
  have ha' := a.day_mem.1
  have hb' := b.day_mem.1
  rw [le_def, place_eq, place_eq]
  omega

theorem lt_iff : a < b ↔
    a.monthCount < b.monthCount ∨ (a.monthCount = b.monthCount ∧ a.day < b.day) := by
  have ha := a.day_le
  have hb := b.day_le
  have ha' := a.day_mem.1
  have hb' := b.day_mem.1
  rw [lt_def, place_eq, place_eq]
  omega

theorem lt_irrefl (d : Day) : ¬ d < d := Int.lt_irrefl d.place

theorem lt_asymm (h : a < b) : ¬ b < a := Int.lt_asymm h

theorem not_lt_iff_le : ¬ a < b ↔ b ≤ a := by
  rw [lt_def, le_def]
  omega

theorem lt_or_eq_or_gt (a b : Day) : a < b ∨ a = b ∨ b < a := by
  rcases lt_trichotomy a.place b.place with h | h | h
  · exact Or.inl h
  · exact Or.inr (Or.inl (eq_of_place_eq h))
  · exact Or.inr (Or.inr h)

/-! ### The day after and the day before -/

/-- **The day after** a day: the next in its month, or after the last one the first of the next
month. -/
theorem next?_eq_some_iff : a.next? = some b ↔
    (b.monthCount = a.monthCount ∧ b.day = a.day + 1) ∨
      (a.IsLast ∧ b.monthCount = a.monthCount + 1 ∧ b.day = 1) := by
  have ha := a.day_mem
  have hmonth := a.month_mem
  have hmonth' := b.month_mem
  unfold next?
  by_cases hlast : a.day < daysInMonth a.year a.month
  · have hnot : ¬ a.IsLast := fun h => absurd h (Nat.ne_of_lt hlast)
    rw [if_pos hlast, of?_eq_some_iff]
    constructor
    · rintro ⟨hy, hm, hd⟩
      exact Or.inl ⟨by rw [monthCount_eq, monthCount_eq, hy, hm], hd⟩
    · rintro (⟨hcount, hd⟩ | ⟨h, -⟩)
      · obtain ⟨hy, hm⟩ := eq_of_monthCount_eq hcount
        exact ⟨hy, hm, hd⟩
      · exact absurd h hnot
  · have hisLast : a.IsLast := by unfold IsLast; omega
    -- no day of the month comes after its last one
    have hnot : ¬ (b.monthCount = a.monthCount ∧ b.day = a.day + 1) := by
      rintro ⟨hcount, hd⟩
      have := hisLast.day_le hcount
      omega
    rw [if_neg hlast]
    simp only [hnot, hisLast, false_or, true_and]
    rw [monthCount_eq, monthCount_eq]
    split
    next => rw [of?_eq_some_iff]; omega
    next => rw [of?_eq_some_iff]; omega

/-- Stepping back is undone by stepping forward. -/
theorem next?_of_previous? (h : a.previous? = some b) : b.next? = some a := by
  have ha := a.day_mem
  have hmonth := a.month_mem
  unfold previous? at h
  rw [next?_eq_some_iff]
  split at h
  next hday =>
    obtain ⟨hy, hm, hd⟩ := of?_eq_some_iff.1 h
    exact Or.inl ⟨by rw [monthCount_eq, monthCount_eq, hy, hm], by omega⟩
  next hday =>
    right
    split at h
    next =>
      obtain ⟨hy, hm, hd⟩ := of?_eq_some_iff.1 h
      refine ⟨?_, ?_, by omega⟩
      · unfold IsLast
        rw [hy, hm, hd]
      · rw [monthCount_eq, monthCount_eq]
        omega
    next =>
      obtain ⟨hy, hm, hd⟩ := of?_eq_some_iff.1 h
      refine ⟨?_, ?_, by omega⟩
      · unfold IsLast
        rw [hm, hd]
        rfl
      · rw [monthCount_eq, monthCount_eq]
        omega

/-- **Nothing lies between a day and the day after.** -/
theorem lt_iff_le_of_next? (h : a.next? = some b) : a < d ↔ b ≤ d := by
  have hd := d.day_mem.1
  rw [lt_iff, le_iff]
  rcases next?_eq_some_iff.1 h with ⟨hcount, hday⟩ | ⟨hlast, hcount, hday⟩
  · omega
  · have hle : d.monthCount = a.monthCount → d.day ≤ a.day := hlast.day_le
    omega

theorem le_iff_lt_of_next? (h : a.next? = some b) : d ≤ a ↔ d < b := by
  rw [← not_lt_iff_le, lt_iff_le_of_next? h, ← not_lt_iff_le, not_not]

/-! ### The ends of the calendar -/

theorem january_mem : 1 ≤ 1 ∧ 1 ≤ 12 := by decide

theorem december_mem : 1 ≤ 12 ∧ 12 ≤ 12 := by decide

/-- The first day of the calendar. -/
def first : Day := ⟨firstYear, 1, 1, by decide, january_mem, by decide⟩

/-- The last day of the calendar. -/
def last : Day := ⟨lastYear, 12, 31, by decide, december_mem, by decide⟩

theorem exists_next? (hne : d ≠ last) : ∃ b, d.next? = some b := by
  have hday := d.day_mem
  have hmonth := d.month_mem
  have hyear := d.year_mem
  unfold next?
  split
  next => exact exists_of?_eq_some hyear hmonth (by omega)
  next hlast =>
    split
    next =>
      have hlength := daysInMonth_pos d.year (d.month + 1)
      exact exists_of?_eq_some hyear (by omega) (by omega)
    next hdecember =>
      have hm : d.month = 12 := by omega
      have hd : d.day = 31 := by
        have hlength : daysInMonth d.year d.month = 31 := by rw [hm]; rfl
        omega
      have hbefore : d.year ≠ lastYear := by
        intro hy
        exact hne (eq_of_place_eq (by simp only [place, hy, hm, hd, last]))
      have hlength := daysInMonth_pos (d.year + 1) 1
      exact exists_of?_eq_some (by omega) (by omega) (by omega)

theorem exists_previous? (hne : d ≠ first) : ∃ b, d.previous? = some b := by
  have hday := d.day_mem
  have hmonth := d.month_mem
  have hyear := d.year_mem
  unfold previous?
  split
  next => exact exists_of?_eq_some hyear hmonth (by omega)
  next hfirst =>
    split
    next =>
      have hlength := daysInMonth_pos d.year (d.month - 1)
      exact exists_of?_eq_some hyear (by omega) (by omega)
    next hjanuary =>
      have hafter : d.year ≠ firstYear := by
        intro hy
        have hm : d.month = 1 := by omega
        have hd : d.day = 1 := by omega
        exact hne (eq_of_place_eq (by simp only [place, hy, hm, hd, first]))
      exact exists_of?_eq_some (by omega) (by omega) ⟨by omega, le_of_eq rfl⟩

/-- Only the last day has no day after. -/
theorem next?_eq_none_iff : d.next? = none ↔ d = last := by
  constructor
  · intro h
    by_contra hne
    obtain ⟨b, hb⟩ := exists_next? hne
    rw [h] at hb
    cases hb
  · rintro rfl
    rfl

/-- Only the first day has no day before. -/
theorem previous?_eq_none_iff : d.previous? = none ↔ d = first := by
  constructor
  · intro h
    by_contra hne
    obtain ⟨b, hb⟩ := exists_previous? hne
    rw [h] at hb
    cases hb
  · rintro rfl
    rfl

end Day

end RecordFilters
