import RecordFilters.Text.Digits

/-! # Days

The days of the proleptic Gregorian calendar from the first of January of the year `-262143` to the
last of December of `262142`; beyond them there is no day.

* `Day.place` numbers the days in their order, so that comparing days is comparing integers.
* `Day.next?` and `Day.previous?` step by one day and undo each other. -/

namespace RecordFilters

namespace Calendar

def isLeap (year : Int) : Bool := year % 4 = 0 && (year % 100 ≠ 0 || year % 400 = 0)

def daysInMonth (year : Int) (month : Nat) : Nat :=
  if month = 2 then if isLeap year then 29 else 28
  else if month = 4 ∨ month = 6 ∨ month = 9 ∨ month = 11 then 30
  else 31

def firstYear : Int := -262143

def lastYear : Int := 262142

theorem daysInMonth_pos (year : Int) (month : Nat) : 28 ≤ daysInMonth year month := by
  unfold daysInMonth; split <;> split <;> decide

theorem daysInMonth_le (year : Int) (month : Nat) : daysInMonth year month ≤ 31 := by
  unfold daysInMonth; split <;> split <;> decide

end Calendar

open Calendar

/-- A day of the calendar. -/
structure Day where
  year : Int
  month : Nat
  day : Nat
  year_mem : firstYear ≤ year ∧ year ≤ lastYear
  month_mem : 1 ≤ month ∧ month ≤ 12
  day_mem : 1 ≤ day ∧ day ≤ daysInMonth year month
  deriving DecidableEq

namespace Day

/-- The day with the given year, month and day of the month, if there is one. -/
def of? (year : Int) (month day : Nat) : Option Day :=
  if h : (firstYear ≤ year ∧ year ≤ lastYear) ∧ (1 ≤ month ∧ month ≤ 12) ∧
      1 ≤ day ∧ day ≤ daysInMonth year month then
    some ⟨year, month, day, h.1, h.2.1, h.2.2⟩
  else none

/-- The place of a day in the order of the calendar; not every place is a day. -/
def place (d : Day) : Int := (d.year * 12 + d.month) * 32 + d.day

theorem eq_of_place_eq {a b : Day} (h : a.place = b.place) : a = b := by
  obtain ⟨y, m, d, _, hm, hd⟩ := a
  obtain ⟨y', m', d', _, hm', hd'⟩ := b
  simp only [place] at h
  have := daysInMonth_le y m
  have := daysInMonth_le y' m'
  obtain rfl : y = y' := by omega
  obtain rfl : m = m' := by omega
  obtain rfl : d = d' := by omega
  rfl

instance : LE Day := ⟨fun a b => a.place ≤ b.place⟩

instance : LT Day := ⟨fun a b => a.place < b.place⟩

instance (a b : Day) : Decidable (a ≤ b) := inferInstanceAs (Decidable (a.place ≤ b.place))

instance (a b : Day) : Decidable (a < b) := inferInstanceAs (Decidable (a.place < b.place))

theorem le_def {a b : Day} : a ≤ b ↔ a.place ≤ b.place := Iff.rfl

theorem lt_def {a b : Day} : a < b ↔ a.place < b.place := Iff.rfl

/-- How two days stand to each other. -/
def compare (a b : Day) : Ordering := Ord.compare a.place b.place

/-- The day after. -/
def next? (d : Day) : Option Day :=
  if d.day < daysInMonth d.year d.month then of? d.year d.month (d.day + 1)
  else if d.month < 12 then of? d.year (d.month + 1) 1
  else of? (d.year + 1) 1 1

/-- The day before. -/
def previous? (d : Day) : Option Day :=
  if 1 < d.day then of? d.year d.month (d.day - 1)
  else if 1 < d.month then of? d.year (d.month - 1) (daysInMonth d.year (d.month - 1))
  else of? (d.year - 1) 12 31

/-- The first of a month, months counted from January of the year zero. -/
def firstOfMonth? (month : Int) : Option Day := of? (month / 12) (month % 12 + 1).toNat 1

/-- The month of a day, counted from January of the year zero. -/
def monthCount (d : Day) : Int := d.year * 12 + (d.month - 1 : Nat)

/-- A day as `YYYY-MM-DD`. A year outside `0` to `9999` shows its sign and at least four digits. -/
def toText (d : Day) : String :=
  let year :=
    if 0 ≤ d.year ∧ d.year ≤ 9999 then Text.paddedDigits 4 d.year.natAbs
    else (if d.year < 0 then '-' else '+') :: Text.paddedDigits 4 d.year.natAbs
  String.ofList (year ++ '-' :: Text.paddedDigits 2 d.month ++ '-' :: Text.paddedDigits 2 d.day)

/-! ### Steps -/

theorem of?_eq_some_iff {y : Int} {m d : Nat} {x : Day} :
    of? y m d = some x ↔ x.year = y ∧ x.month = m ∧ x.day = d := by
  unfold of?
  split
  · obtain ⟨y', m', d', hy, hm, hd⟩ := x
    simp only [Option.some.injEq, Day.mk.injEq]
    exact ⟨fun h => ⟨h.1.symm, h.2.1.symm, h.2.2.symm⟩, fun h => ⟨h.1.symm, h.2.1.symm, h.2.2.symm⟩⟩
  next h =>
    refine ⟨nofun, fun ⟨hy, hm, hd⟩ => absurd ?_ h⟩
    obtain ⟨y', m', d', hy', hm', hd'⟩ := x
    subst hy hm hd
    exact ⟨hy', hm', hd'⟩

end Day

end RecordFilters
