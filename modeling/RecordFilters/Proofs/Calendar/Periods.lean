import RecordFilters.Proofs.Calendar.Months

/-! # Relative ranges tile the calendar

The ranges that name a month, a quarter or a year are all made of whole months, and a day lies in
such a range if its month is one of these. So what the ranges of a day are is a matter of counting
months: units of a length of three months, say, are the multiples of three.

* `DayRange.contains`: the days of a range.
* `DayRange.IsMonths`: a range of so many months from a given one on.
* `CalendarUnit.isMonths_of_range?`: the unit of a day, and those around it.
* `NamedRange.relative_tile`: the units before, around and after a day follow one another without a
  gap; and a day is past, present or future. -/

namespace RecordFilters

open Calendar

/-! ### The days of a range -/

namespace DayRange

/-- Whether a day lies in a range. -/
def contains : DayRange → Day → Bool
  | .between start stop, d => (start.all fun a => a ≤ d) && (stop.all fun b => d ≤ b)
  | .empty _, _ => false

variable {a b d : Day} {range : DayRange} {first length : Int}

theorem contains_between_iff :
    (between (some a) (some b)).contains d = true ↔ a ≤ d ∧ d ≤ b := by
  simp [contains]

theorem contains_upTo_iff : (between none (some b)).contains d = true ↔ d ≤ b := by
  simp [contains]

theorem contains_from_iff : (between (some a) none).contains d = true ↔ a ≤ d := by
  simp [contains]

theorem contains_day_iff : (day a).contains d = true ↔ d = a := by
  unfold day
  rw [contains_between_iff]
  constructor
  · rintro ⟨hle, hge⟩
    rw [Day.le_def] at hle hge
    exact Day.eq_of_place_eq (by omega)
  · rintro rfl
    exact ⟨Int.le_refl d.place, Int.le_refl d.place⟩

/-! ### Whole months -/

/-- From the first day of one month to the last of another: so many months, counted from January of
the year zero. -/
structure IsMonths (first length : Int) (start stop : Day) : Prop where
  start_day : start.day = 1
  start_month : start.monthCount = first
  stop_day : stop.IsLast
  stop_month : stop.monthCount + 1 = first + length

/-- **A day lies in whole months** if its month is one of them. -/
theorem IsMonths.contains_iff (h : IsMonths first length a b) :
    (between (some a) (some b)).contains d = true ↔
      first ≤ d.monthCount ∧ d.monthCount < first + length := by
  have hstart : a ≤ d ↔ first ≤ d.monthCount := by
    have hd := d.day_mem.1
    rw [Day.le_iff, h.start_month, h.start_day]
    omega
  have hstop : d ≤ b ↔ d.monthCount < first + length := by
    have hlast : d.monthCount = b.monthCount → d.day ≤ b.day := h.stop_day.day_le
    have hmonth := h.stop_month
    rw [Day.le_iff]
    omega
  rw [contains_between_iff, hstart, hstop]

theorem IsMonths.le (h : IsMonths first length a b) (hlength : 0 < length) : a ≤ b := by
  have hmonth := h.stop_month
  have hday := b.day_mem.1
  rw [Day.le_iff, h.start_month, h.start_day]
  omega

/-- The day after some months is the first of the months after them. -/
theorem IsMonths.next? {length' : Int} {c e : Day} (h : IsMonths first length a b)
    (h' : IsMonths (first + length) length' c e) : b.next? = some c :=
  Day.next?_eq_some_iff.2 (Or.inr ⟨h.stop_day, h'.start_month.trans h.stop_month.symm, h'.start_day⟩)

/-- The months of a range end with the day before another month. -/
theorem isMonths_of_months? (hlength : 0 < length) (h : months? first length = some range) :
    ∃ start stop, range = .between (some start) (some stop) ∧ IsMonths first length start stop := by
  obtain ⟨start, hstart, h⟩ := Option.bind_eq_some_iff.1 h
  obtain ⟨after, hafter, h⟩ := Option.bind_eq_some_iff.1 h
  obtain ⟨hmonth, hday⟩ := Day.firstOfMonth?_eq_some_iff.1 hstart
  obtain ⟨hmonth', hday'⟩ := Day.firstOfMonth?_eq_some_iff.1 hafter
  have hne : after ≠ Day.first := by
    rintro rfl
    have hbefore := start.monthCount_mem.1
    have hfirst : Day.first.monthCount = firstYear * 12 := rfl
    omega
  obtain ⟨stop, hstop⟩ := Day.exists_previous? hne
  have hend : stop.IsLast ∧ stop.monthCount + 1 = first + length := by
    rcases Day.next?_eq_some_iff.1 (Day.next?_of_previous? hstop) with ⟨-, hd⟩ | ⟨hlast, hm, -⟩
    · have hpos := stop.day_mem.1
      omega
    · exact ⟨hlast, by omega⟩
  refine ⟨start, stop, ?_, hday, hmonth, hend.1, hend.2⟩
  rw [← Option.some.inj h, hstop]

/-- There is such a range if the month after it is in the calendar too. -/
theorem exists_months? (hlength : 0 < length) (hfirst : firstYear * 12 ≤ first)
    (hlast : first + length ≤ lastYear * 12 + 11) : ∃ range, months? first length = some range := by
  obtain ⟨start, hstart⟩ := Day.exists_firstOfMonth? hfirst (by omega)
  obtain ⟨after, hafter⟩ : ∃ d, Day.firstOfMonth? (first + length) = some d :=
    Day.exists_firstOfMonth? (by omega) hlast
  unfold months?
  rw [hstart, hafter]
  exact ⟨_, rfl⟩

theorem isMonths_of_year? {year : Int} (h : year? year = some range) :
    ∃ start stop, range = .between (some start) (some stop) ∧
      IsMonths (year * 12) 12 start stop := by
  obtain ⟨start, hstart, h⟩ := Option.bind_eq_some_iff.1 h
  obtain ⟨stop, hstop, h⟩ := Option.bind_eq_some_iff.1 h
  obtain ⟨hyear, hmonth, hday⟩ := Day.of?_eq_some_iff.1 hstart
  obtain ⟨hyear', hmonth', hday'⟩ := Day.of?_eq_some_iff.1 hstop
  refine ⟨start, stop, (Option.some.inj h).symm, hday, ?_, ?_, ?_⟩
  · rw [Day.monthCount_eq]
    omega
  · unfold Day.IsLast
    rw [hday', hmonth']
    rfl
  · rw [Day.monthCount_eq]
    omega

theorem exists_year? {year : Int} (h : firstYear ≤ year ∧ year ≤ lastYear) :
    ∃ range, year? year = some range := by
  obtain ⟨start, hstart⟩ : ∃ d, Day.of? year 1 1 = some d :=
    Day.exists_of?_eq_some h (by decide) ⟨le_rfl, Nat.le_of_ble_eq_true rfl⟩
  obtain ⟨stop, hstop⟩ : ∃ d, Day.of? year 12 31 = some d :=
    Day.exists_of?_eq_some h (by decide) ⟨by decide, le_of_eq rfl⟩
  unfold year?
  rw [hstart, hstop]
  exact ⟨_, rfl⟩

end DayRange

/-! ### Units -/

/-- The units of the calendar to which a relative range may refer. -/
inductive CalendarUnit
  | month
  | quarter
  | year
  deriving DecidableEq

namespace CalendarUnit

variable {unit : CalendarUnit} {today d : Day} {offset : Int} {range : DayRange}

/-- The length of a unit in months. -/
def length : CalendarUnit → Int
  | month => 1
  | quarter => 3
  | year => 12

/-- The months with which a unit may begin. -/
def openings : CalendarUnit → List Nat
  | month => [1, 2, 3, 4, 5, 6, 7, 8, 9, 10, 11, 12]
  | quarter => [1, 4, 7, 10]
  | year => [1]

def previous : CalendarUnit → NamedRange
  | month => .previousMonth
  | quarter => .previousQuarter
  | year => .previousYear

def current : CalendarUnit → NamedRange
  | month => .currentMonth
  | quarter => .currentQuarter
  | year => .currentYear

def next : CalendarUnit → NamedRange
  | month => .nextMonth
  | quarter => .nextQuarter
  | year => .nextYear

/-- The unit that lies so many units from that of a day. -/
def range? : CalendarUnit → Day → Int → Option DayRange
  | month, today, offset => DayRange.month? today offset
  | quarter, today, offset => DayRange.quarter? today offset
  | year, today, offset => DayRange.year? (today.year + offset)

/-- The unit to which a relative range refers, and how far it lies from that of the day. -/
def named? : NamedRange → Option (CalendarUnit × Int)
  | .previousMonth => some (month, -1)
  | .currentMonth => some (month, 0)
  | .nextMonth => some (month, 1)
  | .previousQuarter => some (quarter, -1)
  | .currentQuarter => some (quarter, 0)
  | .nextQuarter => some (quarter, 1)
  | .previousYear => some (year, -1)
  | .currentYear => some (year, 0)
  | .nextYear => some (year, 1)
  | _ => none

theorem resolve?_of_named? {named : NamedRange} (h : named? named = some (unit, offset))
    (today : Day) : named.resolve? today = unit.range? today offset := by
  cases named <;> cases h <;> simp [NamedRange.resolve?, range?, Int.sub_eq_add_neg]

theorem resolve?_previous : unit.previous.resolve? today = unit.range? today (-1) := by
  cases unit <;> exact resolve?_of_named? rfl today

theorem resolve?_current : unit.current.resolve? today = unit.range? today 0 := by
  cases unit <;> exact resolve?_of_named? rfl today

theorem resolve?_next : unit.next.resolve? today = unit.range? today 1 := by
  cases unit <;> exact resolve?_of_named? rfl today

/-- The month with which the unit of a day begins. -/
def opening (unit : CalendarUnit) (today : Day) : Int :=
  today.monthCount / unit.length * unit.length

theorem length_pos (unit : CalendarUnit) : 0 < unit.length := by
  cases unit <;> decide

/-- **The unit of a day, and those around it**, are whole months. -/
theorem isMonths_of_range? (h : unit.range? today offset = some range) :
    ∃ start stop, range = .between (some start) (some stop) ∧
      DayRange.IsMonths (unit.opening today + offset * unit.length) unit.length start stop := by
  have hmonth := today.month_mem
  have hcount := today.monthCount_eq
  cases unit with
  | month =>
    have hfirst : opening month today + offset * length month = today.monthCount + offset := by
      simp [opening, length]
    rw [hfirst]
    exact DayRange.isMonths_of_months? (by decide) h
  | quarter =>
    have hfirst : opening quarter today + offset * length quarter =
        today.year * 12 + ((today.month - 1) / 3 * 3 : Nat) + offset * 3 := by
      simp only [opening, length]
      omega
    rw [hfirst]
    exact DayRange.isMonths_of_months? (by decide) h
  | year =>
    have hfirst : opening year today + offset * length year = (today.year + offset) * 12 := by
      simp only [opening, length]
      omega
    rw [hfirst]
    exact DayRange.isMonths_of_year? h

/-- Around a day that lies neither in the first nor in the last year, all units are there. -/
theorem exists_range? (unit : CalendarUnit) (hfirst : firstYear < today.year)
    (hlast : today.year < lastYear) (hoffset : -1 ≤ offset ∧ offset ≤ 1) :
    ∃ range, unit.range? today offset = some range := by
  have hmonth := today.month_mem
  have hcount := today.monthCount_eq
  cases unit with
  | month => exact DayRange.exists_months? (by decide) (by omega) (by omega)
  | quarter => exact DayRange.exists_months? (by decide) (by omega) (by omega)
  | year => exact DayRange.exists_year? (by omega)

/-- The days from `start` to `stop` are one unit: they begin with a month with which the unit may
begin, end with the last day of a month, and are all the days of as many months as the unit has. -/
structure IsPeriod (unit : CalendarUnit) (start stop : Day) : Prop where
  le : start ≤ stop
  start_day : start.day = 1
  start_month : start.month ∈ unit.openings
  stop_day : stop.IsLast
  months : stop.monthCount + 1 = start.monthCount + unit.length
  contains_iff : ∀ d, (DayRange.between (some start) (some stop)).contains d = true ↔
    start.monthCount ≤ d.monthCount ∧ d.monthCount < start.monthCount + unit.length

/-- A multiple of the length of a unit is a month with which it may begin. -/
theorem month_mem_openings {n : Int} (h : d.monthCount = n * unit.length) :
    d.month ∈ unit.openings := by
  have hmonth := d.month_mem
  rw [Day.monthCount_eq] at h
  cases unit <;> simp only [openings, length, List.mem_cons, List.not_mem_nil, or_false] at h ⊢ <;>
    omega

theorem isPeriod_of_isMonths {start stop : Day}
    (h : DayRange.IsMonths (unit.opening today + offset * unit.length) unit.length start stop) :
    unit.IsPeriod start stop := by
  have hmultiple : start.monthCount = (today.monthCount / unit.length + offset) * unit.length := by
    rw [h.start_month, Int.add_mul]
    rfl
  exact ⟨h.le unit.length_pos, h.start_day, month_mem_openings hmultiple, h.stop_day,
    by rw [h.stop_month, h.start_month], fun d => by rw [h.contains_iff, h.start_month]⟩

theorem opening_le (unit : CalendarUnit) (today : Day) :
    unit.opening today ≤ today.monthCount ∧
      today.monthCount < unit.opening today + unit.length := by
  unfold opening
  cases unit <;> simp only [length] <;> omega

/-- The days of the unit of a day. -/
theorem contains_current_iff (unit : CalendarUnit) (h : unit.current.resolve? today = some range) :
    range.contains d = true ↔
      unit.opening today ≤ d.monthCount ∧ d.monthCount < unit.opening today + unit.length := by
  rw [resolve?_current] at h
  obtain ⟨start, stop, rfl, hmonths⟩ := isMonths_of_range? h
  rw [Int.zero_mul, Int.add_zero] at hmonths
  exact hmonths.contains_iff

/-- **Units in a row**: each of the three is one unit, and each begins the day after the one before
it ends. -/
theorem isPeriod_row {before now after : DayRange}
    (hbefore : unit.previous.resolve? today = some before)
    (hnow : unit.current.resolve? today = some now) (hafter : unit.next.resolve? today = some after) :
    ∃ a a' b b' c c', before = .between (some a) (some a') ∧ now = .between (some b) (some b') ∧
      after = .between (some c) (some c') ∧ unit.IsPeriod a a' ∧ unit.IsPeriod b b' ∧
      unit.IsPeriod c c' ∧ a'.next? = some b ∧ b'.next? = some c := by
  rw [resolve?_previous] at hbefore
  rw [resolve?_current] at hnow
  rw [resolve?_next] at hafter
  obtain ⟨a, a', rfl, ha⟩ := isMonths_of_range? hbefore
  obtain ⟨b, b', rfl, hb⟩ := isMonths_of_range? hnow
  obtain ⟨c, c', rfl, hc⟩ := isMonths_of_range? hafter
  have hb' : DayRange.IsMonths (unit.opening today + -1 * unit.length + unit.length) unit.length
      b b' := by
    rwa [show unit.opening today + -1 * unit.length + unit.length =
      unit.opening today + 0 * unit.length by omega]
  have hc' : DayRange.IsMonths (unit.opening today + 0 * unit.length + unit.length) unit.length
      c c' := by
    rwa [show unit.opening today + 0 * unit.length + unit.length =
      unit.opening today + 1 * unit.length by omega]
  exact ⟨a, a', b, b', c, c', rfl, rfl, rfl, isPeriod_of_isMonths ha, isPeriod_of_isMonths hb,
    isPeriod_of_isMonths hc, ha.next? hb', hb.next? hc'⟩

end CalendarUnit

/-! ### Relative ranges -/

namespace NamedRange

variable {today d : Day}

/-- A month lies in its quarter, and the quarter in its year. -/
theorem contains_quarter_of_month {month quarter : DayRange}
    (hmonth : currentMonth.resolve? today = some month)
    (hquarter : currentQuarter.resolve? today = some quarter) (h : month.contains d = true) :
    quarter.contains d = true := by
  have hm := (CalendarUnit.contains_current_iff .month hmonth).1 h
  refine (CalendarUnit.contains_current_iff .quarter hquarter).2 ?_
  simp only [CalendarUnit.opening, CalendarUnit.length] at hm ⊢
  omega

theorem contains_year_of_quarter {quarter year : DayRange}
    (hquarter : currentQuarter.resolve? today = some quarter)
    (hyear : currentYear.resolve? today = some year) (h : quarter.contains d = true) :
    year.contains d = true := by
  have hq := (CalendarUnit.contains_current_iff .quarter hquarter).1 h
  refine (CalendarUnit.contains_current_iff .year hyear).2 ?_
  simp only [CalendarUnit.opening, CalendarUnit.length] at hq ⊢
  omega

/-- **Every day is either past, present or future**, seen from a day that has neighbours. -/
theorem countP_contains {before after : Day} (hbefore : today.previous? = some before)
    (hafter : today.next? = some after) (d : Day) :
    [inPast, .today, inFuture].countP
      (fun named => (named.resolve? today).any (·.contains d)) = 1 := by
  have hpast : (inPast.resolve? today).any (·.contains d) = decide (d < today) := by
    simp only [resolve?, hbefore, Option.any_some]
    rw [Bool.eq_iff_iff, DayRange.contains_upTo_iff,
      Day.le_iff_lt_of_next? (Day.next?_of_previous? hbefore), decide_eq_true_iff]
  have hnow : (NamedRange.today.resolve? today).any (·.contains d) = decide (d = today) := by
    simp only [resolve?, Option.any_some]
    rw [Bool.eq_iff_iff, DayRange.contains_day_iff, decide_eq_true_iff]
  have hfuture : (inFuture.resolve? today).any (·.contains d) = decide (today < d) := by
    simp only [resolve?, hafter, Option.any_some]
    rw [Bool.eq_iff_iff, DayRange.contains_from_iff, ← Day.lt_iff_le_of_next? hafter,
      decide_eq_true_iff]
  simp only [List.countP_cons, List.countP_nil, hpast, hnow, hfuture, decide_eq_true_iff]
  rcases Day.lt_or_eq_or_gt d today with h | rfl | h
  · have hne : d ≠ today := by rintro rfl; exact Day.lt_irrefl d h
    rw [if_pos h, if_neg hne, if_neg (Day.lt_asymm h)]
  · rw [if_pos rfl, if_neg (Day.lt_irrefl d)]
  · have hne : d ≠ today := by rintro rfl; exact Day.lt_irrefl d h
    rw [if_pos h, if_neg hne, if_neg (Day.lt_asymm h)]

/-- **Relative ranges tile the calendar.** The units before, around and after a day are whole units,
the day lies in the middle one, and each begins the day after the one before it ends; around a day
that lies neither in the first nor in the last year they are all there. The month of a day lies in
its quarter and the quarter in its year. On a day that has neighbours, every day lies either in the
past, which ends with yesterday, or in today, or in the future, which begins with tomorrow. -/
theorem relative_tile (today : Day) :
    (∀ (unit : CalendarUnit) (before now after : DayRange),
      unit.previous.resolve? today = some before → unit.current.resolve? today = some now →
      unit.next.resolve? today = some after → now.contains today = true ∧
        ∃ a a' b b' c c', before = .between (some a) (some a') ∧
          now = .between (some b) (some b') ∧ after = .between (some c) (some c') ∧
          unit.IsPeriod a a' ∧ unit.IsPeriod b b' ∧ unit.IsPeriod c c' ∧
          a'.next? = some b ∧ b'.next? = some c) ∧
    (firstYear < today.year → today.year < lastYear → ∀ unit : CalendarUnit,
      (∃ before, unit.previous.resolve? today = some before) ∧
      (∃ now, unit.current.resolve? today = some now) ∧
      ∃ after, unit.next.resolve? today = some after) ∧
    (∀ month quarter, currentMonth.resolve? today = some month →
      currentQuarter.resolve? today = some quarter →
      ∀ d, month.contains d = true → quarter.contains d = true) ∧
    (∀ quarter year, currentQuarter.resolve? today = some quarter →
      currentYear.resolve? today = some year →
      ∀ d, quarter.contains d = true → year.contains d = true) ∧
    (today ≠ .first → today ≠ .last → ∃ before after,
      before.next? = some today ∧ today.next? = some after ∧
      yesterday.resolve? today = some (.day before) ∧
      tomorrow.resolve? today = some (.day after) ∧
      inPast.resolve? today = some (.between none (some before)) ∧
      NamedRange.today.resolve? today = some (.day today) ∧
      inFuture.resolve? today = some (.between (some after) none) ∧
      ∀ d, [inPast, .today, inFuture].countP
        (fun named => (named.resolve? today).any (·.contains d)) = 1) := by
  refine ⟨fun unit before now after hbefore hnow hafter => ⟨?_, ?_⟩,
    fun hfirst hlast unit => ⟨?_, ?_, ?_⟩,
    fun month quarter hmonth hquarter d => contains_quarter_of_month hmonth hquarter,
    fun quarter year hquarter hyear d => contains_year_of_quarter hquarter hyear,
    fun hfirst hlast => ?_⟩
  · exact (CalendarUnit.contains_current_iff unit hnow).2 (unit.opening_le today)
  · exact CalendarUnit.isPeriod_row hbefore hnow hafter
  · rw [CalendarUnit.resolve?_previous]
    exact CalendarUnit.exists_range? unit hfirst hlast (by decide)
  · rw [CalendarUnit.resolve?_current]
    exact CalendarUnit.exists_range? unit hfirst hlast (by decide)
  · rw [CalendarUnit.resolve?_next]
    exact CalendarUnit.exists_range? unit hfirst hlast (by decide)
  · obtain ⟨before, hbefore⟩ := Day.exists_previous? hfirst
    obtain ⟨after, hafter⟩ := Day.exists_next? hlast
    refine ⟨before, after, Day.next?_of_previous? hbefore, hafter, ?_, ?_, ?_, rfl, ?_,
      countP_contains hbefore hafter⟩
    · simp only [resolve?, hbefore, Option.map_some]
    · simp only [resolve?, hafter, Option.map_some]
    · simp only [resolve?, hbefore]
    · simp only [resolve?, hafter]

/-- A day in the last quarter of the year before the year zero. -/
def lateInYear : Day := ⟨-1, 11, 15, by decide, by decide, by decide⟩

theorem relative_tile_lateInYear :
    previousQuarter.resolve? lateInYear = some (.between (Day.of? (-1) 7 1) (Day.of? (-1) 9 30)) ∧
    currentQuarter.resolve? lateInYear = some (.between (Day.of? (-1) 10 1) (Day.of? (-1) 12 31)) ∧
    nextQuarter.resolve? lateInYear = some (.between (Day.of? 0 1 1) (Day.of? 0 3 31)) ∧
    (∃ b b', DayRange.between (Day.of? (-1) 10 1) (Day.of? (-1) 12 31) =
      .between (some b) (some b') ∧ CalendarUnit.quarter.IsPeriod b b') ∧
    (∃ before, inPast.resolve? lateInYear = some (.between none (some before)) ∧
      before.next? = some lateInYear) ∧
    NamedRange.today.resolve? lateInYear = some (.day lateInYear) := by
  obtain ⟨htile, -, -, -, hneighbours⟩ := relative_tile lateInYear
  obtain ⟨-, a, a', b, b', c, c', -, hnow, -, -, hperiod, -, -, -⟩ :=
    htile .quarter _ _ _ rfl rfl rfl
  obtain ⟨before, -, hbefore, -, -, -, hpast, hpresent, -, -⟩ :=
    hneighbours (by decide) (by decide)
  exact ⟨rfl, rfl, rfl, ⟨b, b', hnow, hperiod⟩, ⟨before, hpast, hbefore⟩, hpresent⟩

end NamedRange

end RecordFilters
