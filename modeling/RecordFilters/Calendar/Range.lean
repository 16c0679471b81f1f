import RecordFilters.Calendar.Day

/-! # Date ranges

A date condition names a range relative to the day of evaluation or gives fixed bounds. Only
`DateRange.resolve?` turns it into bounds. -/

namespace RecordFilters

/-- A range relative to the day of evaluation. -/
inductive NamedRange
  | yesterday
  | today
  | tomorrow
  | previousYear
  | currentYear
  | nextYear
  | previousMonth
  | currentMonth
  | nextMonth
  | previousQuarter
  | currentQuarter
  | nextQuarter
  | inPast
  | inFuture
  | empty
  | notEmpty
  deriving DecidableEq

/-- A date range as it is stored: relative, or with fixed inclusive bounds. -/
inductive DateRange
  | named (range : NamedRange)
  | custom (start stop : Option Day)
  deriving DecidableEq

/-- A date range on a known day: inclusive bounds, or whether the date must be empty. -/
inductive DayRange
  | between (start stop : Option Day)
  | empty (required : Bool)
  deriving DecidableEq

namespace NamedRange

def all : List NamedRange :=
  [yesterday, today, tomorrow, previousYear, currentYear, nextYear, previousMonth, currentMonth,
    nextMonth, previousQuarter, currentQuarter, nextQuarter, inPast, inFuture, empty, notEmpty]

def name : NamedRange → String
  | yesterday => "yesterday"
  | today => "today"
  | tomorrow => "tomorrow"
  | previousYear => "previous_year"
  | currentYear => "current_year"
  | nextYear => "next_year"
  | previousMonth => "previous_month"
  | currentMonth => "current_month"
  | nextMonth => "next_month"
  | previousQuarter => "previous_quarter"
  | currentQuarter => "current_quarter"
  | nextQuarter => "next_quarter"
  | inPast => "in_past"
  | inFuture => "in_future"
  | empty => "empty"
  | notEmpty => "not_empty"

/-- The range with a name. -/
def ofName? (s : String) : Option NamedRange := all.find? fun r => r.name = s

theorem ofName?_name (r : NamedRange) : ofName? r.name = some r := by
  cases r <;> decide

end NamedRange

namespace DayRange

/-- One day. -/
def day (d : Day) : DayRange := .between (some d) (some d)

/-- One calendar year. -/
def year? (year : Int) : Option DayRange := do
  some (.between (some (← Day.of? year 1 1)) (some (← Day.of? year 12 31)))

/-- So many months from a given one on, months counted from January of the year zero. The day after
the range must exist too. -/
def months? (first length : Int) : Option DayRange := do
  let start ← Day.firstOfMonth? first
  let after ← Day.firstOfMonth? (first + length)
  some (.between (some start) after.previous?)

/-- The month `offset` months from that of `today`. -/
def month? (today : Day) (offset : Int) : Option DayRange :=
  months? (today.monthCount + offset) 1

/-- The quarter `offset` quarters from that of `today`. -/
def quarter? (today : Day) (offset : Int) : Option DayRange :=
  months? (today.year * 12 + ((today.month - 1) / 3 * 3 : Nat) + offset * 3) 3

end DayRange

/-- The bounds of a relative range on a day; there are none where the range leaves the calendar. -/
def NamedRange.resolve? (today : Day) : NamedRange → Option DayRange
  | .yesterday => today.previous?.map .day
  | .today => some (.day today)
  | .tomorrow => today.next?.map .day
  | .previousYear => DayRange.year? (today.year - 1)
  | .currentYear => DayRange.year? today.year
  | .nextYear => DayRange.year? (today.year + 1)
  | .previousMonth => DayRange.month? today (-1)
  | .currentMonth => DayRange.month? today 0
  | .nextMonth => DayRange.month? today 1
  | .previousQuarter => DayRange.quarter? today (-1)
  | .currentQuarter => DayRange.quarter? today 0
  | .nextQuarter => DayRange.quarter? today 1
  | .inPast => some (.between none today.previous?)
  | .inFuture => some (.between today.next? none)
  | .empty => some (.empty true)
  | .notEmpty => some (.empty false)

def DateRange.resolve? (today : Day) : DateRange → Option DayRange
  | .named range => range.resolve? today
  | .custom start stop => some (.between start stop)

end RecordFilters
