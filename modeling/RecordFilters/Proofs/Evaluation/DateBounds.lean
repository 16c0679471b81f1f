import RecordFilters.Condition.Stored
import RecordFilters.Proofs.Calendar.Periods
import RecordFilters.Proofs.Record.DayQuestions

/-! # Bounds of date ranges

The bounds that a date range has on a day are to restrict the dates: one of them is there, and they
are in order. So they are for what a request may ask for. Two kinds of ranges come out otherwise: a
stored range of fixed bounds is not checked, and the past on the first day of the calendar and the
future on the last have no bound, where yesterday and tomorrow are ranges that leave the calendar.

* `DayRange.Restricts`: one bound at least, and the bounds in order.
* `DateRange.restricts_iff`: the ranges that restrict on a day.
* `Evaluator.exists_days_of_conditionPredicate`: the predicate of a date condition asks for the days
  of its range.
* `Evaluator.restricts_of_dates`: which bounds a storage is handed. -/

namespace RecordFilters

/-- A range that restricts the dates: it asks whether there is one, or it has a bound, and its bounds
are in order. -/
def DayRange.Restricts : DayRange → Prop
  | .between start stop => (start.isSome ∨ stop.isSome) ∧ ∀ a ∈ start, ∀ b ∈ stop, a ≤ b
  | .empty _ => True

namespace NamedRange

variable {named : NamedRange} {today d : Day} {unit : CalendarUnit} {offset : Int}
  {days : DayRange}

theorem restricts_day (d : Day) : (DayRange.day d).Restricts := by
  refine ⟨Or.inl rfl, fun a ha b hb => ?_⟩
  cases ha
  cases hb
  exact Int.le_refl d.place

/-- A unit of the calendar has a first and a last day. -/
theorem restricts_of_named? (hunit : CalendarUnit.named? named = some (unit, offset))
    (h : named.resolve? today = some days) : days.Restricts := by
  rw [CalendarUnit.resolve?_of_named? hunit] at h
  obtain ⟨start, stop, rfl, hmonths⟩ := CalendarUnit.isMonths_of_range? h
  refine ⟨Or.inl rfl, fun a ha b hb => ?_⟩
  cases ha
  cases hb
  exact hmonths.le unit.length_pos

/-- The past has its last day unless today is the first. -/
theorem restricts_past_iff : (DayRange.between none today.previous?).Restricts ↔ today ≠ .first := by
  have hbound : today.previous?.isSome ↔ today ≠ .first := by
    rw [ne_eq, ← Day.previous?_eq_none_iff, Option.isSome_iff_ne_none]
  simp [DayRange.Restricts, hbound]

/-- The future has its first day unless today is the last. -/
theorem restricts_future_iff : (DayRange.between today.next? none).Restricts ↔ today ≠ .last := by
  have hbound : today.next?.isSome ↔ today ≠ .last := by
    rw [ne_eq, ← Day.next?_eq_none_iff, Option.isSome_iff_ne_none]
  simp [DayRange.Restricts, hbound]

/-- **Relative ranges restrict**, where they are in the calendar, except for the past and the future
at the ends of it. -/
theorem restricts_iff : (∀ days, named.resolve? today = some days → days.Restricts) ↔
    (named = .inPast → today ≠ .first) ∧ (named = .inFuture → today ≠ .last) := by
  cases named with
  | inPast => simp [resolve?, restricts_past_iff]
  | inFuture => simp [resolve?, restricts_future_iff]
  | yesterday | tomorrow =>
    refine iff_of_true (fun days h => ?_) (by simp)
    obtain ⟨d, -, rfl⟩ := Option.map_eq_some_iff.1 h
    exact restricts_day d
  | today =>
    refine iff_of_true (fun days h => ?_) (by simp)
    cases h
    exact restricts_day today
  | previousMonth | currentMonth | nextMonth | previousQuarter | currentQuarter | nextQuarter
  | previousYear | currentYear | nextYear =>
    exact iff_of_true (fun days h => restricts_of_named? rfl h) (by simp)
  | empty | notEmpty =>
    refine iff_of_true (fun days h => ?_) (by simp)
    cases h
    trivial

end NamedRange

namespace DateRange

variable {range : DateRange} {today : Day}

/-- **The ranges that restrict on a day**: fixed bounds, of which one is there, in their order; and
all relative ranges but the past on the first day of the calendar and the future on the last. -/
theorem restricts_iff : (∀ days, range.resolve? today = some days → days.Restricts) ↔
    range.IsProper ∧ (range = .named .inPast → today ≠ .first) ∧
      (range = .named .inFuture → today ≠ .last) := by
  cases range with
  | named named =>
    rw [show (∀ days, (DateRange.named named).resolve? today = some days → days.Restricts) ↔ _ from
      NamedRange.restricts_iff]
    simp [IsProper]
  | custom start stop =>
    have hfixed : (∀ days, (custom start stop).resolve? today = some days → days.Restricts) ↔
        (DayRange.between start stop).Restricts :=
      ⟨fun h => h _ rfl, fun h days hdays => Option.some.inj hdays ▸ h⟩
    rw [hfixed]
    rcases start with _ | a <;> rcases stop with _ | b <;>
      simp [DayRange.Restricts, IsProper, Day.not_lt_iff_le]

end DateRange

/-! ### What a storage is handed -/

/-- What is asked of a date that is to lie in a range. -/
def DayRange.predicate (target : Target) : DayRange → Predicate
  | .between start stop => .dateRange target start stop
  | .empty required => (Predicate.compare target .isEmpty []).when required

theorem Condition.kind_of_payload_dates {c : Condition} {range : DateRange}
    (h : c.payload = .dates range) : c.kind = .dateField ∨ c.kind = .dateCustomField := by
  obtain ⟨kind, reference, payload, fits⟩ := c
  cases h
  cases kind <;> cases fits <;> simp

namespace Handler

open Evaluation

variable {c : Condition} {scope : PredicateScope} {range : DateRange} {target : Target}
  {ctx ctx' : Context} {p : Predicate}

theorem exists_days_of_rangePredicate
    (h : (rangePredicate c target range).runIn ctx = (.ok p, ctx')) :
    ∃ days, range.resolve? ctx.today = some days ∧ p = days.predicate target := by
  rw [runIn_rangePredicate] at h
  cases hdays : range.resolve? ctx.today with
  | none =>
    rw [hdays] at h
    cases h
  | some days =>
    rw [hdays] at h
    cases days <;> cases h <;> exact ⟨_, rfl, rfl⟩

/-- The field is looked up first. -/
theorem exists_days_of_field {α : Type} {field : Except FilterError α} {targetOf : α → Target}
    (h : (Evaluation.ofExcept field >>= fun a => rangePredicate c (targetOf a) range).runIn ctx =
      (.ok p, ctx')) :
    ∃ target days, range.resolve? ctx.today = some days ∧ p = DayRange.predicate target days := by
  cases field with
  | error e => cases h
  | ok a =>
    rw [ofExcept_ok_bind] at h
    exact ⟨targetOf a, exists_days_of_rangePredicate h⟩

theorem exists_days_of_dateFieldPredicate (hpayload : c.payload = .dates range)
    (h : (dateFieldPredicate scope c).runIn ctx = (.ok p, ctx')) :
    ∃ target days, range.resolve? ctx.today = some days ∧ p = DayRange.predicate target days := by
  unfold dateFieldPredicate at h
  simp only [hpayload] at h
  exact exists_days_of_field h

theorem exists_days_of_dateCustomFieldPredicate (hpayload : c.payload = .dates range)
    (h : (dateCustomFieldPredicate scope c).runIn ctx = (.ok p, ctx')) :
    ∃ target days, range.resolve? ctx.today = some days ∧ p = DayRange.predicate target days := by
  unfold dateCustomFieldPredicate at h
  simp only [hpayload] at h
  exact exists_days_of_field h

end Handler

namespace Evaluator

open Handler

variable {ev : Evaluator} {f : Filter} {c : Condition} {nested : Filter → Evaluation Predicate}
  {range : DateRange} {ctx ctx' : Context} {p : Predicate}

/-- **The predicate of a date condition** asks for the days of its range. -/
theorem exists_days_of_conditionPredicate
    (hev : ev.catalogs.handlers = Catalogs.standard.handlers) (hpayload : c.payload = .dates range)
    (h : (ev.conditionPredicate f nested c).runIn ctx = (.ok p, ctx')) :
    ∃ target days, range.resolve? ctx.today = some days ∧ p = days.predicate target := by
  rcases Condition.kind_of_payload_dates hpayload with hkind | hkind
  · rw [conditionPredicate_of_mem hev ⟨.dateField, validateDateField, dateFieldPredicate⟩
      (by simp [Handler.builtin]) hkind] at h
    exact exists_days_of_dateFieldPredicate hpayload h
  · rw [conditionPredicate_of_mem hev ⟨.dateCustomField, validateDateCustomField, dateCustomFieldPredicate⟩
      (by simp [Handler.builtin]) hkind] at h
    exact exists_days_of_dateCustomFieldPredicate hpayload h

/-- **Bounds restrict**, as far as a request can ask for them. What a storage is handed for a date
condition asks for the days of its range. On a day these restrict the dates exactly if the range is
one that a request may ask for, and is neither the past on the first day of the calendar nor the
future on the last. -/
theorem restricts_of_dates (hev : ev.catalogs.handlers = Catalogs.standard.handlers)
    (range : DateRange) :
    (∀ today, (∀ days, range.resolve? today = some days → days.Restricts) ↔
      range.IsProper ∧ (range = .named .inPast → today ≠ .first) ∧
        (range = .named .inFuture → today ≠ .last)) ∧
    (∀ d, readRange d = .ok range → range.IsProper) ∧
    ∀ f nested c ctx p ctx', c.payload = .dates range →
      (ev.conditionPredicate f nested c).runIn ctx = (.ok p, ctx') →
        ∃ target days, range.resolve? ctx.today = some days ∧ p = days.predicate target :=
  ⟨fun _ => DateRange.restricts_iff, fun _ => isProper_of_readRange,
    fun _ _ _ _ _ _ hpayload h => exists_days_of_conditionPredicate hev hpayload h⟩

/-- Everything from the new year on, asked for and stored. -/
theorem restricts_of_dates_births :
    readRange ⟨.dateField, "born", none, [.text "2024-01-01", .null]⟩ =
      .ok (.custom (some newYear.today) none) ∧
    (DayRange.between (some newYear.today) none).Restricts ∧
    ∃ p, ((birthdays.conditionPredicate (asking datesOfNewYear) (fun _ => pure .always)
        ⟨.dateField, "born", .dates (.custom (some newYear.today) none), rfl⟩).runIn newYear) =
          (.ok p, newYear) ∧
      ∃ target, p = (DayRange.between (some newYear.today) none).predicate target := by
  have hhandlers : birthdays.catalogs.handlers = Catalogs.standard.handlers := rfl
  obtain ⟨hrestricts, hproper, hpredicate⟩ :=
    restricts_of_dates hhandlers (.custom (some newYear.today) none)
  have hread : readRange ⟨.dateField, "born", none, [.text "2024-01-01", .null]⟩ =
      .ok (.custom (some newYear.today) none) := rfl
  have hrun : (birthdays.conditionPredicate (asking datesOfNewYear) (fun _ => pure .always)
      ⟨.dateField, "born", .dates (.custom (some newYear.today) none), rfl⟩).runIn newYear =
        (.ok (.dateRange (.field "born") (some newYear.today) none), newYear) := rfl
  obtain ⟨target, days, hdays, hp⟩ := hpredicate _ _ _ _ _ _ rfl hrun
  cases hdays
  exact ⟨hread, (hrestricts newYear.today).2 ⟨hproper _ hread, nofun, nofun⟩ _ rfl,
    _, hrun, target, hp⟩

/-- On the first day of the calendar there is no yesterday, and yet a past without a bound; and a
stored range may have no bound, or bounds in the wrong order. Without a bound every date is found. -/
theorem exists_not_restricts :
    NamedRange.yesterday.resolve? .first = none ∧
    (∃ days, NamedRange.inPast.resolve? .first = some days ∧ ¬ days.Restricts) ∧
    (∃ range days, DateRange.ofJson? (.object [("custom", .object [])]) = some range ∧
      range.resolve? newYear.today = some days ∧ ¬ days.Restricts) ∧
    (∃ days, DateRange.resolve? newYear.today (.custom (some newYear.today) (some .first)) =
      some days ∧ ¬ days.Restricts) ∧
    (birthdays.apply (asking ⟨.dateField, "born", .dates (.custom none none), rfl⟩)
      newYear births).1 = .ok ["bob", "cat"] := by
  have hopen : ¬ (DayRange.between none none).Restricts := by simp [DayRange.Restricts]
  have hreversed : ¬ (DayRange.between (some newYear.today) (some .first)).Restricts :=
    fun h => absurd (h.2 _ rfl _ rfl) (by decide)
  exact ⟨rfl, ⟨_, rfl, hopen⟩, ⟨.custom none none, _, rfl, rfl, hopen⟩, ⟨_, rfl, hreversed⟩, rfl⟩

end Evaluator

end RecordFilters
