import RecordFilters.Proofs.Evaluation.Agreement
import RecordFilters.Proofs.Handler.Idempotence
import RecordFilters.Proofs.Record.Leaves

/-! # One question about days, asked in several ways

Whether the day in a field lies between two days can be asked by a date range or by an operator. The
operators look at each value of a field that holds several, and read a day from any spelling of it; a
date range looks at a field that holds one value only, and equality at the text that a day is written
as.

* `Day.ofText?_toText`, `Value.order?_ofDay`: a day is compared with days only.
* `Value.SpellsDay`: one of the values of a field spells a day with a property.
* `Operator.selects_iff_spellsDay`, `Operator.selects_equals_iff`: what the operators say of days.
* `Evaluator.dates_iff_selects`: date ranges and operators. -/

namespace RecordFilters

open Text

/-! ### The text of a day is no number -/

namespace Day

variable (d : Day)

theorem yearText_ne_nil (year : Int) : yearText year ≠ [] := by
  have hpos : 0 < (paddedDigits 4 year.natAbs).length := length_paddedDigits_pos
  unfold yearText
  split
  next => exact List.ne_nil_of_length_pos hpos
  next => exact List.cons_ne_nil _ _

/-- A dash follows the year. -/
theorem dash_mem_tail_toText : '-' ∈ d.toText.toList.tail := by
  rw [toText_eq, String.toList_ofList]
  obtain ⟨c, r, hc⟩ := List.exists_cons_of_ne_nil (yearText_ne_nil d.year)
  rw [hc, List.cons_append, List.tail_cons]
  exact List.mem_append_right _ List.mem_cons_self

/-- Behind the sign of the year there are digits up to a dash. -/
theorem spanSign_toText : ∃ negative ds r,
    Decimal.spanSign d.toText.toList = (negative, ds ++ '-' :: r) ∧ ds ≠ [] ∧
      ∀ c ∈ ds, c.isDigit = true := by
  have hpos : paddedDigits 4 d.year.natAbs ≠ [] := List.ne_nil_of_length_pos length_paddedDigits_pos
  have hdigits : ∀ c ∈ paddedDigits 4 d.year.natAbs, c.isDigit = true :=
    fun c hc => isDigit_of_mem_paddedDigits hc
  rw [toText_eq, String.toList_ofList]
  unfold yearText
  split
  next =>
    refine ⟨false, paddedDigits 4 d.year.natAbs,
      paddedDigits 2 d.month ++ '-' :: paddedDigits 2 d.day, ?_, hpos, hdigits⟩
    obtain ⟨c, r, hc⟩ := List.exists_cons_of_ne_nil hpos
    rw [hc] at hdigits ⊢
    have hfirst : c.isDigit = true := hdigits c List.mem_cons_self
    unfold Decimal.spanSign
    split
    next heq =>
      rw [(List.cons.inj heq).1] at hfirst
      cases hfirst
    next heq =>
      rw [(List.cons.inj heq).1] at hfirst
      cases hfirst
    next => rfl
  next =>
    split
    next => exact ⟨true, paddedDigits 4 d.year.natAbs, _, rfl, hpos, hdigits⟩
    next => exact ⟨false, paddedDigits 4 d.year.natAbs, _, rfl, hpos, hdigits⟩

theorem ofText?_toText : Number.ofText? d.toText = none := by
  obtain ⟨negative, ds, r, hspan, hne, hdigits⟩ := d.spanSign_toText
  have hdash : '-' ∈ (ds ++ '-' :: r).map Char.toLower :=
    List.mem_map.2 ⟨'-', List.mem_append_right _ List.mem_cons_self, rfl⟩
  have hword : ∀ word : List Char, '-' ∉ word → (ds ++ '-' :: r).map Char.toLower ≠ word := by
    rintro word hword rfl
    exact hword hdash
  have hdigitsEnd : spanDigits (ds ++ '-' :: r) = (ds, '-' :: r) := by
    unfold spanDigits
    rw [List.takeWhile_append_of_pos hdigits, List.dropWhile_append_of_pos hdigits]
    simp
  have hexponent : Decimal.readExponent ('-' :: r) = some (0, '-' :: r) := rfl
  unfold Number.ofText?
  simp only [hspan]
  rw [if_neg (not_or.2 ⟨hword _ (by decide), hword _ (by decide)⟩),
    if_neg (hword _ (by decide)), hdigitsEnd]
  dsimp only
  rw [if_neg (by simp [hne])]
  -- no point follows the digits, and no exponent
  split
  next exponent hread =>
    have hread : Decimal.readExponent ('-' :: r) = some (exponent, []) := hread
    rw [hexponent] at hread
    cases hread
  next => rfl

theorem trim_toText : Text.trim d.toText = d.toText :=
  trim_eq_self fun _ hc => isBlank_of_mem_toText hc

end Day

/-! ### Comparing with a day -/

namespace Value

variable {v : Value} {d a b : Day} {values : List Value} {c : Comparison}

theorem number?_ofDay (d : Day) : (ofDay d).number? = none := by
  show Number.ofText? (Text.trim d.toText) = none
  rw [d.trim_toText, d.ofText?_toText]

/-- A field stands to a day as the day that it spells does. -/
theorem order?_ofDay (v : Value) (d : Day) :
    v.order? (ofDay d) = v.day?.map fun e => e.compare d := by
  unfold order?
  rw [number?_ofDay, Handler.day?_ofDay]
  cases v.day? <;> simp

theorem order?_ofDay_iff_le : (v.order? (ofDay d) = some .gt ∨ v.order? (ofDay d) = some .eq) ↔
    ∃ e, v.day? = some e ∧ d ≤ e := by
  rw [order?_ofDay]
  cases v.day? with
  | none => simp
  | some e =>
    simp only [Option.map_some, Option.some.injEq, exists_eq_left']
    unfold Day.compare
    rw [compare_gt_iff_gt, compare_eq_iff_eq, Day.le_def]
    omega

theorem order?_ofDay_iff_ge : (v.order? (ofDay d) = some .lt ∨ v.order? (ofDay d) = some .eq) ↔
    ∃ e, v.day? = some e ∧ e ≤ d := by
  rw [order?_ofDay]
  cases v.day? with
  | none => simp
  | some e =>
    simp only [Option.map_some, Option.some.injEq, exists_eq_left']
    unfold Day.compare
    rw [compare_lt_iff_lt, compare_eq_iff_eq, Day.le_def]
    omega

/-- Only a text has the text form of a day. -/
theorem text?_eq_toText_iff : v.text? = some d.toText ↔ v = ofDay d := by
  constructor
  · intro h
    cases v with
    | text s => rw [ofDay, Option.some.inj h]
    | number n =>
      have hdash : '-' ∈ n.toText.toList.tail := by
        rw [Option.some.inj h]
        exact d.dash_mem_tail_toText
      exact absurd hdash n.dash_notMem_tail_toText
    | bool b =>
      have hdash : '-' ∈ (if b then "true" else "false").toList.tail := by
        rw [Option.some.inj h]
        exact d.dash_mem_tail_toText
      cases b <;> exact absurd hdash (by decide)
    | _ => cases h
  · rintro rfl
    rfl

theorem equals_ofDay_iff : v.equals (ofDay d) = true ↔ v = ofDay d := by
  have htexts : v.equals (ofDay d) = textsRelate false (· == ·) v (ofDay d) := by
    unfold equals
    rw [number?_ofDay]
    cases v <;> rfl
  rw [htexts, ← text?_eq_toText_iff]
  unfold textsRelate
  cases v.text? with
  | none => simp
  | some s => simp [ofDay, text?, String.toList_inj]

/-- A field that is empty spells no day. -/
theorem isEmpty_of_day? (h : v.day? = some d) : v.isEmpty = false := by
  cases v with
  | text s =>
    by_contra hempty
    have hs : s = "" := by simpa [isEmpty] using hempty
    have hnone : (Value.text "").day? = none := by decide
    rw [hs, hnone] at h
    cases h
  | _ => cases h

/-! ### Days in a field -/

theorem isList_of_day? (h : v.day? = some d) : v.isList = false := by
  cases v with
  | list items => cases h
  | _ => rfl

/-- One of the values of a field spells a day with a property. -/
def SpellsDay (v : Value) (P : Day → Prop) : Prop := ∃ leaf ∈ v.leaves, ∃ d, leaf.day? = some d ∧ P d

/-- All days in a field are spelled as days are written. -/
def IsPlain (v : Value) : Prop := ∀ leaf ∈ v.leaves, ∀ d, leaf.day? = some d → leaf = ofDay d

/-- What spells a day is not empty. -/
theorem isEmpty_and_day?_iff {P : Day → Prop} :
    (v.isEmpty = false ∧ ∃ d, v.day? = some d ∧ P d) ↔ ∃ d, v.day? = some d ∧ P d :=
  ⟨And.right, fun ⟨d, hd, hP⟩ => ⟨isEmpty_of_day? hd, d, hd, hP⟩⟩

theorem singleCompares_gte_iff : v.singleCompares .gte [ofDay a] = true ↔
    ∃ d, v.day? = some d ∧ a ≤ d := by
  rw [singleCompares_iff (by decide), ← isEmpty_and_day?_iff, ← order?_ofDay_iff_le]
  simp [comparesWith]

theorem singleCompares_lte_iff : v.singleCompares .lte [ofDay b] = true ↔
    ∃ d, v.day? = some d ∧ d ≤ b := by
  rw [singleCompares_iff (by decide), ← isEmpty_and_day?_iff, ← order?_ofDay_iff_ge]
  simp [comparesWith]

theorem singleCompares_range_iff : v.singleCompares .range [ofDay a, ofDay b] = true ↔
    ∃ d, v.day? = some d ∧ a ≤ d ∧ d ≤ b := by
  have hboth : v.singleCompares .range [ofDay a, ofDay b] = true ↔ v.isEmpty = false ∧
      (∃ d, v.day? = some d ∧ a ≤ d) ∧ ∃ d, v.day? = some d ∧ d ≤ b := by
    rw [← order?_ofDay_iff_le, ← order?_ofDay_iff_ge]
    unfold singleCompares
    cases v.isEmpty <;> simp
  rw [hboth, ← @isEmpty_and_day?_iff v fun d => a ≤ d ∧ d ≤ b]
  -- both bounds are asked of one field, which spells one day
  refine and_congr_right fun _ => ⟨?_, ?_⟩
  · rintro ⟨⟨d, hd, had⟩, e, he, heb⟩
    obtain rfl : d = e := Option.some.inj (hd.symm.trans he)
    exact ⟨d, hd, had, heb⟩
  · rintro ⟨d, hd, had, hdb⟩
    exact ⟨⟨d, hd, had⟩, d, hd, hdb⟩

theorem singleCompares_equals_iff : v.singleCompares .equals [ofDay d] = true ↔ v = ofDay d := by
  have hstep : v.singleCompares .equals [ofDay d] = true ↔ v.isEmpty = false ∧ v = ofDay d := by
    rw [singleCompares_iff (by decide), ← equals_ofDay_iff]
    simp [comparesWith]
  rw [hstep]
  refine ⟨And.right, fun h => ⟨?_, h⟩⟩
  rw [h]
  exact isEmpty_of_day? (Handler.day?_ofDay d)

end Value

/-! ### Operators on days -/

/-- A day lies between two bounds, of which either may be open. -/
def Day.Within (start stop : Option Day) (d : Day) : Prop :=
  (∀ a ∈ start, a ≤ d) ∧ ∀ b ∈ stop, d ≤ b

namespace Operator

variable {records : RecordSet} {r : Record} {target : Target} {start stop : Option Day} {a : Day}
  {id : OperatorId} {values : List Value} {c : Comparison}

/-- Whether a record satisfies what the standard operator with a number builds. -/
def selects (records : RecordSet) (id : OperatorId) (values : List Value) (target : Target)
    (r : Record) : Bool :=
  (OperatorCatalog.standard.get? id).any fun o => (o.build target values).holds records r

/-- The operator that asks for days between two bounds, with its values. -/
def onDays? : Option Day → Option Day → Option (OperatorId × List Value)
  | some a, some b => some (rangeId, [.ofDay a, .ofDay b])
  | some a, none => some (10, [.ofDay a])
  | none, some b => some (12, [.ofDay b])
  | none, none => none

theorem selects_iff_leaves (hid : (OperatorCatalog.standard.get? id).map Operator.build =
    some (comparing c true)) (hc : c ≠ .isEmpty) : selects records id values target r = true ↔
      ∃ leaf ∈ (r.value target).leaves, leaf.singleCompares c values = true := by
  obtain ⟨o, ho, hbuild⟩ := Option.map_eq_some_iff.1 hid
  have hcompares : selects records id values target r = (r.value target).compares c values := by
    unfold selects
    rw [ho, Option.any_some, hbuild, holds_comparing]
    simp
  rw [hcompares, Value.compares_iff_leaves hc]

/-- **An operator finds a day between its bounds** if one of the values of the field spells one. -/
theorem selects_iff_spellsDay (hask : onDays? start stop = some (id, values)) :
    selects records id values target r = true ↔
      (r.value target).SpellsDay (Day.Within start stop) := by
  have hleaves : selects records id values target r = true ↔ ∃ leaf ∈ (r.value target).leaves,
      ∃ d, leaf.day? = some d ∧ d.Within start stop := by
    cases start with
    | some a =>
      cases stop with
      | some b =>
        cases hask
        rw [selects_iff_leaves (c := .range) rfl (by decide)]
        simp [Value.singleCompares_range_iff, Day.Within]
      | none =>
        cases hask
        rw [selects_iff_leaves (c := .gte) rfl (by decide)]
        simp [Value.singleCompares_gte_iff, Day.Within]
    | none =>
      cases stop with
      | some b =>
        cases hask
        rw [selects_iff_leaves (c := .lte) rfl (by decide)]
        simp [Value.singleCompares_lte_iff, Day.Within]
      | none => cases hask
  exact hleaves

/-- **Equality finds a day** if one of the values of the field is that day as it is written. -/
theorem selects_equals_iff : selects records 1 [.ofDay a] target r = true ↔
    Value.ofDay a ∈ (r.value target).leaves := by
  rw [selects_iff_leaves (c := .equals) rfl (by decide)]
  simp [Value.singleCompares_equals_iff]

/-- The range of one day finds every spelling of the day. -/
theorem selects_day_iff :
    selects records rangeId [.ofDay a, .ofDay a] target r = true ↔
      (r.value target).SpellsDay (· = a) := by
  have hsame : ∀ d : Day, d.Within (some a) (some a) ↔ d = a := by
    intro d
    constructor
    · rintro ⟨hstart, hstop⟩
      have hle : a.place ≤ d.place := hstart a rfl
      have hge : d.place ≤ a.place := hstop a rfl
      exact Day.eq_of_place_eq (by omega)
    · rintro rfl
      exact ⟨fun _ ha => by cases ha; exact le_refl d.place,
        fun _ hb => by cases hb; exact le_refl d.place⟩
  have hask : onDays? (some a) (some a) = some (rangeId, [.ofDay a, .ofDay a]) := rfl
  rw [selects_iff_spellsDay hask]
  unfold Value.SpellsDay
  simp only [hsame]

end Operator

/-- A date range finds a day in a field that holds one value. -/
theorem Predicate.holds_dateRange_iff {records : RecordSet} {r : Record} {target : Target}
    {start stop : Option Day} : (dateRange target start stop).holds records r = true ↔
      (r.value target).isList = false ∧ (r.value target).SpellsDay (Day.Within start stop) := by
  have hday : (dateRange target start stop).holds records r = true ↔
      ∃ d, (r.value target).day? = some d ∧ d.Within start stop := by
    rw [holds_dateRange]
    unfold Day.Within
    cases (r.value target).day? with
    | none => simp
    | some d => cases start <;> cases stop <;> simp
  rw [hday]
  constructor
  · rintro ⟨d, hd, hwithin⟩
    have hsingle := Value.isList_of_day? hd
    refine ⟨hsingle, r.value target, ?_, d, hd, hwithin⟩
    rw [Value.leaves_of_isList hsingle]
    exact List.mem_cons_self
  · rintro ⟨hsingle, leaf, hleaf, d, hd, hwithin⟩
    rw [Value.leaves_of_isList hsingle, List.mem_singleton] at hleaf
    exact ⟨d, by rw [← hleaf, hd], hwithin⟩

/-! ### Date ranges -/

/-- A look-up of what is there finds it. -/
theorem Handler.Finds.exists_eq_ok {α β : Type} {x : Except FilterError α} {read : α → β}
    {there : Option β} {b : β} (h : Finds x read there) (hthere : there = some b) :
    ∃ a, x = .ok a ∧ read a = b := by
  unfold Finds at h
  rw [hthere] at h
  cases x with
  | error e => cases h.2
  | ok a => exact ⟨a, rfl, (Option.some.inj h).symm⟩

namespace Evaluator

open Handler Evaluation

variable {ev : Evaluator} {f : Filter} {c : Condition} {start stop : Option Day} {target : Target}
  {today : Day} {id : OperatorId} {values : List Value}

/-- A condition with fixed bounds on a field that is there has them in its predicate. -/
theorem conditionPredicate_dates (hev : ev.catalogs.handlers = Catalogs.standard.handlers)
    (hkind : c.kind = .dateField ∨ c.kind = .dateCustomField)
    (hpayload : c.payload = .dates (.custom start stop))
    (htarget : (ev.setting ∅ none today).target? f.entityType c = some target)
    (nested : Filter → Evaluation Predicate) (ctx : Context) :
    (ev.conditionPredicate f nested c).runIn ctx = (.ok (.dateRange target start stop), ctx) := by
  have hrange : (rangePredicate c target (.custom start stop)).runIn ctx =
      (.ok (.dateRange target start stop), ctx) := runIn_rangePredicate _ _ _ _
  have heq : ∀ handler ∈ Handler.builtin, c.kind = handler.kind →
      ev.conditionPredicate f nested c = handler.predicate (ev.scope f nested) c := by
    intro handler hhandler hkind
    exact conditionPredicate_of_get? (by
      rw [hev, hkind]
      exact Catalogs.get?_standard_handlers hhandler)
  rcases hkind with hkind | hkind
  · obtain ⟨field, hfield, hname⟩ :=
      (finds_regularField _ f.entityType (Or.inr hkind)).exists_eq_ok htarget
    have hfield : regularField ev.schema f.entityType c.reference = .ok field := hfield
    rw [heq ⟨.dateField, validateDateField, dateFieldPredicate⟩ (by simp [Handler.builtin]) hkind]
    dsimp only
    unfold dateFieldPredicate
    simp only [hpayload, scope, hfield, ofExcept_ok_bind, hname]
    exact hrange
  · obtain ⟨field, hfield, hid⟩ :=
      (finds_customField _ f.entityType (Or.inr hkind)).exists_eq_ok htarget
    have hfield : customField ev.schema f.entityType c.reference = .ok field := hfield
    rw [heq ⟨.dateCustomField, validateDateCustomField, dateCustomFieldPredicate⟩
      (by simp [Handler.builtin]) hkind]
    dsimp only
    unfold dateCustomFieldPredicate
    simp only [hpayload, scope, hfield, ofExcept_ok_bind, hid]
    exact hrange

/-- **Date ranges and operators on days.** In a field that holds one value a date range finds what
the operator with the same bounds does, and in a list it finds nothing. What equality with a day
finds, the range of that day finds too; and where the days in a field are spelled as days are written,
it finds nothing else. -/
theorem dates_iff_selects (hev : ev.catalogs.handlers = Catalogs.standard.handlers)
    (hkind : c.kind = .dateField ∨ c.kind = .dateCustomField)
    (hpayload : c.payload = .dates (.custom start stop))
    (htarget : (ev.setting ∅ none today).target? f.entityType c = some target)
    (hask : Operator.onDays? start stop = some (id, values)) :
    (∃ p, (∀ nested ctx, (ev.conditionPredicate f nested c).runIn ctx = (.ok p, ctx)) ∧
      ∀ records r, p.holds records r = true ↔ (r.value target).isList = false ∧
        Operator.selects records id values target r = true) ∧
    ∀ records r a,
      (Operator.selects records 1 [.ofDay a] target r = true →
        Operator.selects records Operator.rangeId [.ofDay a, .ofDay a] target r = true) ∧
      ((r.value target).IsPlain →
        Operator.selects records Operator.rangeId [.ofDay a, .ofDay a] target r = true →
          Operator.selects records 1 [.ofDay a] target r = true) := by
  constructor
  · refine ⟨.dateRange target start stop,
      conditionPredicate_dates hev hkind hpayload htarget, fun records r => ?_⟩
    rw [Predicate.holds_dateRange_iff, Operator.selects_iff_spellsDay hask]
  · intro records r a
    rw [Operator.selects_equals_iff, Operator.selects_day_iff]
    constructor
    · intro hmem
      exact ⟨.ofDay a, hmem, a, day?_ofDay a, rfl⟩
    · rintro hplain ⟨leaf, hleaf, d, hd, rfl⟩
      rwa [hplain leaf hleaf d hd] at hleaf

/-- People with a date of birth. -/
def birthdays : Evaluator where
  catalogs := .standard
  schema := {
    entityTypes := .ofList [⟨"person", .ofList [{ name := "born", kind := .date }]⟩] }
  filters := ∅
  maxDepth := 1

/-- A person and what the date of birth is given as. -/
def bornOn (id : RecordId) (v : Value) : Record where
  id := id
  entityType := "person"
  fields := .ofList [("born", v)]

/-- One day, as a list, with a time, and as days are written. -/
def births : Storage where
  records := .ofList [
    bornOn "ann" (.list [.text "2024-01-01"]),
    bornOn "bob" (.text "2024-01-01T10:00:00"),
    bornOn "cat" (.text "2024-01-01")]

/-- A filter with one condition on people. -/
def asking (c : Condition) : Filter where
  id := "asking"
  name := "Asking"
  entityType := "person"
  conditions := [c]
  conditions_ne_nil := List.cons_ne_nil _ _

/-- The date range of one day. -/
def datesOfNewYear : Condition :=
  ⟨.dateField, "born", .dates (.custom (some newYear.today) (some newYear.today)), rfl⟩

/-- An operator on the same field. -/
def operatorOnBorn (id : OperatorId) (values : List Value) : Condition :=
  ⟨.field, "born", .comparison id values, rfl⟩

theorem dates_iff_selects_births :
    ∃ p, (∀ nested ctx, (birthdays.conditionPredicate (asking datesOfNewYear) nested
        datesOfNewYear).runIn ctx = (.ok p, ctx)) ∧
      p.holds births.records (bornOn "bob" (.text "2024-01-01T10:00:00")) = true ∧
      Operator.selects births.records 1 [.ofDay newYear.today] (.field "born")
        (bornOn "cat" (.text "2024-01-01")) = true := by
  have htarget : (birthdays.setting ∅ none newYear.today).target? "person"
      datesOfNewYear = some (.field "born") := rfl
  have hhandlers : birthdays.catalogs.handlers = Catalogs.standard.handlers := rfl
  obtain ⟨⟨p, hrun, hp⟩, hequals⟩ :=
    @dates_iff_selects birthdays (asking datesOfNewYear) datesOfNewYear _ _ _ newYear.today _ _
      hhandlers (Or.inl rfl) rfl htarget rfl
  have hplain : (Value.text "2024-01-01").IsPlain := by
    intro leaf hleaf d hd
    rw [Value.leaves_of_isList rfl, List.mem_singleton] at hleaf
    have hday : leaf = .ofDay newYear.today := by
      rw [hleaf]
      rfl
    rw [hday, day?_ofDay] at hd
    rw [hday, Option.some.inj hd]
  exact ⟨p, hrun, (hp _ _).2 ⟨rfl, rfl⟩, (hequals _ _ _).2 hplain rfl⟩

/-- Three ways to ask for one day, and three answers. -/
theorem apply_dates_ne :
    (birthdays.apply (asking datesOfNewYear) newYear births).1 = .ok ["bob", "cat"] ∧
    (birthdays.apply (asking (operatorOnBorn Operator.rangeId
      [.ofDay newYear.today, .ofDay newYear.today])) newYear births).1 =
        .ok ["ann", "bob", "cat"] ∧
    (birthdays.apply (asking (operatorOnBorn 1 [.ofDay newYear.today])) newYear births).1 =
      .ok ["ann", "cat"] := ⟨rfl, rfl, rfl⟩

end Evaluator

end RecordFilters
