import RecordFilters.Handler.Field
import RecordFilters.Proofs.Calendar.DateText
import RecordFilters.Proofs.Number.Whole
import RecordFilters.Proofs.Record.Leaves
import RecordFilters.Proofs.Text.Lowering

/-! # Whole numbers as texts

A whole number is written as an integer of 64 bits. Numbers reach far beyond these integers, and those
beyond are written as the bound that they have passed. All of them on one side have one text, so what
goes by texts cannot tell them apart: a value that is cast for a text field, an id, a comparison of
texts. Equality tells numbers apart as numbers, as long as none of them is cast.

* `Number.toText_eq_ofInt_iff`: which whole numbers are written exactly.
* `Number.toText_eq_iff`: which whole numbers have one text.
* `Value.Alike`: values that no comparison of texts tells apart.
* `Value.wholes_as_texts`: what casts and comparisons make of whole numbers. -/

namespace RecordFilters

/-! ### Texts -/

theorem Text.trim_ofInt (i : Int) : Text.trim (Text.ofInt i) = Text.ofInt i := by
  have hblank : ∀ c ∈ Text.numeral i, Text.isBlank c = false := by
    intro c hc
    rcases Text.isDigit_or_dash_of_mem_numeral hc with hdigit | rfl
    · exact Text.isBlank_of_isDigit hdigit
    · decide
  refine Text.trim_eq_self ?_
  rwa [Text.ofInt, String.toList_ofList]

namespace Number

variable {n m : Number} {i j : Int}

/-- Two integers that are written alike as numbers: the same one, both past the greatest integer of 64
bits, or both at the least one or past it. -/
def WrittenAlike (i j : Int) : Prop :=
  i = j ∨ (greatestWhole < i ∧ greatestWhole < j) ∨ (i ≤ leastWhole ∧ j ≤ leastWhole)

theorem WrittenAlike.symm (h : WrittenAlike i j) : WrittenAlike j i := by
  unfold WrittenAlike at h ⊢
  omega

theorem toText_of_whole? (h : n.whole? = some i) :
    n.toText = Text.ofInt (max leastWhole (min i greatestWhole)) := by
  unfold toText
  rw [h]

/-- A whole number is written exactly just if it has 64 bits. -/
theorem toText_eq_ofInt_iff (h : n.whole? = some i) :
    n.toText = Text.ofInt i ↔ leastWhole ≤ i ∧ i ≤ greatestWhole := by
  rw [toText_of_whole? h, Text.ofInt_inj]
  unfold leastWhole greatestWhole
  omega

theorem toText_eq_iff (hn : n.whole? = some i) (hm : m.whole? = some j) :
    n.toText = m.toText ↔ WrittenAlike i j := by
  -- the greatest integer would have one text with the numbers beyond it, but it is no number
  have hi := ne_greatestWhole hn
  have hj := ne_greatestWhole hm
  rw [toText_of_whole? hn, toText_of_whole? hm, Text.ofInt_inj]
  unfold WrittenAlike leastWhole greatestWhole at *
  omega

/-- What is written for a whole number is the numeral of the number itself or of the bound that it has
passed, and the upper bound is rounded up when it is read. -/
theorem whole?_ofInt_held (h : m.whole? = some j) :
    (ofInt (max leastWhole (min j greatestWhole))).whole? =
      some (max leastWhole (min j (greatestWhole + 1))) := by
  have hbounds : leastWhole ≤ greatestWhole := by decide
  have hj := ne_greatestWhole h
  rcases le_or_gt j leastWhole with hlow | hlow
  · rw [max_eq_left (by omega), max_eq_left (by omega), whole?_ofInt_leastWhole]
  · rcases le_or_gt j greatestWhole with hhigh | hhigh
    · rw [min_eq_left (by omega), min_eq_left (by omega), max_eq_right (by omega), whole?_ofInt h]
    · rw [min_eq_right (by omega), min_eq_right (by omega), max_eq_right (by omega),
        max_eq_right (by omega), whole?_ofInt_greatestWhole]

end Number

/-! ### Values that have one text -/

/-- The comparisons that look at nothing but the text forms. -/
def Comparison.readsTexts : Comparison → Bool
  | .iEquals | .contains | .iContains | .startsWith | .iStartsWith | .endsWith | .iEndsWith => true
  | _ => false

namespace Value

open Number Handler

variable {v w x field : Value} {n m : Number} {i j : Int} {c : Comparison} {values : List Value}

/-- No comparison of texts tells two values apart, in a field or among the values that the field is
compared with, and what is no number equals both of them or none. -/
structure Alike (v w : Value) : Prop where
  inField : ∀ c : Comparison, c.readsTexts = true → ∀ values,
    v.compares c values = w.compares c values
  amongValues : ∀ c : Comparison, c.readsTexts = true → ∀ (field : Value) before after,
    field.compares c (before ++ v :: after) = field.compares c (before ++ w :: after)
  toOthers : ∀ field : Value, (∀ k, number k ∉ field.leaves) → ∀ before after,
    field.compares .equals (before ++ v :: after) = field.compares .equals (before ++ w :: after)

theorem comparesWith_congr_left (hc : c.readsTexts = true) (h : v.text? = w.text?) :
    v.comparesWith c x = w.comparesWith c x := by
  cases c with
  | iEquals | contains | iContains | startsWith | iStartsWith | endsWith | iEndsWith =>
    simp only [comparesWith, textsRelate, h]
  | _ => cases hc

theorem comparesWith_congr_right (hc : c.readsTexts = true) (h : v.text? = w.text?) :
    x.comparesWith c v = x.comparesWith c w := by
  cases c with
  | iEquals | contains | iContains | startsWith | iStartsWith | endsWith | iEndsWith =>
    simp only [comparesWith, textsRelate, h]
  | _ => cases hc

/-- One of the values that a field is compared with may be replaced by another that does as well. -/
theorem compares_congr_among (hempty : c ≠ .isEmpty) (hrange : c ≠ .range) (before after : List Value)
    (h : ∀ leaf ∈ field.leaves, leaf.comparesWith c v = leaf.comparesWith c w) :
    field.compares c (before ++ v :: after) = field.compares c (before ++ w :: after) := by
  rw [Bool.eq_iff_iff, compares_iff_leaves hempty, compares_iff_leaves hempty]
  refine exists_congr fun leaf => and_congr_right fun hleaf => ?_
  rw [singleCompares_iff hrange, singleCompares_iff hrange]
  simp only [List.mem_append, List.mem_cons, or_and_right, exists_or, exists_eq_left, h leaf hleaf]

/-- Equality looks at texts where the field holds no number. -/
theorem equals_eq_textsRelate (h : ∀ k, v ≠ number k) :
    v.equals w = textsRelate false (· == ·) v w := by
  cases v with
  | number k => exact absurd rfl (h k)
  | _ => rfl

theorem compares_number (hempty : c ≠ .isEmpty) (hrange : c ≠ .range) :
    (number n).compares c values = values.any ((number n).comparesWith c) := by
  cases c with
  | isEmpty => exact absurd rfl hempty
  | range => exact absurd rfl hrange
  | _ => rfl

theorem ne_of_readsTexts (hc : c.readsTexts = true) : c ≠ .isEmpty ∧ c ≠ .range := by
  constructor <;>
  · rintro rfl
    cases hc

/-- Numbers that have one text are told apart by no comparison of texts. -/
theorem alike_of_toText_eq (h : n.toText = m.toText) : Alike (number n) (number m) := by
  have htext : (number n).text? = (number m).text? := congrArg some h
  constructor
  · intro c hc values
    obtain ⟨hempty, hrange⟩ := ne_of_readsTexts hc
    rw [compares_number hempty hrange, compares_number hempty hrange]
    exact congrArg values.any (funext fun x => comparesWith_congr_left hc htext)
  · intro c hc field before after
    obtain ⟨hempty, hrange⟩ := ne_of_readsTexts hc
    exact compares_congr_among hempty hrange before after fun leaf _ =>
      comparesWith_congr_right hc htext
  · intro field hfield before after
    refine compares_congr_among (by decide) (by decide) before after fun leaf hleaf => ?_
    have hother : ∀ k, leaf ≠ number k := by
      rintro k rfl
      exact hfield k hleaf
    simp only [comparesWith, equals_eq_textsRelate hother, textsRelate, htext]

/-! ### Whole numbers -/

theorem iEquals_iff (hn : n.whole? = some i) (hm : m.whole? = some j) :
    (number n).compares .iEquals [number m] = true ↔ WrittenAlike i j := by
  rw [← toText_eq_iff hn hm, compares_number (by decide) (by decide)]
  simp only [List.any_cons, List.any_nil, Bool.or_false, comparesWith, textsRelate, text?, if_true,
    beq_iff_eq, String.toList_inj]
  rw [toText_of_whole? hn, toText_of_whole? hm, Text.lowercase_ofInt, Text.lowercase_ofInt]

theorem alike_iff (hn : n.whole? = some i) (hm : m.whole? = some j) :
    Alike (number n) (number m) ↔ WrittenAlike i j := by
  constructor
  · intro h
    have hself : (number n).compares .iEquals [number n] = true :=
      (iEquals_iff hn hn).2 (Or.inl rfl)
    rw [h.inField .iEquals rfl] at hself
    exact ((iEquals_iff hm hn).1 hself).symm
  · intro h
    exact alike_of_toText_eq ((toText_eq_iff hn hm).2 h)

theorem equals_iff (hn : n.whole? = some i) (hm : m.whole? = some j) :
    (number n).compares .equals [number m] = true ↔ i = j := by
  rw [← same_iff_of_whole? hn hm, compares_number (by decide) (by decide)]
  simp [comparesWith, equals, number?]

/-- A number in a field is the number that the text of a whole number spells. -/
theorem equals_toText_iff (hn : n.whole? = some i) (hm : m.whole? = some j) :
    (number n).compares .equals [text m.toText] = true ↔
      i = max leastWhole (min j (greatestWhole + 1)) := by
  have hbounds : leastWhole ≤ greatestWhole := by decide
  have hspelled : (text m.toText).number? =
      some (.ofInt (max leastWhole (min j greatestWhole))) := by
    show Number.ofText? (Text.trim m.toText) = _
    rw [toText_of_whole? hm, Text.trim_ofInt, ofText?_ofInt (by omega) (by omega)]
  rw [← same_iff_of_whole? hn (whole?_ofInt_held hm), compares_number (by decide) (by decide)]
  simp [comparesWith, equals, hspelled]

/-- **Whole numbers in texts.** A whole number is written exactly just if it has 64 bits. Two whole
numbers pass for one, where texts stand for them, just if they are the same or have passed the same
bound: as ids, cast for a text field, compared with each other without regard to case, and in every
comparison of texts with anything. Compared as numbers they are equal just if they are the same. Once
one is cast, the number that equals it is itself or the bound that it has passed. -/
theorem wholes_as_texts {kind : FieldKind} (hkind : kind = .string ∨ kind = .reference)
    (hn : n.whole? = some i) (hm : m.whole? = some j) :
    ((number n).text? = some (Text.ofInt i) ↔ leastWhole ≤ i ∧ i ≤ greatestWhole) ∧
    ((number n).text? = (number m).text? ↔ WrittenAlike i j) ∧
    (cast? kind (number n) = cast? kind (number m) ↔ WrittenAlike i j) ∧
    ((number n).compares .iEquals [number m] = true ↔ WrittenAlike i j) ∧
    (Alike (number n) (number m) ↔ WrittenAlike i j) ∧
    ((number n).compares .equals [number m] = true ↔ i = j) ∧
    ∃ s, cast? kind (number m) = some (text s) ∧
      ((number n).compares .equals [text s] = true ↔
        i = max leastWhole (min j (greatestWhole + 1))) := by
  have hcast : ∀ k : Number, cast? kind (number k) = some (text k.toText) := by
    intro k
    rcases hkind with rfl | rfl <;> rfl
  refine ⟨?_, ?_, ?_, iEquals_iff hn hm, alike_iff hn hm, equals_iff hn hm, m.toText, hcast m,
    equals_toText_iff hn hm⟩
  · rw [← toText_eq_ofInt_iff hn]
    exact Option.some_inj
  · rw [← toText_eq_iff hn hm]
    exact Option.some_inj
  · rw [← toText_eq_iff hn hm, hcast n, hcast m, Option.some_inj, text.injEq]

/-- The greatest number that has 64 bits is written exactly and told apart from the next one. From
there on no text tells numbers apart, and a number that is cast equals the bound. -/
theorem wholes_as_texts_atBound :
    (number (.ofInt 9223372036854774784)).text? = some (Text.ofInt 9223372036854774784) ∧
    ¬ Alike (number (.ofInt 9223372036854774784)) (number (.ofInt 9223372036854775808)) ∧
    Alike (number (.ofInt 9223372036854775808)) (number (.ofInt 20000000000000000000)) ∧
    ∃ s, cast? .string (number (.ofInt 20000000000000000000)) = some (text s) ∧
      (number (.ofInt 9223372036854775808)).compares .equals [text s] = true := by
  have hlast : (Number.ofInt 9223372036854774784).whole? = some 9223372036854774784 := by
    decide +kernel
  have hnext : (Number.ofInt 9223372036854775808).whole? = some 9223372036854775808 := by
    decide +kernel
  have hfar : (Number.ofInt 20000000000000000000).whole? = some 20000000000000000000 := by
    decide +kernel
  obtain ⟨hexact, -, -, -, hapart, -⟩ := wholes_as_texts (Or.inl rfl) hlast hnext
  obtain ⟨-, -, -, -, halike, -, s, hcast, hequals⟩ := wholes_as_texts (Or.inl rfl) hnext hfar
  refine ⟨hexact.2 (by decide), ?_, halike.2 ?_, s, hcast, hequals.2 (by decide)⟩
  · rw [hapart]
    unfold WrittenAlike
    decide
  · unfold WrittenAlike
    decide

/-- Two whole numbers of which neither is written exactly, with one text that a text field holds for
both. A comparison of texts finds them equal, the comparison of the numbers does not. -/
theorem text_eq_beyond_bound :
    ((Number.ofInt 10000000000000000000).whole? = some 10000000000000000000 ∧
      (number (.ofInt 10000000000000000000)).text? = some "9223372036854775807") ∧
    ((Number.ofInt 20000000000000000000).whole? = some 20000000000000000000 ∧
      (number (.ofInt 20000000000000000000)).text? = some "9223372036854775807") ∧
    cast? .string (number (.ofInt 10000000000000000000)) =
      cast? .string (number (.ofInt 20000000000000000000)) ∧
    (number (.ofInt 10000000000000000000)).compares .iEquals
      [number (.ofInt 20000000000000000000)] = true ∧
    (number (.ofInt 10000000000000000000)).compares .equals
      [number (.ofInt 20000000000000000000)] = false := by
  have hten : (number (.ofInt 10000000000000000000)).text? = some "9223372036854775807" := by
    decide +kernel
  have htwenty : (number (.ofInt 20000000000000000000)).text? = some "9223372036854775807" := by
    decide +kernel
  refine ⟨⟨by decide +kernel, hten⟩, ⟨by decide +kernel, htwenty⟩, ?_, by decide +kernel,
    by decide +kernel⟩
  unfold cast?
  dsimp only
  rw [hten, htwenty]

end Value

end RecordFilters
