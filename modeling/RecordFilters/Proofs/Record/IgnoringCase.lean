import RecordFilters.Proofs.Record.Leaves
import RecordFilters.Proofs.Text.Lowering

/-! # Comparing texts, with and without regard to case

A comparison finds a value at some place of a text. The one that ignores case compares lowered texts,
so it finds the value at the same place if the value is lowered alone as it is lowered there. That can
fail for one reason: a capital sigma of the value ends a word in one of the two only.

* `Comparison.Places`, `Value.FindsAt`: where a comparison finds a value.
* `Value.compares_of_findsAt`: what is found at a place is found there without regard to case.
* `Value.compares_ignoringCase`: the four comparisons and those that ignore case. -/

namespace RecordFilters

open Text

namespace Comparison

variable {c ic : Comparison} {p q : List Char}

/-- The comparison that ignores case. -/
def ignoringCase? : Comparison → Option Comparison
  | .equals => some .iEquals
  | .contains => some .iContains
  | .startsWith => some .iStartsWith
  | .endsWith => some .iEndsWith
  | _ => none

/-- Where a comparison looks for a value: what may stand in front of it and behind it. -/
def Places (c : Comparison) (p q : List Char) : Prop :=
  match c with
  | .equals => p = [] ∧ q = []
  | .contains => True
  | .startsWith => p = []
  | .endsWith => q = []
  | _ => False

/-- Lowering keeps the place. -/
theorem Places.lowered (h : c.Places p q) (before before' after after' : List Char) :
    c.Places (lowerBetween before after p) (lowerBetween before' after' q) := by
  cases c with
  | equals => exact ⟨by rw [h.1]; rfl, by rw [h.2]; rfl⟩
  | contains => trivial
  | startsWith =>
    obtain rfl : p = [] := h
    rfl
  | endsWith =>
    obtain rfl : q = [] := h
    rfl
  | _ => exact h.elim

/-- One test of texts is behind a comparison and the one that ignores case. -/
theorem exists_test (hc : c.ignoringCase? = some ic) : ∃ test : List Char → List Char → Bool,
    (∀ s v, (Value.text s).comparesWith c (.text v) = test s.toList v.toList) ∧
    (∀ s v, (Value.text s).comparesWith ic (.text v) =
      test (lowercase s).toList (lowercase v).toList) ∧
    ∀ cs ds, test cs ds = true ↔ ∃ p q, c.Places p q ∧ cs = p ++ ds ++ q := by
  cases c with
  | equals =>
    cases hc
    refine ⟨fun cs ds => cs == ds, fun s v => rfl, fun s v => rfl, fun cs ds => ?_⟩
    rw [beq_iff_eq]
    constructor
    · rintro rfl
      exact ⟨[], [], ⟨rfl, rfl⟩, by simp⟩
    · rintro ⟨p, q, ⟨rfl, rfl⟩, rfl⟩
      simp
  | contains =>
    cases hc
    refine ⟨hasInfix, fun s v => rfl, fun s v => rfl, fun cs ds => ?_⟩
    rw [hasInfix_iff]
    constructor
    · rintro ⟨p, q, rfl⟩
      exact ⟨p, q, trivial, rfl⟩
    · rintro ⟨p, q, -, rfl⟩
      exact ⟨p, q, rfl⟩
  | startsWith =>
    cases hc
    refine ⟨fun cs ds => ds.isPrefixOf cs, fun s v => rfl, fun s v => rfl, fun cs ds => ?_⟩
    rw [List.isPrefixOf_iff_prefix]
    constructor
    · rintro ⟨q, rfl⟩
      exact ⟨[], q, rfl, rfl⟩
    · rintro ⟨p, q, rfl, rfl⟩
      exact ⟨q, rfl⟩
  | endsWith =>
    cases hc
    refine ⟨fun cs ds => ds.isSuffixOf cs, fun s v => rfl, fun s v => rfl, fun cs ds => ?_⟩
    rw [List.isSuffixOf_iff_suffix]
    constructor
    · rintro ⟨p, rfl⟩
      exact ⟨p, [], rfl, by simp⟩
    · rintro ⟨p, q, rfl, rfl⟩
      exact ⟨p, by simp⟩
  | _ => cases hc

theorem ne_of_ignoringCase? (hc : c.ignoringCase? = some ic) :
    (c ≠ .isEmpty ∧ c ≠ .range) ∧ ic ≠ .isEmpty ∧ ic ≠ .range := by
  cases c <;> cases hc <;> decide

end Comparison

namespace Value

variable {c ic : Comparison} {field : Value} {values : List String} {s v : String}
  {p q : List Char}

/-! ### Where a value is found -/

/-- A field that holds texts only. -/
def HoldsTexts (field : Value) : Prop := ∀ leaf ∈ field.leaves, ∃ s, leaf = .text s

/-- A comparison finds one of the values in a text of the field, between two parts of it. A text
without characters counts as missing. -/
def FindsAt (field : Value) (c : Comparison) (values : List String) (p : List Char) (v : String)
    (q : List Char) : Prop :=
  v ∈ values ∧ c.Places p q ∧ ∃ s, .text s ∈ field.leaves ∧ s ≠ "" ∧ s.toList = p ++ v.toList ++ q

theorem singleCompares_text_iff (hc : c ≠ .range) :
    (Value.text s).singleCompares c (values.map .text) = true ↔
      s ≠ "" ∧ ∃ v ∈ values, (Value.text s).comparesWith c (.text v) = true := by
  rw [singleCompares_iff hc]
  by_cases hs : s = ""
  · simp [hs, isEmpty]
  · simp [hs, isEmpty]

/-- **A comparison of texts finds one of the values somewhere.** -/
theorem compares_iff_findsAt (hc : c.ignoringCase? = some ic) (hfield : field.HoldsTexts) :
    field.compares c (values.map .text) = true ↔ ∃ p v q, field.FindsAt c values p v q := by
  obtain ⟨⟨hempty, hrange⟩, -⟩ := Comparison.ne_of_ignoringCase? hc
  obtain ⟨test, htest, -, hplaces⟩ := Comparison.exists_test hc
  rw [compares_iff_leaves hempty]
  constructor
  · rintro ⟨leaf, hleaf, hsingle⟩
    obtain ⟨s, rfl⟩ := hfield leaf hleaf
    obtain ⟨hs, v, hv, hcompares⟩ := (singleCompares_text_iff hrange).1 hsingle
    rw [htest, hplaces] at hcompares
    obtain ⟨p, q, hplace, heq⟩ := hcompares
    exact ⟨p, v, q, hv, hplace, s, hleaf, hs, heq⟩
  · rintro ⟨p, v, q, hv, hplace, s, hleaf, hs, heq⟩
    refine ⟨.text s, hleaf, (singleCompares_text_iff hrange).2 ⟨hs, v, hv, ?_⟩⟩
    rw [htest, hplaces]
    exact ⟨p, q, hplace, heq⟩

/-- What a text is lowered to where a value has been found in it. -/
theorem toList_lowercase_of_eq (h : s.toList = p ++ v.toList ++ q) : (lowercase s).toList =
    lowerBetween [] (v.toList ++ q) p ++ lowerBetween p.reverse q v.toList ++
      lowerBetween (v.toList.reverse ++ p.reverse) [] q := by
  rw [← toList_lowercase_append, ← h, String.ofList_toList]

/-- **What is found at a place is found there without regard to case** if no capital sigma is
displaced. -/
theorem compares_of_findsAt (hc : c.ignoringCase? = some ic) (h : field.FindsAt c values p v q)
    (hplain : ¬ Displaces p v.toList q) : field.compares ic (values.map .text) = true := by
  obtain ⟨hv, hplace, s, hleaf, hs, heq⟩ := h
  obtain ⟨-, hempty, hrange⟩ := Comparison.ne_of_ignoringCase? hc
  obtain ⟨test, -, htest, hplaces⟩ := Comparison.exists_test hc
  refine (compares_iff_leaves hempty).2
    ⟨.text s, hleaf, (singleCompares_text_iff hrange).2 ⟨hs, v, hv, ?_⟩⟩
  rw [htest, hplaces, toList_lowercase_of_eq heq, toList_lowercase,
    (lowerBetween_eq_iff p v.toList q).2 hplain]
  exact ⟨_, _, hplace.lowered _ _ _ _, rfl⟩

/-- At the ends of a text there is one place for a value, and there it is found without regard to case
only if no capital sigma is displaced. -/
theorem not_displaces_of_compares (hc : c.ignoringCase? = some ic) (hcontains : c ≠ .contains)
    (hplace : c.Places p q) (heq : s.toList = p ++ v.toList ++ q)
    (h : (Value.text s).compares ic [.text v] = true) : ¬ Displaces p v.toList q := by
  obtain ⟨-, hempty, hrange⟩ := Comparison.ne_of_ignoringCase? hc
  obtain ⟨test, -, htest, hplaces⟩ := Comparison.exists_test hc
  rw [compares_iff_leaves hempty, leaves_of_isList rfl] at h
  obtain ⟨leaf, hleaf, hsingle⟩ := h
  obtain rfl := List.mem_singleton.1 hleaf
  have hsingle : (Value.text s).singleCompares ic ([v].map .text) = true := hsingle
  obtain ⟨-, v', hv', hcompares⟩ := (singleCompares_text_iff hrange).1 hsingle
  obtain rfl := List.mem_singleton.1 hv'
  rw [htest, hplaces, toList_lowercase_of_eq heq, toList_lowercase] at hcompares
  obtain ⟨p', q', hplace', heq'⟩ := hcompares
  have hlength := length_lowerBetween p.reverse q [] [] v'.toList
  rw [← lowerBetween_eq_iff]
  cases c with
  | equals =>
    obtain ⟨rfl, rfl⟩ := hplace
    rfl
  | contains => exact absurd rfl hcontains
  | startsWith =>
    obtain rfl : p = [] := hplace
    obtain rfl : p' = [] := hplace'
    simp only [lowerBetween, List.nil_append] at heq'
    exact (List.append_inj heq' hlength).1
  | endsWith =>
    obtain rfl : q = [] := hplace
    obtain rfl : q' = [] := hplace'
    simp only [lowerBetween, List.append_nil] at heq'
    exact (List.append_inj' heq' hlength).2
  | _ => exact hplace.elim

/-- **Ignoring case only adds matches, but for displaced sigmas.** What a comparison finds the one
that ignores case finds too, unless each place at which a value is found displaces a capital sigma of
it. Equality displaces none, and values without a capital sigma have none. In a single text the start
and the end are one place each, and there a displaced sigma is always a match that is lost. -/
theorem compares_ignoringCase (hc : c.ignoringCase? = some ic) (hfield : field.HoldsTexts)
    (h : field.compares c (values.map .text) = true) :
    (field.compares ic (values.map .text) = true ∨
      ∀ p v q, field.FindsAt c values p v q → Displaces p v.toList q) ∧
    (c = .equals ∨ (∀ v ∈ values, 'Σ' ∉ v.toList) → field.compares ic (values.map .text) = true) ∧
    (c ≠ .contains → ∀ s v p q, field = .text s → values = [v] → field.FindsAt c values p v q →
      (field.compares ic (values.map .text) = true ↔ ¬ Displaces p v.toList q)) := by
  refine ⟨?_, ?_, ?_⟩
  · by_cases hall : ∀ p v q, field.FindsAt c values p v q → Displaces p v.toList q
    · exact Or.inr hall
    · push Not at hall
      obtain ⟨p, v, q, hfound, hplain⟩ := hall
      exact Or.inl (compares_of_findsAt hc hfound hplain)
  · intro hwhole
    obtain ⟨p, v, q, hfound⟩ := (compares_iff_findsAt hc hfield).1 h
    refine compares_of_findsAt hc hfound ?_
    rcases hwhole with rfl | hsigma
    · obtain ⟨-, ⟨rfl, rfl⟩, -⟩ := hfound
      exact not_displaces_nil _
    · exact not_displaces_of_notMem (hsigma v hfound.1)
  · rintro hcontains s v p q rfl rfl hfound
    obtain ⟨-, hplace, s', hleaf, -, heq⟩ := id hfound
    rw [leaves_of_isList rfl, List.mem_singleton] at hleaf
    rw [Value.text.inj hleaf] at heq
    exact ⟨not_displaces_of_compares hc hcontains hplace heq, compares_of_findsAt hc hfound⟩

set_option maxRecDepth 4000 in
/-- At the end of one text and at the start of another, the sigma ends a word there as it does in the
value. -/
theorem compares_ignoringCase_odos :
    (Value.list [.text "ΟΔΟΣ", .text ""]).compares .iEndsWith [.text "ΔΟΣ"] = true ∧
      (Value.text "ΟΔΟΣ ΣΑΣ").compares .iStartsWith [.text "ΟΔΟΣ"] = true := by
  have hlist : (Value.list [.text "ΟΔΟΣ", .text ""]).HoldsTexts := by
    intro leaf hleaf
    have hleaves : (Value.list [.text "ΟΔΟΣ", .text ""]).leaves =
      [.text "ΟΔΟΣ", .text ""] := rfl
    rw [hleaves] at hleaf
    simp only [List.mem_cons, List.not_mem_nil, or_false] at hleaf
    rcases hleaf with rfl | rfl <;> exact ⟨_, rfl⟩
  have htext : (Value.text "ΟΔΟΣ ΣΑΣ").HoldsTexts := by
    intro leaf hleaf
    rw [leaves_of_isList rfl, List.mem_singleton] at hleaf
    exact ⟨_, hleaf⟩
  constructor
  · have hfound : (Value.list [.text "ΟΔΟΣ", .text ""]).FindsAt .endsWith ["ΔΟΣ"] ['Ο'] "ΔΟΣ" [] :=
      ⟨List.mem_singleton.2 rfl, rfl, "ΟΔΟΣ", List.mem_cons_self, by decide, rfl⟩
    obtain ⟨hend, -⟩ := @compares_ignoringCase .endsWith .iEndsWith _ ["ΔΟΣ"] rfl hlist rfl
    refine hend.resolve_right fun hall => ?_
    exact (lowerBetween_eq_iff _ _ _).1 rfl (hall _ _ _ hfound)
  · have hfound : (Value.text "ΟΔΟΣ ΣΑΣ").FindsAt .startsWith ["ΟΔΟΣ"] [] "ΟΔΟΣ" " ΣΑΣ".toList :=
      ⟨List.mem_singleton.2 rfl, rfl, "ΟΔΟΣ ΣΑΣ", List.mem_cons_self, by decide, rfl⟩
    obtain ⟨-, -, hstart⟩ := @compares_ignoringCase .startsWith .iStartsWith _ ["ΟΔΟΣ"] rfl htext rfl
    exact (hstart (by decide) _ _ _ _ rfl rfl hfound).2 ((lowerBetween_eq_iff _ _ _).1 rfl)

set_option maxRecDepth 4000 in
/-- Matches that are lost: a sigma ends the value and not the word, or ends a word that the value
breaks off. -/
theorem compares_ne_ignoringCase :
    ((Value.text "ΑΣΑ").compares .startsWith [.text "ΑΣ"] = true ∧
      (Value.text "ΑΣΑ").compares .iStartsWith [.text "ΑΣ"] = false) ∧
    ((Value.text "ΑΣΑ").compares .contains [.text "ΑΣ"] = true ∧
      (Value.text "ΑΣΑ").compares .iContains [.text "ΑΣ"] = false) ∧
    (Value.text "ΑΣ").compares .endsWith [.text "Σ"] = true ∧
      (Value.text "ΑΣ").compares .iEndsWith [.text "Σ"] = false :=
  ⟨⟨rfl, rfl⟩, ⟨rfl, rfl⟩, rfl, rfl⟩

end Value

end RecordFilters
