import RecordFilters.Proofs.Text.Digits
import RecordFilters.Text.Lowercase

/-! # Lowering a text and its parts

A text is lowered character by character, and only a capital sigma looks at the characters around it.
So a part of a text is lowered in its place as it is lowered alone, unless one of its capital sigmas
ends a word in one of the two and not in the other.

* `Text.lowerBetween`: what a part is lowered to between two others.
* `Text.toList_lowercase_append`: a text is lowered part by part.
* `Text.Displaces`: a capital sigma ends a word in one place only.
* `Text.lowerBetween_eq_iff`: just then a part is lowered to something else.
* `Text.lowercase_ofInt`: a numeral has no letters to lower. -/

namespace RecordFilters.Text

variable {before after cs u v w p q : List Char} {c : Char}

/-- Whether a capital sigma between two texts, the first of them given in reverse, ends a word. -/
def endsWord (before after : List Char) : Bool := nextIsCased before && !nextIsCased after

/-- What a character is lowered to between two texts. -/
def lowerChar (before : List Char) (c : Char) (after : List Char) : List Char :=
  if c = 'Σ' then if endsWord before after then ['ς'] else ['σ']
  else if c = 'İ' then ['i', '\u0307']
  else [lowerPartner c]

/-- What a part of a text is lowered to between two others. -/
def lowerBetween (before after : List Char) : List Char → List Char
  | [] => []
  | c :: r => lowerChar before c (r ++ after) ++ lowerBetween (c :: before) after r

/-! ### Part by part -/

theorem lowerAfter_eq_lowerBetween (before cs : List Char) :
    lowerAfter before cs = lowerBetween before [] cs := by
  induction cs generalizing before with
  | nil => rfl
  | cons c cs ih =>
    rw [lowerAfter, lowerBetween, ih, List.append_nil]
    rfl

theorem lowerBetween_append (before after u v : List Char) :
    lowerBetween before after (u ++ v) =
      lowerBetween before (v ++ after) u ++ lowerBetween (u.reverse ++ before) after v := by
  induction u generalizing before with
  | nil => rfl
  | cons c u ih =>
    rw [List.cons_append, lowerBetween, lowerBetween, ih, List.reverse_cons, List.append_assoc,
      List.append_assoc, List.append_assoc, List.singleton_append]

theorem toList_lowercase (s : String) : (lowercase s).toList = lowerBetween [] [] s.toList := by
  rw [lowercase, String.toList_ofList, lowerAfter_eq_lowerBetween]

/-- **A text is lowered part by part**, each part between those beside it. -/
theorem toList_lowercase_append (p v q : List Char) :
    (lowercase (String.ofList (p ++ v ++ q))).toList =
      lowerBetween [] (v ++ q) p ++ lowerBetween p.reverse q v ++
        lowerBetween (v.reverse ++ p.reverse) [] q := by
  rw [toList_lowercase, String.toList_ofList, List.append_assoc, lowerBetween_append,
    lowerBetween_append, List.append_nil, List.append_nil, List.append_nil, List.append_assoc]

/-! ### As many characters in any place -/

theorem length_lowerChar (before after : List Char) (c : Char) :
    (lowerChar before c after).length = if c = 'İ' then 2 else 1 := by
  unfold lowerChar
  by_cases hsigma : c = 'Σ'
  · have hdotted : ¬ 'Σ' = 'İ' := by decide
    rw [if_pos hsigma, hsigma, if_neg hdotted]
    split <;> rfl
  · rw [if_neg hsigma]
    split <;> rfl

theorem length_lowerBetween (before after before' after' cs : List Char) :
    (lowerBetween before after cs).length = (lowerBetween before' after' cs).length := by
  induction cs generalizing before before' with
  | nil => rfl
  | cons c cs ih =>
    rw [lowerBetween, lowerBetween, List.length_append, List.length_append, length_lowerChar,
      length_lowerChar, ih (c :: before) (c :: before')]

/-! ### Displaced sigmas -/

/-- A capital sigma of a part ends a word in the part but not between the others, or the reverse. -/
def Displaces (p v q : List Char) : Prop :=
  ∃ u w, v = u ++ 'Σ' :: w ∧ endsWord u.reverse w ≠ endsWord (u.reverse ++ p.reverse) (w ++ q)

/-- No sigma is displaced in a text that stands alone. -/
theorem not_displaces_nil (v : List Char) : ¬ Displaces [] v [] := by
  rintro ⟨u, w, -, hne⟩
  simp at hne

theorem not_displaces_of_notMem (h : 'Σ' ∉ v) : ¬ Displaces p v q := by
  rintro ⟨u, w, rfl, -⟩
  exact h (List.mem_append_right _ List.mem_cons_self)

theorem lowerChar_eq_iff {before' after' : List Char} :
    lowerChar before c after = lowerChar before' c after' ↔
      (c = 'Σ' → endsWord before after = endsWord before' after') := by
  unfold lowerChar
  by_cases hsigma : c = 'Σ'
  · simp only [hsigma, if_true, true_implies]
    cases endsWord before after <;> cases endsWord before' after' <;> decide
  · simp only [hsigma, if_false, false_implies]

theorem lowerBetween_eq_iff_of_before (before p q v : List Char) :
    lowerBetween (before ++ p) q v = lowerBetween before [] v ↔
      ∀ u w, v = u ++ 'Σ' :: w →
        endsWord (u.reverse ++ before) w = endsWord (u.reverse ++ (before ++ p)) (w ++ q) := by
  induction v generalizing before with
  | nil => simp [lowerBetween]
  | cons c v ih =>
    have hparts : lowerBetween (before ++ p) q (c :: v) = lowerBetween before [] (c :: v) ↔
        lowerChar (before ++ p) c (v ++ q) = lowerChar before c v ∧
          lowerBetween (c :: before ++ p) q v = lowerBetween (c :: before) [] v := by
      rw [lowerBetween, lowerBetween, List.append_nil]
      constructor
      · intro h
        exact List.append_inj h (by rw [length_lowerChar, length_lowerChar])
      · rintro ⟨hchar, hrest⟩
        rw [hchar, ← hrest]
        rfl
    rw [hparts, lowerChar_eq_iff, ih]
    constructor
    · rintro ⟨hfirst, hrest⟩ u w heq
      cases u with
      | nil =>
        obtain ⟨rfl, rfl⟩ := List.cons.inj heq
        exact (hfirst rfl).symm
      | cons d u =>
        obtain ⟨rfl, hv⟩ := List.cons.inj heq
        have hsame := hrest u w hv
        simpa using hsame
    · intro h
      constructor
      · rintro rfl
        exact (h [] v rfl).symm
      · intro u w hv
        have hsame := h (c :: u) w (by rw [hv]; rfl)
        simpa using hsame

/-- **A part is lowered in its place as it is alone** unless a capital sigma of it is displaced. -/
theorem lowerBetween_eq_iff (p v q : List Char) :
    lowerBetween p.reverse q v = lowerBetween [] [] v ↔ ¬ Displaces p v q := by
  have h := lowerBetween_eq_iff_of_before [] p.reverse q v
  simp only [List.nil_append, List.append_nil] at h
  rw [h]
  unfold Displaces
  push Not
  rfl

/-! ### Numerals -/

theorem lowerChar_eq_self (h : c.toNat < 65) : lowerChar before c after = [c] := by
  have hsigma : c ≠ 'Σ' := by
    rintro rfl
    exact absurd h (by decide)
  have hdotted : c ≠ 'İ' := by
    rintro rfl
    exact absurd h (by decide)
  unfold lowerChar lowerPartner
  rw [if_neg hsigma, if_neg hdotted, if_pos (by omega), toLower_eq_self h]

theorem lowerBetween_eq_self (h : ∀ c ∈ cs, c.toNat < 65) : lowerBetween before after cs = cs := by
  induction cs generalizing before with
  | nil => rfl
  | cons c cs ih =>
    rw [lowerBetween, lowerChar_eq_self (h c List.mem_cons_self),
      ih fun c hc => h c (List.mem_cons_of_mem _ hc)]
    rfl

/-- A numeral has no letters to lower. -/
theorem lowercase_ofInt (i : Int) : lowercase (ofInt i) = ofInt i := by
  refine String.toList_injective ?_
  rw [toList_lowercase]
  refine lowerBetween_eq_self fun c hc => ?_
  rw [ofInt, String.toList_ofList] at hc
  exact toNat_lt_of_mem_numeral hc

end RecordFilters.Text
