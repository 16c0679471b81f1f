import Mathlib

/-! # Taking results apart

When a chain of checks succeeds, each of them does. These lemmas take a chain in `Except` apart at
its ends, so that no proof about a check has to open the monad. -/

namespace RecordFilters

variable {ε ε' α β : Type}

theorem bind_eq_ok_iff {x : Except ε α} {f : α → Except ε β} {b : β} :
    x >>= f = .ok b ↔ ∃ a, x = .ok a ∧ f a = .ok b := by
  cases x with
  | error e => simp [bind, Except.bind]
  | ok a => simp [bind, Except.bind]

theorem map_eq_ok_iff {x : Except ε α} {f : α → β} {b : β} :
    x.map f = .ok b ↔ ∃ a, x = .ok a ∧ f a = b := by
  cases x <;> simp [Except.map]

theorem map_eq_error_iff {x : Except ε α} {f : α → β} {e : ε} :
    x.map f = .error e ↔ x = .error e := by
  cases x <;> simp [Except.map]

theorem mapError_eq_ok_iff {x : Except ε α} {f : ε → ε'} {a : α} :
    x.mapError f = .ok a ↔ x = .ok a := by
  cases x <;> simp [Except.mapError]

/-- A check that guards what follows it. -/
theorem guarded_eq_ok_iff {c : Prop} [Decidable c] {error : ε} {k : Unit → Except ε α} {a : α} :
    (if c then throw error >>= k else k ()) = .ok a ↔ ¬ c ∧ k () = .ok a := by
  by_cases h : c
  · simp [h, throw, throwThe, MonadExceptOf.throw, bind, Except.bind]
  · simp [h]

/-- What is read off a list comes of one of its members. -/
theorem exists_of_mem_mapM {f : α → Except ε β} {l : List α} {l' : List β} {b : β}
    (h : l.mapM f = .ok l') (hb : b ∈ l') : ∃ a ∈ l, f a = .ok b := by
  induction l generalizing l' with
  | nil =>
    cases h
    cases hb
  | cons a l ih =>
    rw [List.mapM_cons] at h
    obtain ⟨first, hfirst, h⟩ := bind_eq_ok_iff.1 h
    obtain ⟨rest, hrest, h⟩ := bind_eq_ok_iff.1 h
    cases h
    rcases List.mem_cons.1 hb with rfl | hb
    · exact ⟨a, List.mem_cons_self, hfirst⟩
    · obtain ⟨a', ha', h⟩ := ih hrest hb
      exact ⟨a', List.mem_cons_of_mem _ ha', h⟩

/-- Where something is read off a list, something is read off each of its members. -/
theorem exists_ok_of_mapM {f : α → Except ε β} {l : List α} {l' : List β} {a : α}
    (h : l.mapM f = .ok l') (ha : a ∈ l) : ∃ b, f a = .ok b := by
  induction l generalizing l' with
  | nil => cases ha
  | cons first l ih =>
    rw [List.mapM_cons] at h
    obtain ⟨b, hb, h⟩ := bind_eq_ok_iff.1 h
    obtain ⟨rest, hrest, -⟩ := bind_eq_ok_iff.1 h
    rcases List.mem_cons.1 ha with rfl | ha
    · exact ⟨b, hb⟩
    · exact ih hrest ha

/-- What is found in a list is found in one of its members. -/
theorem exists_of_mem_mapM? {f : α → Option β} {l : List α} {l' : List β} {b : β}
    (h : l.mapM f = some l') (hb : b ∈ l') : ∃ a ∈ l, f a = some b := by
  induction l generalizing l' with
  | nil =>
    cases h
    cases hb
  | cons a l ih =>
    rw [List.mapM_cons] at h
    obtain ⟨first, hfirst, h⟩ := Option.bind_eq_some_iff.1 h
    obtain ⟨rest, hrest, h⟩ := Option.bind_eq_some_iff.1 h
    cases h
    rcases List.mem_cons.1 hb with rfl | hb
    · exact ⟨a, List.mem_cons_self, hfirst⟩
    · obtain ⟨a', ha', h⟩ := ih hrest hb
      exact ⟨a', List.mem_cons_of_mem _ ha', h⟩

/-- A reader that leaves what it has read as it is does so with a list. -/
theorem mapM_of_mapM {f : α → Except ε α} {l l' : List α}
    (hf : ∀ a ∈ l, ∀ b, f a = .ok b → f b = .ok b) (h : l.mapM f = .ok l') : l'.length = l.length ∧ l'.mapM f = .ok l' := by
  induction l generalizing l' with
  | nil =>
    cases h
    exact ⟨rfl, rfl⟩
  | cons a l ih =>
    rw [List.mapM_cons] at h
    obtain ⟨b, hb, h⟩ := bind_eq_ok_iff.1 h
    obtain ⟨r, hr, h⟩ := bind_eq_ok_iff.1 h
    cases h
    obtain ⟨hlength, hrest⟩ := ih (fun c hc => hf c (List.mem_cons_of_mem _ hc)) hr
    refine ⟨congrArg (· + 1) hlength, ?_⟩
    rw [List.mapM_cons, hf a List.mem_cons_self b hb, hrest]
    rfl

/-- A reader that is followed by another on each member is followed by it on the list. -/
theorem mapM_eq_some_of_mapM_eq_ok {f : α → Except ε β} {g : α → Option β} {l : List α}
    {l' : List β} (hfg : ∀ a b, f a = .ok b → g a = some b) (h : l.mapM f = .ok l') :
    l.mapM g = some l' := by
  induction l generalizing l' with
  | nil =>
    cases h
    rfl
  | cons a l ih =>
    rw [List.mapM_cons] at h
    obtain ⟨b, hb, h⟩ := bind_eq_ok_iff.1 h
    obtain ⟨r, hr, h⟩ := bind_eq_ok_iff.1 h
    cases h
    rw [List.mapM_cons, hfg a b hb, ih hr]
    rfl

end RecordFilters
