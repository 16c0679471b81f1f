import RecordFilters.Proofs.Engine.Candidate
import RecordFilters.Proofs.Repository.Consistency
import RecordFilters.Proofs.Text.Digits

/-! # New ids

One sequence of numbers serves the new ids of all prefixes and entity types. A number whose id is
taken is passed over, and no number is drawn twice. The number is what stands after the last dash of
an id, so ids with different numbers differ, whatever stands before it.

* `Repository.numberedId_inj`: the number is told by the id.
* `Repository.Draws`: the loop that draws the numbers, over a sequence of 64 bits.
* `Repository.nextId_spec`: which number is drawn; `Repository.draws_nextId`: the loop ends with it.
* `Repository.newIds_of_run`: the ids that a repository has handed out are all different, each was
  free when it was drawn, and no loop has drawn more often than there were filters, and once. -/

namespace RecordFilters

/-! ### Numbers in ids -/

namespace Text

theorem takeWhile_append_dash {cs r : List Char} (h : '-' ∉ cs) :
    (cs ++ '-' :: r).takeWhile (· ≠ '-') = cs := by
  rw [List.takeWhile_append_of_pos, List.takeWhile_cons_of_neg (by decide), List.append_nil]
  rintro c hc
  refine decide_eq_true ?_
  rintro rfl
  exact h hc

/-- Two texts that are the same have the same behind their last dash. -/
theorem eq_of_append_dash_eq {a b cs ds : List Char} (hcs : '-' ∉ cs) (hds : '-' ∉ ds)
    (h : a ++ '-' :: cs = b ++ '-' :: ds) : cs = ds := by
  have hreversed : cs.reverse ++ '-' :: a.reverse = ds.reverse ++ '-' :: b.reverse := by
    simpa using congrArg List.reverse h
  have hfront := congrArg (List.takeWhile (· ≠ '-')) hreversed
  rw [takeWhile_append_dash (mt List.mem_reverse.1 hcs),
    takeWhile_append_dash (mt List.mem_reverse.1 hds)] at hfront
  exact List.reverse_injective hfront

end Text

namespace Repository

variable {r : Repository} {idPrefix entityType : String}

/-- **Ids with different numbers differ**, also under different prefixes and entity types. -/
theorem numberedId_inj {idPrefix' entityType' : String} {n m : Nat}
    (h : numberedId idPrefix entityType n = numberedId idPrefix' entityType' m) : n = m := by
  have hdash : "-".toList = ['-'] := rfl
  have hchars := congrArg String.toList h
  simp only [numberedId, Text.ofNat, String.toList_append, String.toList_ofList, hdash,
    List.append_assoc, List.singleton_append] at hchars
  simp only [← List.append_assoc] at hchars
  exact Text.digits_inj
    (Text.eq_of_append_dash_eq (Text.dash_notMem_digits n) (Text.dash_notMem_digits m) hchars)

/-! ### One draw after the other -/

/-- The loop that draws numbers until one makes an id that is not taken: where its sequence stands
before, how often it draws, the id, and where the sequence stands then. -/
inductive Draws (r : Repository) (idPrefix entityType : String) :
    UInt64 → Nat → FilterId → UInt64 → Prop
  | free {sequence : UInt64}
      (free : r.contains (numberedId idPrefix entityType (sequence + 1).toNat) = false) :
      Draws r idPrefix entityType sequence 1
        (numberedId idPrefix entityType (sequence + 1).toNat) (sequence + 1)
  | taken {sequence last : UInt64} {draws : Nat} {id : FilterId}
      (taken : r.contains (numberedId idPrefix entityType (sequence + 1).toNat) = true)
      (next : Draws r idPrefix entityType (sequence + 1) draws id last) :
      Draws r idPrefix entityType sequence (draws + 1) id last

/-- The loop passes over the numbers that are taken and ends with the first that is free, if the
sequence has room for it. -/
theorem draws_of_taken {n m : Nat} (hlt : n < m) (hroom : m < 2 ^ 64)
    (htaken : ∀ i, n < i → i < m → r.isFree idPrefix entityType i = false)
    (hfree : r.isFree idPrefix entityType m = true) :
    r.Draws idPrefix entityType (.ofNat n) (m - n) (numberedId idPrefix entityType m)
      (.ofNat m) := by
  have hnext : UInt64.ofNat n + 1 = .ofNat (n + 1) := by simp
  have hnumber : (UInt64.ofNat (n + 1)).toNat = n + 1 :=
    UInt64.toNat_ofNat_of_lt' (lt_of_le_of_lt hlt hroom)
  by_cases hnow : n + 1 = m
  · have hfirst : r.contains (numberedId idPrefix entityType (UInt64.ofNat n + 1).toNat) =
        false := by
      rw [hnext, hnumber, hnow]
      simpa [isFree] using hfree
    have hdraws := Draws.free hfirst
    rw [hnext, hnumber, hnow] at hdraws
    rw [show m - n = 1 by omega]
    exact hdraws
  · have hfirst : r.contains (numberedId idPrefix entityType (UInt64.ofNat n + 1).toNat) =
        true := by
      rw [hnext, hnumber]
      simpa [isFree] using htaken (n + 1) (by omega) (by omega)
    rw [show m - n = m - (n + 1) + 1 by omega]
    refine .taken hfirst ?_
    rw [hnext]
    exact draws_of_taken (by omega) hroom (fun i hi => htaken i (by omega)) hfree
  termination_by m - n

/-- Among as many numbers as there are filters, and one more, some number is free. -/
theorem exists_isFree (r : Repository) (idPrefix entityType : String) (n : Nat) :
    ∃ m ∈ List.range' n (r.filters.size + 1), r.isFree idPrefix entityType m = true := by
  by_contra hnone
  push Not at hnone
  have hsub : (List.range' n (r.filters.size + 1)).map (numberedId idPrefix entityType) ⊆
      r.filters.keys := by
    intro id hid
    obtain ⟨m, hm, rfl⟩ := List.mem_map.1 hid
    have htaken : r.filters.contains (numberedId idPrefix entityType m) = true := by
      simpa [isFree, contains] using hnone m hm
    obtain ⟨f, hf, hkey⟩ := Index.contains_iff.1 htaken
    exact List.mem_map.2 ⟨f, hf, hkey⟩
  have hnodup : ((List.range' n (r.filters.size + 1)).map (numberedId idPrefix entityType)).Nodup :=
    List.Nodup.map (fun _ _ => numberedId_inj) List.nodup_range'
  have hle := (hnodup.subperm hsub).length_le
  simp [Index.keys, Index.size] at hle

/-- **Which number is drawn**: the first free one behind those that have been drawn. -/
theorem nextId_spec (r : Repository) (idPrefix entityType : String) :
    ∃ n, r.drawn < n ∧ n ≤ r.drawn + (r.filters.size + 1) ∧
      (∀ i, r.drawn < i → i < n → r.isFree idPrefix entityType i = false) ∧
      r.isFree idPrefix entityType n = true ∧
      r.nextId idPrefix entityType = (numberedId idPrefix entityType n, { r with drawn := n }) := by
  obtain ⟨m, hm, hfree⟩ := r.exists_isFree idPrefix entityType (r.drawn + 1)
  unfold nextId
  cases hfind : (List.range' (r.drawn + 1) (r.filters.size + 1)).find?
      (r.isFree idPrefix entityType) with
  | none => exact absurd hfree (List.find?_eq_none.1 hfind m hm)
  | some n =>
    obtain ⟨hn, hmem, hfirst⟩ := List.find?_range'_eq_some.1 hfind
    obtain ⟨hlow, hhigh⟩ := List.mem_range'_1.1 hmem
    refine ⟨n, by omega, by omega, fun i hi hlt => ?_, hn, ?_⟩
    · simpa using hfirst i hi hlt
    · simp only [hfind, Option.getD_some]

/-- A new id is not taken. -/
theorem contains_nextId (r : Repository) (idPrefix entityType : String) :
    r.contains (r.nextId idPrefix entityType).1 = false := by
  obtain ⟨n, -, -, -, hfree, heq⟩ := r.nextId_spec idPrefix entityType
  rw [heq]
  simpa [isFree] using hfree

/-- **The loop ends** after at most one draw more than there are filters. -/
theorem draws_nextId (hroom : (r.nextId idPrefix entityType).2.drawn < 2 ^ 64) :
    ∃ draws ≤ r.filters.size + 1,
      r.Draws idPrefix entityType (.ofNat r.drawn) draws (r.nextId idPrefix entityType).1
        (.ofNat (r.nextId idPrefix entityType).2.drawn) := by
  obtain ⟨n, hlow, hhigh, htaken, hfree, heq⟩ := r.nextId_spec idPrefix entityType
  rw [heq] at hroom ⊢
  exact ⟨n - r.drawn, by omega, draws_of_taken hlow hroom htaken hfree⟩

end Repository

/-! ### Runs -/

/-- What happens to a repository: a new id is drawn, or the filters are changed. -/
inductive RepositoryStep
  | nextId (idPrefix entityType : String)
  | change (c : RepositoryChange)

variable {r : Repository}

namespace Repository

/-- The repository after a step. -/
def step (r : Repository) : RepositoryStep → Repository
  | .nextId idPrefix entityType => (r.nextId idPrefix entityType).2
  | .change c => (r.perform c).2

/-- The repository after some steps. -/
def steps (r : Repository) (l : List RepositoryStep) : Repository := l.foldl step r

/-- The new ids that are drawn in some steps, in order. -/
def idsDrawn (r : Repository) : List RepositoryStep → List FilterId
  | [] => []
  | .nextId idPrefix entityType :: l =>
    (r.nextId idPrefix entityType).1 :: idsDrawn (r.nextId idPrefix entityType).2 l
  | .change c :: l => idsDrawn (r.perform c).2 l

theorem drawn_commit {α : Type} (r : Repository) (filters : FilterSet) (a : α) :
    (r.commit filters a).2.drawn = r.drawn := by
  cases hbacking : r.backing with
  | none => rw [commit_of_memory hbacking]
  | some b =>
    obtain ⟨path, disk⟩ := b
    rw [commit_of_backing hbacking]
    split <;> rfl

/-- A change draws no number. -/
theorem drawn_perform (r : Repository) (c : RepositoryChange) :
    (r.perform c).2.drawn = r.drawn := by
  rcases r.perform_cases c with ⟨e, -, hperform⟩ | ⟨filters, answer, -, hperform, -⟩
  · rw [hperform]
  · rw [hperform]
    exact drawn_commit ..

theorem drawn_lt_nextId (r : Repository) (idPrefix entityType : String) :
    r.drawn < (r.nextId idPrefix entityType).2.drawn := by
  obtain ⟨n, hlow, -, -, -, heq⟩ := r.nextId_spec idPrefix entityType
  rw [heq]
  exact hlow

theorem drawn_le_step (r : Repository) (s : RepositoryStep) : r.drawn ≤ (r.step s).drawn := by
  cases s with
  | nextId idPrefix entityType => exact (r.drawn_lt_nextId idPrefix entityType).le
  | change c => exact (r.drawn_perform c).ge

theorem drawn_le_steps (r : Repository) (l : List RepositoryStep) :
    r.drawn ≤ (r.steps l).drawn := by
  induction l generalizing r with
  | nil => exact le_rfl
  | cons s l ih => exact (r.drawn_le_step s).trans (ih (r.step s))

/-- The numbers of the ids that are drawn lie behind those that have been drawn before. -/
theorem exists_number_of_mem_idsDrawn {id : FilterId} {l : List RepositoryStep}
    (h : id ∈ r.idsDrawn l) :
    ∃ idPrefix entityType n, r.drawn < n ∧ id = numberedId idPrefix entityType n := by
  induction l generalizing r with
  | nil => cases h
  | cons s l ih =>
    cases s with
    | nextId idPrefix entityType =>
      obtain ⟨n, hlow, -, -, -, heq⟩ := r.nextId_spec idPrefix entityType
      unfold idsDrawn at h
      rw [heq] at h
      rcases List.mem_cons.1 h with rfl | h
      · exact ⟨idPrefix, entityType, n, hlow, rfl⟩
      · obtain ⟨idPrefix', entityType', m, hm, hid⟩ := ih h
        exact ⟨idPrefix', entityType', m, hlow.trans hm, hid⟩
    | change c =>
      obtain ⟨idPrefix, entityType, n, hn, hid⟩ := ih (r := (r.perform c).2) h
      rw [drawn_perform] at hn
      exact ⟨idPrefix, entityType, n, hn, hid⟩

/-- **No id is drawn twice.** -/
theorem nodup_idsDrawn (r : Repository) (l : List RepositoryStep) : (r.idsDrawn l).Nodup := by
  induction l generalizing r with
  | nil => exact List.nodup_nil
  | cons s l ih =>
    cases s with
    | nextId idPrefix entityType =>
      obtain ⟨n, -, -, -, -, heq⟩ := r.nextId_spec idPrefix entityType
      refine List.nodup_cons.2 ⟨fun hmem => ?_, ih _⟩
      obtain ⟨idPrefix', entityType', m, hm, hid⟩ := exists_number_of_mem_idsDrawn hmem
      rw [heq] at hm hid
      exact absurd (numberedId_inj hid) hm.ne
    | change c => exact ih _

end Repository

/-! ### Filters without an id of their own -/

/-- Only an id that is taken is refused as a duplicate. -/
theorem Repository.insert_ne_duplicateId {f : Filter} {id : FilterId}
    (hfresh : r.contains f.id = false) : (r.insert f).1 ≠ .error (.duplicateId id) := by
  rw [insert_eq_commit, if_neg (Bool.eq_false_iff.1 hfresh)]
  unfold commit
  split <;> nofun

namespace Engine

variable {e : Engine} {u : ActingUser} {request : FilterRequest} {id : FilterId}

/-- The id that is chosen for a request without one is not taken. -/
theorem contains_chooseId (hid : request.id = none) :
    (e.chooseId request).2.repository.contains (e.chooseId request).1 = false := by
  unfold chooseId
  rw [hid]
  exact e.repository.contains_nextId e.config.filterIdPrefix request.entityType

/-- **A filter whose id is drawn is no duplicate.** -/
theorem create_ne_duplicateId (hid : request.id = none) :
    (e.create u request).1 ≠ .error (.repository (.duplicateId id)) := by
  have hfresh := contains_chooseId (e := e) hid
  unfold create
  generalize e.chooseId request = chosen at hfresh ⊢
  obtain ⟨new, e'⟩ := chosen
  dsimp only at hfresh ⊢
  rw [if_neg (Bool.eq_false_iff.1 hfresh)]
  cases hprepared : e'.prepareCreate u new request with
  | error => nofun
  | ok f =>
    rw [← (created_of_prepareCreate hprepared).id] at hfresh
    have hinsert : (e'.repository.insert f).1 ≠ .error (.duplicateId id) :=
      Repository.insert_ne_duplicateId hfresh
    dsimp only
    generalize e'.repository.insert f = change at hinsert ⊢
    obtain ⟨_ | _, _⟩ := change
    · rintro ⟨⟩
      exact hinsert rfl
    · nofun

end Engine

namespace Repository

/-- **New ids are new for good.** However drawing is mixed with changes of the filters, as long as
the sequence has room: every loop ends after at most one draw more than there are filters then, with
an id that none of them has; all ids that are drawn are different, whatever the prefixes and entity
types and whatever has been taken out; and no request for a filter without an id is refused for a
duplicate. -/
theorem newIds_of_run (r : Repository) (l : List RepositoryStep)
    (hroom : (r.steps l).drawn < 2 ^ 64) :
    (∀ before idPrefix entityType after, l = before ++ .nextId idPrefix entityType :: after →
      let now := r.steps before
      (∃ draws ≤ now.filters.size + 1,
        now.Draws idPrefix entityType (.ofNat now.drawn) draws (now.nextId idPrefix entityType).1
          (.ofNat (now.nextId idPrefix entityType).2.drawn)) ∧
        now.contains (now.nextId idPrefix entityType).1 = false) ∧
    (r.idsDrawn l).Nodup ∧
    ∀ (e : Engine) (u : ActingUser) (request : FilterRequest) (id : FilterId), request.id = none →
      (e.create u request).1 ≠ .error (.repository (.duplicateId id)) := by
  refine ⟨?_, r.nodup_idsDrawn l, fun _ _ _ _ => Engine.create_ne_duplicateId⟩
  rintro before idPrefix entityType after rfl now
  refine ⟨draws_nextId (lt_of_le_of_lt ?_ hroom), now.contains_nextId idPrefix entityType⟩
  unfold steps
  rw [List.foldl_append]
  exact drawn_le_steps _ after

/-- A repository with a filter whose id looks like a new one. -/
def numberedGuests : Repository where
  filters := .ofList [{
    id := "f_p-1", name := "Guests", entityType := "P"
    conditions := [.onProperty "vip" true], conditions_ne_nil := Condition.onProperty_ne_nil _ _ }]

/-- New ids are drawn for two prefixes and two entity types, and the filter is taken out between. -/
def drawsAndRemoves : List RepositoryStep :=
  [.nextId "f" "P", .change (.remove "f_p-1"), .nextId "f" "P", .nextId "g" "Q"]

theorem newIds_of_run_numberedGuests :
    (numberedGuests.steps drawsAndRemoves).drawn < 2 ^ 64 ∧
      numberedGuests.idsDrawn drawsAndRemoves = ["f_p-2", "f_p-3", "g_q-4"] ∧
      (numberedGuests.idsDrawn drawsAndRemoves).Nodup ∧
      ∃ draws ≤ 2, numberedGuests.Draws "f" "P" 0 draws "f_p-2" 2 := by
  have hdrawn : (numberedGuests.steps drawsAndRemoves).drawn = 4 := by cbv
  have hroom : (numberedGuests.steps drawsAndRemoves).drawn < 2 ^ 64 := by
    rw [hdrawn]
    decide
  obtain ⟨hloops, hnodup, -⟩ := newIds_of_run numberedGuests drawsAndRemoves hroom
  refine ⟨hroom, by cbv, hnodup, ?_⟩
  obtain ⟨hdraws, -⟩ := hloops [] "f" "P" _ rfl
  have hstart : numberedGuests.steps [] = numberedGuests := rfl
  have hsize : numberedGuests.filters.size = 1 := by cbv
  have hid : (numberedGuests.nextId "f" "P").1 = "f_p-2" := by cbv
  have hlast : (numberedGuests.nextId "f" "P").2.drawn = 2 := by cbv
  rw [hstart, hsize, hid, hlast] at hdraws
  exact hdraws

end Repository

end RecordFilters
