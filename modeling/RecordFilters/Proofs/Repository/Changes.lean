import RecordFilters.Repository.Basic

/-! # Changes of repositories

A repository changes its filters in memory before it writes them, and takes a change that cannot be
written back by another change. That one is the inverse of the first, so that a change as a whole
puts another set of filters in place or leaves the old one.

* `Index.erase_insert_of_fresh`, `Index.insert_insert_of_get?`, `Index.insert_erase_of_get?`: how
  the entries of a collection are undone.
* `Repository.commit`: a change as a whole.
* `Repository.insert_eq_commit`, `Repository.save_eq_commit`, `Repository.remove_eq_commit`: each of
  the changes is one. -/

namespace RecordFilters

namespace Index

variable {α κ : Type} [KeyOrder κ] {key : α → κ} {s : Index key} {a b : α} {k : κ}

/-- A new entry is taken out again. -/
theorem erase_insert_of_fresh (h : ¬ s.contains (key a) = true) :
    (s.insert a).erase (key a) = s := by
  refine eq_of_get?_eq fun k => ?_
  rw [get?_erase, get?_insert]
  split
  next hk =>
    unfold contains at h
    rw [hk]
    exact (Option.not_isSome_iff_eq_none.1 h).symm
  next => rfl

/-- An entry is put back in its place. -/
theorem insert_insert_of_get? (h : s.get? (key a) = some b) : (s.insert a).insert b = s := by
  have hkey : key b = key a := key_of_get? h
  refine eq_of_get?_eq fun k => ?_
  rw [get?_insert, get?_insert, hkey]
  split
  next hk => rw [hk, h]
  next => rfl

/-- An entry that has been taken out is put back. -/
theorem insert_erase_of_get? (h : s.get? k = some a) : (s.erase k).insert a = s := by
  have hkey : key a = k := key_of_get? h
  refine eq_of_get?_eq fun j => ?_
  rw [get?_insert, get?_erase, hkey]
  split
  next hj => rw [hj, h]
  next => rfl

end Index

namespace Repository

variable {r : Repository} {path : Path} {d : Disk}

/-- Puts another set of filters in place. If it cannot be written, the old set stays. -/
def commit {α : Type} (r : Repository) (filters : FilterSet) (answer : α) :
    Except RepositoryError α × Repository :=
  match persist { r with filters := filters } with
  | (true, s) => (.ok answer, s)
  | (false, s) => (.error .io, { s with filters := r.filters })

/-- In memory every change is kept. -/
theorem commit_of_memory {α : Type} (h : r.backing = none) (filters : FilterSet) (a : α) :
    r.commit filters a = (.ok a, { r with filters := filters }) := by
  unfold commit persist
  rw [h]

/-- A set of filters is put in place together with its document, or neither is. -/
theorem commit_of_backing {α : Type} (hbacking : r.backing = some ⟨path, d⟩) (filters : FilterSet)
    (a : α) : r.commit filters a =
      match d.replace path (.document filters.toJson) with
      | (true, d') => (.ok a, { r with filters := filters, backing := some ⟨path, d'⟩ })
      | (false, d') => (.error .io, { r with backing := some ⟨path, d'⟩ }) := by
  unfold commit persist
  simp only [hbacking]
  rcases d.replace path (.document filters.toJson) with ⟨_ | _, d'⟩ <;> rfl

/-- **A change whose undoing brings the old filters back** is one as a whole. -/
theorem keepOrUndo_eq_commit {α : Type} {filters : FilterSet} {a : α}
    {undo : α → Repository → Repository}
    (h : ∀ s : Repository, s.filters = filters → undo a s = { s with filters := r.filters }) :
    keepOrUndo (.ok a, { r with filters := filters }) undo = r.commit filters a := by
  have kept : (persist { r with filters := filters }).2.filters = filters := filters_persist _
  unfold keepOrUndo commit
  dsimp only
  generalize persist { r with filters := filters } = written at kept ⊢
  obtain ⟨done, s⟩ := written
  cases done with
  | true => rfl
  | false =>
    dsimp only
    rw [h s kept]

/-- An added filter is undone by taking it out. -/
theorem insert_eq_commit (r : Repository) (f : Filter) : r.insert f =
    if r.contains f.id then (.error (.duplicateId f.id), r)
    else r.commit (r.filters.insert f) () := by
  unfold insert insertInMemory
  split
  next => rfl
  next hfresh =>
    refine keepOrUndo_eq_commit fun s hs => ?_
    have hfound : s.get? f.id = some f := by
      rw [get?, hs, Index.get?_insert, if_pos rfl]
    unfold removeInMemory
    rw [hfound]
    dsimp only
    rw [hs, Index.erase_insert_of_fresh hfresh]

/-- A replaced filter is undone by putting it back in its place. -/
theorem save_eq_commit (r : Repository) (f : Filter) : r.save f =
    if r.contains f.id then r.commit (r.filters.insert f) ()
    else (.error (.notFound f.id), r) := by
  unfold save saveInMemory contains Index.contains get?
  cases hprevious : r.filters.get? f.id with
  | none => rfl
  | some previous =>
    simp only [Option.isSome_some, if_true]
    refine keepOrUndo_eq_commit fun s hs => ?_
    have hkey : previous.id = f.id := Index.key_of_get? hprevious
    have hfound : (s.filters.get? previous.id).isSome = true := by
      rw [hs, hkey, Index.get?_insert, if_pos rfl]
      rfl
    rw [if_pos hfound, hs, Index.insert_insert_of_get? hprevious]

/-- A filter that has been taken out is undone by adding it. -/
theorem remove_eq_commit (r : Repository) (id : FilterId) : r.remove id =
    match r.get? id with
    | some f => r.commit (r.filters.erase id) f
    | none => (.error (.notFound id), r) := by
  unfold remove removeInMemory
  cases hfound : r.get? id with
  | none => rfl
  | some f =>
    refine keepOrUndo_eq_commit fun s hs => ?_
    have hkey : f.id = id := Index.key_of_get? hfound
    have hfree : ¬ s.contains f.id = true := by
      unfold contains
      rw [hs, hkey, Index.contains_erase]
      exact fun h => h.1 rfl
    unfold insertInMemory
    rw [if_neg hfree]
    dsimp only
    rw [hs, Index.insert_erase_of_get? hfound]

end Repository

end RecordFilters
