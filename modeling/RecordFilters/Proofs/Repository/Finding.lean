import RecordFilters.Proofs.Engine.Installing
import RecordFilters.Proofs.Filter.Stored
import RecordFilters.Proofs.Json.Reading

/-! # What a repository finds in its file

Whoever has written the file, and however, the filters that a repository finds there can be stored:
their numbers are finite and their objects are in order.

* `Json.Outline.isHereditary_inBounds`: what is read from a text, part by part, is regular.
* `Json.inBounds_of_reread?`: so is what is read where a document has been written.
* `Repository.isStorable_of_openAt`: the filters of a repository that has just been opened. -/

namespace RecordFilters

open Document

/-! ### Texts -/

namespace Json.Outline

/-- The members of an object are members of its outline. -/
theorem exists_of_mem_members? {o : Outline} {l : List (String × Outline)}
    (h : o.members? = some l) {m : String × Outline} (hm : m ∈ l) :
    ∃ members, o = .object members ∧ ∃ m' ∈ members, m'.2 = m.2 := by
  cases o with
  | object members =>
    obtain ⟨⟨name, o⟩, hmem, hread⟩ := exists_of_mem_mapM? h hm
    obtain ⟨name', -, rfl⟩ := Option.map_eq_some_iff.1 hread
    exact ⟨members, rfl, (name, o), hmem, rfl⟩
  | _ => cases h

theorem isHereditary_inBounds : IsHereditary Outline.InBounds where
  of_mem_parts? {names o parts} ho hparts m hm := by
    have of_members : o.members?.bind (Parts.named? names) = some parts → m.2.InBounds := by
      intro h
      obtain ⟨l, hl, h⟩ := Option.bind_eq_some_iff.1 h
      obtain ⟨members, rfl, m', hm', heq⟩ :=
        exists_of_mem_members? hl (Parts.mem_of_mem_named? h hm)
      cases ho with
      | object hmembers => exact heq ▸ hmembers m' hm'
    cases ho with
    | array hitems => exact hitems m.2 (Parts.mem_of_mem_ofItems? hparts hm)
    | _ => exact of_members hparts
  of_mem_items? ho hitems ha := by
    cases ho with
    | array hmembers =>
      cases hitems
      exact hmembers _ ha
    | _ => cases hitems
  isRegular_of_json? ho hj := by
    obtain ⟨j', hj', rfl⟩ := Option.map_eq_some_iff.1 hj
    exact (ho.inBounds_of_json? hj').isRegular

end Json.Outline

/-! ### Written documents -/

namespace Json

theorem rereadItems?_eq_mapM (l : List Json) : rereadItems? l = l.mapM rereadTree? := by
  induction l with
  | nil => rfl
  | cons j r ih =>
    rw [rereadItems?, ih, List.mapM_cons]
    rfl

theorem rereadMembers?_eq_mapM (l : List (String × Json)) :
    rereadMembers? l = l.mapM fun m => (rereadTree? m.2).map (m.1, ·) := by
  induction l with
  | nil => rfl
  | cons m r ih =>
    obtain ⟨name, j⟩ := m
    rw [rereadMembers?, ih, List.mapM_cons]
    cases rereadTree? j <;> rfl

/-- What is read where a tree has been written has its bounds. -/
theorem inBounds_of_rereadTree? {j j' : Json} (h : j.InBounds) (hread : j.rereadTree? = some j') :
    j'.InBounds := by
  induction h generalizing j' with
  | null => cases hread; exact .null
  | bool b => cases hread; exact .bool b
  | string s => cases hread; exact .string s
  | whole hleast hmost => cases hread; exact .whole hleast hmost
  | real n =>
    rw [rereadTree?, rereadNumber?] at hread
    split at hread
    · exact inBounds_of_readNumeral (Option.join_eq_some_iff.1 hread)
    · cases hread
      exact .null
  | array _ ih =>
    rw [rereadTree?, rereadItems?_eq_mapM] at hread
    obtain ⟨items, hitems, rfl⟩ := Option.map_eq_some_iff.1 hread
    refine .array fun d hd => ?_
    obtain ⟨d', hd', hread⟩ := exists_of_mem_mapM? hitems hd
    exact ih d' hd' hread
  | object _ ih =>
    rw [rereadTree?, rereadMembers?_eq_mapM] at hread
    obtain ⟨members, hmembers, rfl⟩ := Option.map_eq_some_iff.1 hread
    refine .object fun m hm => ?_
    obtain ⟨m', hm', hread⟩ := exists_of_mem_mapM? hmembers hm
    obtain ⟨d, hd, rfl⟩ := Option.map_eq_some_iff.1 hread
    exact ih m' hm' hd

theorem inBounds_of_reread? {j j' : Json} (h : j.InBounds) (hread : j.reread? = some j') :
    j'.InBounds := by
  unfold reread? at hread
  split at hread
  · exact inBounds_of_rereadTree? h hread
  · cases hread

end Json

/-! ### Files -/

/-- What can stand in a file: any text, or a document whose integers have 64 bits. -/
def Content.InBounds : Content → Prop
  | .text _ => True
  | .document j => j.InBounds

namespace Repository

variable {r : Repository} {disk : Disk} {path : Path} {content : Content} {s : StoredFilter}
  {stored : List StoredFilter} {f : Filter}

theorem isStorable_of_storedFilters? (hcontent : content.InBounds)
    (h : storedFilters? content = some stored) (hs : s ∈ stored) (hf : Filter.ofStored s = .ok f) :
    f.IsStorable := by
  unfold storedFilters? at h
  split at h
  next =>
    cases h
    cases hs
  next =>
    cases content with
    | text text =>
      obtain ⟨o, ho, hlist⟩ := Option.bind_eq_some_iff.1 h
      obtain ⟨items, hitems, d, hd, hread⟩ := exists_of_mem_listOf? hlist hs
      have hP := Json.Outline.isHereditary_inBounds
      exact Filter.isStorable_of_isHereditary hP
        (hP.of_mem_items? (Json.inBounds_of_outline? ho) hitems hd) hread hf
    | document j =>
      obtain ⟨j', hj', hlist⟩ := Option.bind_eq_some_iff.1 h
      obtain ⟨items, hitems, d, hd, hread⟩ := exists_of_mem_listOf? hlist hs
      have hP := Json.isHereditary_inBounds
      exact Filter.isStorable_of_isHereditary hP
        (hP.of_mem_items? (Json.inBounds_of_reread? hcontent hj') hitems hd) hread hf

/-- **What is found in a file can be stored.** -/
theorem isStorable_of_openAt
    (hcontent : ∀ content, disk.entry? path = some (.file content) → content.InBounds)
    (hopen : openAt disk path = .ok r) : ∀ f ∈ r.filters, f.IsStorable := by
  intro f hf
  unfold openAt at hopen
  split at hopen
  next =>
    cases hopen
    exact absurd hf Index.not_mem_empty
  next => cases hopen
  next content hentry =>
    split at hopen
    next => cases hopen
    next stored hstored =>
      obtain ⟨filters, hfilters, hopen⟩ := bind_eq_ok_iff.1 hopen
      obtain ⟨r', hr', hopen⟩ := bind_eq_ok_iff.1 hopen
      cases hopen
      obtain ⟨s, hs, hread⟩ := exists_of_mem_mapM hfilters ((mem_of_ofFilters hr').1 hf)
      exact isStorable_of_storedFilters? (hcontent content hentry) hstored hs
        (mapError_eq_ok_iff.1 hread)

end Repository

end RecordFilters
