import Mathlib
import RecordFilters.Disk.Basic

/-! # Replacing a file

A document takes the place of a file by two steps: it is written beside the file and then renamed.
Whether or not a step fails, the file holds the old document or the new one.

* `Disk.SameDirectories.follow?_eq`: where paths lead depends on the directories only.
* `Disk.temporary_ne`: what is written beside a file is another file.
* `Disk.entry?_of_replace`, `Disk.entry?_of_replace_failed`: what the path of the file leads to,
  after the replacement has worked or has failed. -/

namespace RecordFilters

/-! ### Parts of paths -/

namespace Path

theorem splitSlashes_of_not_mem {cs : List Char} (h : '/' ∉ cs) : splitSlashes cs = [cs] := by
  induction cs with
  | nil => rfl
  | cons c r ih =>
    have hc : c ≠ '/' := fun hc => h (hc ▸ List.mem_cons_self)
    have hr : '/' ∉ r := fun hr => h (List.mem_cons_of_mem c hr)
    rw [splitSlashes, if_neg hc, ih hr]

/-- Characters at the end of a path belong to its last part. -/
theorem exists_splitSlashes_append (cs ending : List Char) (h : '/' ∉ ending) :
    ∃ parts last, splitSlashes cs = parts ++ [last] ∧
      splitSlashes (cs ++ ending) = parts ++ [last ++ ending] := by
  induction cs with
  | nil => exact ⟨[], [], rfl, splitSlashes_of_not_mem h⟩
  | cons c r ih =>
    obtain ⟨parts, last, hr, happend⟩ := ih
    by_cases hc : c = '/'
    · refine ⟨[] :: parts, last, ?_, ?_⟩
      · rw [splitSlashes, if_pos hc, hr, List.cons_append]
      · rw [List.cons_append, splitSlashes, if_pos hc, happend, List.cons_append]
    · rw [List.cons_append, splitSlashes, splitSlashes, if_neg hc, if_neg hc, hr, happend]
      cases parts with
      | nil => exact ⟨[], c :: last, rfl, rfl⟩
      | cons part parts => exact ⟨(c :: part) :: parts, last, rfl, rfl⟩

end Path

namespace Disk

variable {d d' : Disk} {l l' : Location} {p : Path} {e : DiskEntry} {content : Content}

/-- The temporary file stands in the directory of the file, under another name. -/
theorem exists_parts_temporary (p : Path) : ∃ parts last,
    p.parts = parts ++ [last] ∧ (temporary p).parts = parts ++ [last ++ ".tmp"] := by
  obtain ⟨parts, last, hp, htemporary⟩ :=
    Path.exists_splitSlashes_append p.toList ".tmp".toList (by decide)
  refine ⟨parts.map String.ofList, String.ofList last, ?_, ?_⟩
  · rw [Path.parts, hp, List.map_append, List.map_singleton]
  · have hname : String.ofList (last ++ ".tmp".toList) = String.ofList last ++ ".tmp" := by
      rw [String.ofList_append, String.ofList_toList]
    rw [Path.parts, temporary, String.toList_append, htemporary, List.map_append,
      List.map_singleton, hname]

/-! ### Entries -/

theorem entryAt?_of_ne_nil (h : l ≠ []) : d.entryAt? l = (d.entries.get? l).map Prod.snd := by
  cases l with
  | nil => exact absurd rfl h
  | cons => rfl

theorem entryAt?_put (h : l ≠ []) (l' : Location) :
    (d.put l e).entryAt? l' = if l' = l then some e else d.entryAt? l' := by
  by_cases hnil : l' = []
  · subst hnil
    rw [if_neg h.symm]
    rfl
  · rw [entryAt?_of_ne_nil hnil, entryAt?_of_ne_nil hnil]
    unfold put
    rw [Index.get?_insert]
    split <;> rfl

theorem entryAt?_remove (h : l ≠ []) (l' : Location) :
    (d.remove l).entryAt? l' = if l' = l then none else d.entryAt? l' := by
  by_cases hnil : l' = []
  · subst hnil
    rw [if_neg h.symm]
    rfl
  · rw [entryAt?_of_ne_nil hnil, entryAt?_of_ne_nil hnil]
    unfold remove
    rw [Index.get?_erase]
    split <;> rfl

theorem isDirectoryAt_iff : d.isDirectoryAt l = true ↔ d.entryAt? l = some .directory := by
  unfold isDirectoryAt
  split
  next h => simp [h]
  next h => exact ⟨nofun, fun h' => absurd h' h⟩

theorem ne_nil_of_isDirectoryAt (h : d.isDirectoryAt l = false) : l ≠ [] := by
  rintro rfl
  cases h

/-! ### Where paths lead -/

/-- Two disks with the same directories. -/
def SameDirectories (d d' : Disk) : Prop := ∀ l, d'.isDirectoryAt l = d.isDirectoryAt l

theorem SameDirectories.follow?_eq (h : SameDirectories d d') (l : Location)
    (parts : List String) : d'.follow? l parts = d.follow? l parts := by
  induction parts generalizing l with
  | nil => rfl
  | cons part r ih => simp only [follow?, h l, ih]

theorem SameDirectories.locate?_eq (h : SameDirectories d d') (p : Path) :
    d'.locate? p = d.locate? p := h.follow?_eq [] p.parts

/-- Files may come, go and change without a directory being lost or made. -/
theorem sameDirectories_of_entryAt? (h : d.isDirectoryAt l = false)
    (h' : d'.isDirectoryAt l = false)
    (hother : ∀ l', l' ≠ l → d'.entryAt? l' = d.entryAt? l') : SameDirectories d d' := by
  intro l'
  by_cases hl : l' = l
  · rw [hl, h, h']
  · rw [Bool.eq_iff_iff, isDirectoryAt_iff, isDirectoryAt_iff, hother l' hl]

theorem sameDirectories_put_file (h : d.isDirectoryAt l = false) :
    SameDirectories d (d.put l (.file content)) := by
  have hl := ne_nil_of_isDirectoryAt h
  refine sameDirectories_of_entryAt? h ?_ fun l' hl' => by rw [entryAt?_put hl, if_neg hl']
  unfold isDirectoryAt
  rw [entryAt?_put hl, if_pos rfl]

theorem sameDirectories_remove (h : d.isDirectoryAt l = false) :
    SameDirectories d (d.remove l) := by
  have hl := ne_nil_of_isDirectoryAt h
  refine sameDirectories_of_entryAt? h ?_ fun l' hl' => by rw [entryAt?_remove hl, if_neg hl']
  unfold isDirectoryAt
  rw [entryAt?_remove hl, if_pos rfl]

theorem follow?_append (l : Location) (parts parts' : List String) :
    d.follow? l (parts ++ parts') = (d.follow? l parts).bind (d.follow? · parts') := by
  induction parts generalizing l with
  | nil => rfl
  | cons part r ih =>
    simp only [List.cons_append, follow?]
    split_ifs <;> simp [ih]

/-- One part leads no further than its name, which it may not be. -/
theorem follow?_singleton {part : String} (h : d.follow? l [part] = some l') :
    l' = part :: l ∨ l'.length ≤ l.length := by
  simp only [follow?] at h
  split_ifs at h <;> cases h <;> simp

/-- A name leads to what has that name. -/
theorem eq_of_follow?_name {name : String} (hhere : Path.isHere name = false) (habove : name ≠ "..")
    (h : d.follow? l [name] = some l') : l' = name :: l := by
  simp only [follow?, hhere, habove] at h
  split_ifs at h <;> simp_all

/-- **The temporary file is another file.** -/
theorem temporary_ne (h : d.locate? p = some l) (h' : d.locate? (temporary p) = some l') :
    l' ≠ l := by
  obtain ⟨parts, last, hp, htemporary⟩ := exists_parts_temporary p
  unfold locate? at h h'
  rw [hp, follow?_append] at h
  rw [htemporary, follow?_append] at h'
  obtain ⟨above, habove, h⟩ := Option.bind_eq_some_iff.1 h
  obtain ⟨above', habove', h'⟩ := Option.bind_eq_some_iff.1 h'
  cases habove.symm.trans habove'
  have hlong : (last ++ ".tmp").length = last.length + 4 := String.length_append ..
  have hhere : Path.isHere (last ++ ".tmp") = false := by
    have hempty : last ++ ".tmp" ≠ "" := fun hs => by rw [hs] at hlong; cases hlong
    have hdot : last ++ ".tmp" ≠ "." := fun hs => by rw [hs] at hlong; cases hlong
    simp [Path.isHere, hempty, hdot]
  have hdots : last ++ ".tmp" ≠ ".." := fun hs => by rw [hs] at hlong; cases hlong
  rw [eq_of_follow?_name hhere hdots h']
  rcases follow?_singleton h with rfl | hlength
  · intro heq
    rw [(List.cons.inj heq).1] at hlong
    omega
  · rintro rfl
    simp at hlength

/-! ### Replacing -/

theorem write?_eq_some (h : d.write? p content = some d') : ∃ l, d.locate? p = some l ∧
    d.isDirectoryAt l = false ∧ d' = d.put l (.file content) := by
  unfold write? at h
  split at h
  next => cases h
  next =>
    obtain ⟨l, hl, rfl⟩ := Option.map_eq_some_iff.1 h
    obtain ⟨hlocate, hdirectory⟩ := Option.filter_eq_some_iff.1 hl
    exact ⟨l, hlocate, by simpa using hdirectory, rfl⟩

theorem rename?_eq_some {source target : Path} (h : d.rename? source target = some d') :
    ∃ l content l', d.locate? source = some l ∧ d.contentAt? l = some content ∧
      d.locate? target = some l' ∧ d.isDirectoryAt l' = false ∧
      d' = (d.remove l).put l' (.file content) := by
  unfold rename? at h
  split at h
  next => cases h
  next =>
    obtain ⟨l, hl, h⟩ := Option.bind_eq_some_iff.1 h
    obtain ⟨content, hcontent, h⟩ := Option.bind_eq_some_iff.1 h
    obtain ⟨l', hl', h⟩ := Option.bind_eq_some_iff.1 h
    obtain ⟨hlocate, hdirectory⟩ := Option.filter_eq_some_iff.1 hl'
    cases h
    exact ⟨l, content, l', hl, hcontent, hlocate, by simpa using hdirectory, rfl⟩

theorem contentAt?_eq_some_iff :
    d.contentAt? l = some content ↔ d.entryAt? l = some (.file content) := by
  unfold contentAt?
  split
  next h => simp [h]
  next h => exact ⟨nofun, fun h' => absurd h' (h content)⟩

theorem isDirectoryAt_of_contentAt? (h : d.contentAt? l = some content) :
    d.isDirectoryAt l = false := by
  rw [Bool.eq_false_iff, ne_eq, isDirectoryAt_iff, contentAt?_eq_some_iff.1 h]
  nofun

/-- What has been renamed is where the path leads. -/
theorem entry?_of_rename? {source target : Path} (hsource : d.locate? source = some l)
    (hcontent : d.contentAt? l = some content) (h : d.rename? source target = some d') :
    d'.entry? target = some (.file content) := by
  obtain ⟨l₁, content₁, l', hl₁, hcontent₁, hl', hfile, rfl⟩ := rename?_eq_some h
  cases hsource.symm.trans hl₁
  cases hcontent.symm.trans hcontent₁
  have hremoved := sameDirectories_remove (isDirectoryAt_of_contentAt? hcontent)
  have hfree : (d.remove l).isDirectoryAt l' = false := (hremoved l').trans hfile
  unfold entry?
  rw [(sameDirectories_put_file hfree).locate?_eq, hremoved.locate?_eq, hl', Option.bind_some,
    entryAt?_put (ne_nil_of_isDirectoryAt hfile), if_pos rfl]

/-- **What has been replaced holds the new document.** -/
theorem entry?_of_replace (h : d.replace p content = (true, d')) :
    d'.entry? p = some (.file content) := by
  unfold replace at h
  split at h
  next => cases h
  next written hwritten =>
    split at h
    next => cases h
    next renamed hrenamed =>
      cases h
      obtain ⟨l, htemporary, hfree, rfl⟩ := write?_eq_some hwritten
      have hlocate : (d.put l (.file content)).locate? (temporary p) = some l :=
        ((sameDirectories_put_file hfree).locate?_eq _).trans htemporary
      refine entry?_of_rename? hlocate (contentAt?_eq_some_iff.2 ?_) hrenamed
      rw [entryAt?_put (ne_nil_of_isDirectoryAt hfree), if_pos rfl]

/-- **What could not be replaced is as it was.** -/
theorem entry?_of_replace_failed (h : d.replace p content = (false, d')) :
    d'.entry? p = d.entry? p := by
  unfold replace at h
  split at h
  next =>
    cases h
    rfl
  next written hwritten =>
    split at h
    next =>
      cases h
      obtain ⟨l', htemporary, hfree, rfl⟩ := write?_eq_some hwritten
      unfold entry?
      rw [(sameDirectories_put_file hfree).locate?_eq]
      cases hl : d.locate? p with
      | none => rfl
      | some l =>
        have hne : l ≠ l' := (temporary_ne hl htemporary).symm
        rw [Option.bind_some, Option.bind_some, entryAt?_put (ne_nil_of_isDirectoryAt hfree),
          if_neg hne]
    next => cases h

end Disk

end RecordFilters
