import RecordFilters.Proofs.Json.Canonical
import RecordFilters.Json.Reader

/-! # Documents read from texts

A numeral that is an integer beyond 64 bits is read as a floating point number, so no text holds a
document with a larger integer.

* `Json.inBounds_of_readNumeral`: what a numeral stands for.
* `Json.Reading.InBounds`: what the machine keeps while it reads.
* `Json.inBounds_of_outline?`: the outline of a text has integers of 64 bits. -/

namespace RecordFilters.Json

open Text Decimal

variable {j : Json} {o : Outline}

/-! ### Numerals -/

theorem inBounds_of_floating? {negative : Bool} {whole fraction : List Char} {exponent : Int}
    (h : floating? negative whole fraction exponent = some j) : j.InBounds := by
  unfold floating? at h
  dsimp only at h
  split at h
  · cases h
    exact .real _
  · cases h

theorem inBounds_of_integer {negative : Bool} {n : Nat} {floating : Option Json}
    (hfloating : ∀ j, floating = some j → j.InBounds)
    (h : (if negative = true ∧ n ≠ 0 ∧ Number.leastWhole ≤ -(n : Int) then
        some (some (whole (-(n : Int))))
      else if (!negative) = true ∧ n < UInt64.size then some (some (whole (n : Int)))
      else some floating) = some (some j)) : j.InBounds := by
  have hzero : Number.leastWhole ≤ 0 := by decide
  split at h
  next hnegative =>
    cases h
    exact .whole hnegative.2.2 (by omega)
  next =>
    split at h
    next hpositive =>
      cases h
      exact .whole (by omega) (by exact_mod_cast hpositive.2)
    next => exact hfloating j (Option.some.inj h)

/-- An integer that has more than 64 bits is no integer to the reader. -/
theorem inBounds_of_readNumeral {cs : List Char} (h : readNumeral cs = some (some j)) :
    j.InBounds := by
  unfold readNumeral at h
  dsimp only at h
  split at h
  next => cases h
  next => cases h
  next => exact inBounds_of_integer (fun _ => inBounds_of_floating?) h
  next =>
    split at h
    next => cases h
    next =>
      split at h
      next => exact inBounds_of_floating? (Option.some.inj h)
      next => cases h
  next =>
    split at h
    next => exact inBounds_of_floating? (Option.some.inj h)
    next => cases h

/-! ### Outlines -/

namespace Outline

/-- An outline whose integers have 64 bits. -/
inductive InBounds : Outline → Prop
  | blot : InBounds .blot
  | atom {j : Json} (inBounds : j.InBounds) : InBounds (.atom j)
  | array {items : List Outline} (items_inBounds : ∀ o ∈ items, InBounds o) :
      InBounds (.array items)
  | object {members : List (Option String × Outline)}
      (members_inBounds : ∀ m ∈ members, InBounds m.2) : InBounds (.object members)

theorem exists_of_mem_jsonItems? {items : List Outline} {l : List Json}
    (h : jsonItems? items = some l) (hj : j ∈ l) : ∃ o ∈ items, o.json? = some j := by
  induction items generalizing l with
  | nil =>
    cases h
    cases hj
  | cons o r ih =>
    obtain ⟨first, hfirst, h⟩ := Option.bind_eq_some_iff.1 h
    obtain ⟨rest, hrest, h⟩ := Option.bind_eq_some_iff.1 h
    cases h
    rcases List.mem_cons.1 hj with rfl | hj
    · exact ⟨o, List.mem_cons_self, hfirst⟩
    · obtain ⟨o', ho', h⟩ := ih hrest hj
      exact ⟨o', List.mem_cons_of_mem _ ho', h⟩

theorem exists_of_mem_jsonMembers? {members : List (Option String × Outline)}
    {l : List (String × Json)} (h : jsonMembers? members = some l) {m : String × Json}
    (hm : m ∈ l) : ∃ m' ∈ members, m'.2.json? = some m.2 := by
  induction members generalizing l with
  | nil =>
    cases h
    cases hm
  | cons first r ih =>
    obtain ⟨name, hname, h⟩ := Option.bind_eq_some_iff.1 h
    obtain ⟨value, hvalue, h⟩ := Option.bind_eq_some_iff.1 h
    obtain ⟨rest, hrest, h⟩ := Option.bind_eq_some_iff.1 h
    cases h
    rcases List.mem_cons.1 hm with rfl | hm
    · exact ⟨first, List.mem_cons_self, hvalue⟩
    · obtain ⟨m', hm', h⟩ := ih hrest hm
      exact ⟨m', List.mem_cons_of_mem _ hm', h⟩

/-- The document of an outline has its bounds. -/
theorem InBounds.inBounds_of_json? (h : o.InBounds) (hj : o.json? = some j) : j.InBounds := by
  induction h generalizing j with
  | blot => cases hj
  | atom inBounds =>
    cases hj
    exact inBounds
  | array _ ih =>
    obtain ⟨l, hl, rfl⟩ := Option.map_eq_some_iff.1 hj
    refine .array fun d hd => ?_
    obtain ⟨o, ho, hd⟩ := exists_of_mem_jsonItems? hl hd
    exact ih o ho hd
  | object _ ih =>
    obtain ⟨l, hl, rfl⟩ := Option.map_eq_some_iff.1 hj
    refine .object fun m hm => ?_
    obtain ⟨m', hm', hm⟩ := exists_of_mem_jsonMembers? hl hm
    exact ih m' hm' hm

end Outline

/-! ### Tokens -/

/-- A token whose integers have 64 bits. -/
def Token.InBounds : Token → Prop
  | .atom o => o.InBounds
  | _ => True

theorem inBounds_of_map_cons {t : Token} {rest : Option (List Token)} {ts : List Token}
    (h : rest.map (t :: ·) = some ts) (hrest : ∀ ts, rest = some ts → ∀ t ∈ ts, t.InBounds)
    (ht : t.InBounds) : ∀ t ∈ ts, t.InBounds := by
  obtain ⟨r, hr, rfl⟩ := Option.map_eq_some_iff.1 h
  exact List.forall_mem_cons.2 ⟨ht, hrest r hr⟩

/-- The tokens of a text have the bounds. -/
theorem inBounds_of_mem_tokens {cs : List Char} {ts : List Token} (h : tokens cs = some ts) :
    ∀ t ∈ ts, t.InBounds := by
  fun_induction tokens cs generalizing ts with
  | case1 =>
    cases h
    exact List.forall_mem_nil _
  | case9 | case15 | case16 => cases h
  | case10 =>
    rename_i ih
    exact inBounds_of_map_cons h (fun _ => ih) (Outline.InBounds.atom .null)
  | case11 | case12 =>
    rename_i ih
    exact inBounds_of_map_cons h (fun _ => ih) (Outline.InBounds.atom (.bool _))
  | case13 =>
    rename_i ih
    exact ih h
  | case14 =>
    rename_i number hnumber ih
    have hbounds : Token.InBounds (.atom ((number.map .atom).getD .blot)) := by
      cases number with
      | none => exact .blot
      | some j => exact .atom (inBounds_of_readNumeral hnumber)
    exact inBounds_of_map_cons h (fun _ => ih) hbounds
  | _ =>
    rename_i ih
    exact inBounds_of_map_cons h (fun _ => ih) trivial

/-! ### The machine -/

def Frame.InBounds : Frame → Prop
  | .items before => ∀ o ∈ before, o.InBounds
  | .members before _ => ∀ m ∈ before, m.2.InBounds

/-- What the machine has read has integers of 64 bits. -/
def Reading.InBounds : Reading → Prop
  | .value stack | .firstItem stack | .firstName stack => ∀ f ∈ stack, f.InBounds
  | .nextItem stack before => (∀ f ∈ stack, f.InBounds) ∧ ∀ o ∈ before, o.InBounds
  | .memberName stack before | .colon stack before _ | .nextMember stack before =>
    (∀ f ∈ stack, f.InBounds) ∧ ∀ m ∈ before, m.2.InBounds
  | .finished o => o.InBounds

namespace Reading

theorem inBounds_complete {stack : List Frame} (ho : o.InBounds)
    (hstack : ∀ f ∈ stack, f.InBounds) : (complete o stack).InBounds := by
  cases stack with
  | nil => exact ho
  | cons f stack =>
    obtain ⟨hf, hrest⟩ := List.forall_mem_cons.1 hstack
    cases f with
    | items | members => exact ⟨hrest, List.forall_mem_cons.2 ⟨ho, hf⟩⟩

theorem inBounds_close {stack : List Frame} (ho : o.InBounds)
    (hstack : ∀ f ∈ stack, f.InBounds) : (close o stack).InBounds := by
  unfold close
  split
  · exact inBounds_complete ho hstack
  · exact inBounds_complete .blot hstack

theorem inBounds_start {stack : List Frame} {t : Token} {s : Reading} (ht : t.InBounds)
    (hstack : ∀ f ∈ stack, f.InBounds) (h : start stack t = some s) : s.InBounds := by
  cases t with
  | atom o =>
    cases h
    exact inBounds_complete ht hstack
  | text s =>
    cases h
    refine inBounds_complete ?_ hstack
    cases s with
    | none => exact .blot
    | some s => exact .atom (.string s)
  | openArray | openObject =>
    cases h
    exact hstack
  | _ => cases h

/-- **Every step keeps the bounds.** -/
theorem inBounds_step {s s' : Reading} {t : Token} (hs : s.InBounds) (ht : t.InBounds)
    (h : s.step t = some s') : s'.InBounds := by
  unfold step at h
  split at h
  next => exact inBounds_start ht hs h
  next =>
    cases h
    exact inBounds_close (.array nofun) hs
  next =>
    have hempty : (Frame.items []).InBounds := List.forall_mem_nil _
    exact inBounds_start ht (List.forall_mem_cons.2 ⟨hempty, hs⟩) h
  next =>
    cases h
    exact List.forall_mem_cons.2 ⟨hs.2, hs.1⟩
  next =>
    cases h
    exact inBounds_close (.array fun o ho => hs.2 o (List.mem_reverse.1 ho)) hs.1
  next =>
    cases h
    exact inBounds_close (.object nofun) hs
  next =>
    cases h
    exact ⟨hs, nofun⟩
  next =>
    cases h
    exact hs
  next =>
    cases h
    exact List.forall_mem_cons.2 ⟨hs.2, hs.1⟩
  next =>
    cases h
    exact hs
  next =>
    cases h
    exact inBounds_close (.object fun m hm => hs.2 m (List.mem_reverse.1 hm)) hs.1
  next => cases h

end Reading

theorem inBounds_of_foldlM {ts : List Token} {s s' : Reading} (hs : s.InBounds)
    (hts : ∀ t ∈ ts, t.InBounds) (h : ts.foldlM Reading.step s = some s') : s'.InBounds := by
  induction ts generalizing s with
  | nil =>
    cases h
    exact hs
  | cons t ts ih =>
    rw [List.foldlM_cons] at h
    obtain ⟨next, hnext, h⟩ := Option.bind_eq_some_iff.1 h
    obtain ⟨ht, hts⟩ := List.forall_mem_cons.1 hts
    exact ih (Reading.inBounds_step hs ht hnext) hts h

/-- **The outline of a text has integers of 64 bits.** -/
theorem inBounds_of_outline? {s : String} (h : outline? s = some o) : o.InBounds := by
  obtain ⟨ts, hts, h⟩ := Option.bind_eq_some_iff.1 h
  obtain ⟨final, hfinal, h⟩ := Option.bind_eq_some_iff.1 h
  have hstart : (Reading.value []).InBounds := List.forall_mem_nil _
  have hbounds : final.InBounds := inBounds_of_foldlM hstart (inBounds_of_mem_tokens hts) hfinal
  cases final with
  | finished o' =>
    cases h
    exact hbounds
  | _ => cases h

end RecordFilters.Json
