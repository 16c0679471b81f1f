import RecordFilters.Proofs.Filter.Stored
import RecordFilters.Repository.Basic

/-! # What a document holds of a filter

JSON has no name for an infinite or undefined number; where one stands in a filter, its document has
null. Apart from that a document holds all of a filter.

* `Value.IsOrdered`: values as they can be made, with their members in order.
* `Value.written`, `Filter.written`: a value and a filter with null in such places.
* `Filter.toJson_written`: their document is the same.
* `Filter.isStorable_written`: what is left can be stored, and so is found again.
* `Filter.written_eq_self`: nothing is lost of a filter whose numbers are finite. -/

namespace RecordFilters

open Json

/-! ### Values -/

namespace Value

/-- A value whose members stand in name order. -/
inductive IsOrdered : Value → Prop
  | null : IsOrdered .null
  | bool (b : Bool) : IsOrdered (.bool b)
  | number (n : Number) : IsOrdered (.number n)
  | text (s : String) : IsOrdered (.text s)
  | list {items : List Value} (items_isOrdered : ∀ v ∈ items, IsOrdered v) :
      IsOrdered (.list items)
  | object {members : List (String × Value)} (sorted : Sorted members)
      (members_isOrdered : ∀ m ∈ members, IsOrdered m.2) : IsOrdered (.object members)

mutual

/-- A value with null in place of every number that is not finite. -/
def written : Value → Value
  | .number n => if n.isFinite then .number n else .null
  | .list items => .list (writtenItems items)
  | .object members => .object (writtenMembers members)
  | v => v

def writtenItems : List Value → List Value
  | [] => []
  | v :: r => written v :: writtenItems r

def writtenMembers : List (String × Value) → List (String × Value)
  | [] => []
  | (name, v) :: r => (name, written v) :: writtenMembers r

end

theorem writtenItems_eq_map (l : List Value) : writtenItems l = l.map written := by
  induction l with
  | nil => rfl
  | cons v r ih => rw [writtenItems, ih, List.map_cons]

theorem writtenMembers_eq_map (l : List (String × Value)) :
    writtenMembers l = l.map fun m => (m.1, m.2.written) := by
  induction l with
  | nil => rfl
  | cons m r ih => rw [writtenMembers, ih, List.map_cons]

variable {v : Value}

theorem IsStorable.isOrdered (h : v.IsStorable) : v.IsOrdered := by
  induction h with
  | null => exact .null
  | bool b => exact .bool b
  | number _ => exact .number _
  | text s => exact .text s
  | list _ ih => exact .list ih
  | object hsorted _ ih => exact .object hsorted ih

mutual

/-- A value with null in these places has the same document. -/
theorem toJson_written : ∀ v : Value, v.written.toJson = v.toJson
  | .null | .bool _ | .text _ => rfl
  | .number n => by
    rw [written]
    split
    next => rfl
    next hn => rw [toJson, toJson, if_neg hn]
  | .list items => by rw [written, toJson, toJson, toJsonItems_written items]
  | .object members => by rw [written, toJson, toJson, toJsonMembers_written members]

theorem toJsonItems_written : ∀ l : List Value, toJsonItems (writtenItems l) = toJsonItems l
  | [] => rfl
  | v :: r => by
    rw [writtenItems, toJsonItems, toJsonItems, toJson_written v, toJsonItems_written r]

theorem toJsonMembers_written : ∀ l : List (String × Value),
    toJsonMembers (writtenMembers l) = toJsonMembers l
  | [] => rfl
  | (name, v) :: r => by
    rw [writtenMembers, toJsonMembers, toJsonMembers, toJson_written v, toJsonMembers_written r]

end

theorem isStorable_written (h : v.IsOrdered) : v.written.IsStorable := by
  induction h with
  | null => exact .null
  | bool b => exact .bool b
  | text s => exact .text s
  | number n =>
    rw [written]
    split
    next hn => exact .number hn
    next => exact .null
  | list _ ih =>
    rw [written, writtenItems_eq_map]
    exact .list (List.forall_mem_map.2 ih)
  | object hsorted _ ih =>
    rw [written, writtenMembers_eq_map]
    exact .object (List.pairwise_map.2 hsorted) (List.forall_mem_map.2 ih)

theorem written_eq_self (h : v.IsStorable) : v.written = v := by
  induction h with
  | null | bool | text => rfl
  | number hn => rw [written, if_pos hn]
  | @list items _ ih =>
    rw [written, writtenItems_eq_map]
    exact congrArg Value.list ((List.map_congr_left ih).trans (List.map_id' items))
  | @object members _ _ ih =>
    have hsame : ∀ m ∈ members, (m.1, m.2.written) = m := fun m hm => Prod.ext rfl (ih m hm)
    rw [written, writtenMembers_eq_map]
    exact congrArg Value.object ((List.map_congr_left hsame).trans (List.map_id' members))

end Value

/-! ### Payloads -/

namespace Payload

variable {p : Payload}

/-- A payload with ordered values; the document of an extension is in its canonical form. -/
def IsOrdered : Payload → Prop
  | .comparison _ values => ∀ v ∈ values, v.IsOrdered
  | .raw j => j.IsCanonical
  | _ => True

/-- A payload with null in place of every number that is not finite. -/
def written : Payload → Payload
  | .comparison operator values => .comparison operator (values.map Value.written)
  | p => p

theorem fits_written {kind : ConditionKind} (h : p.fits kind = true) :
    p.written.fits kind = true := by
  cases p with
  | comparison => cases kind <;> exact h
  | _ => exact h

theorem IsStorable.isOrdered (h : p.IsStorable) : p.IsOrdered := by
  cases p with
  | comparison => exact fun v hv => (h v hv).isOrdered
  | raw => exact h
  | _ => trivial

theorem toJson_written (p : Payload) : p.written.toJson = p.toJson := by
  cases p with
  | comparison operator values =>
    have hvalues : (values.map Value.written).map Value.toJson = values.map Value.toJson := by
      rw [List.map_map]
      exact List.map_congr_left fun v _ => Value.toJson_written v
    rw [written, toJson, toJson, hvalues]
  | _ => rfl

theorem isStorable_written (h : p.IsOrdered) : p.written.IsStorable := by
  cases p with
  | comparison => exact List.forall_mem_map.2 fun v hv => Value.isStorable_written (h v hv)
  | raw => exact h
  | _ => trivial

theorem written_eq_self (h : p.IsStorable) : p.written = p := by
  cases p with
  | comparison operator values =>
    have hvalues : values.map Value.written = values :=
      (List.map_congr_left fun v hv => Value.written_eq_self (h v hv)).trans (List.map_id' values)
    rw [written, hvalues]
  | _ => rfl

end Payload

/-! ### Conditions and filters -/

namespace Condition

variable {c : Condition}

/-- The condition as its document has it. -/
def written (c : Condition) : Condition :=
  ⟨c.kind, c.reference, c.payload.written, Payload.fits_written c.fits⟩

theorem toStored_written (c : Condition) : c.written.toStored = c.toStored := by
  unfold toStored written
  rw [Payload.toJson_written]

theorem written_eq_self (h : c.IsStorable) : c.written = c := by
  obtain ⟨kind, reference, payload, fits⟩ := c
  have hpayload : payload.written = payload := Payload.written_eq_self h
  unfold written
  congr

end Condition

namespace Filter

variable {f : Filter}

/-- A filter as it can be made: its values are ordered. -/
def IsOrdered (f : Filter) : Prop := ∀ c ∈ f.conditions, c.payload.IsOrdered

/-- The filter as its document has it. -/
def written (f : Filter) : Filter :=
  { f with
    conditions := f.conditions.map Condition.written
    conditions_ne_nil := by simpa using f.conditions_ne_nil }

theorem IsStorable.isOrdered (h : f.IsStorable) : f.IsOrdered :=
  fun c hc => Payload.IsStorable.isOrdered (h c hc)

/-- **A filter and what its document has of it have the same document.** -/
theorem toJson_written (f : Filter) : f.written.toJson = f.toJson := by
  have hconditions : (f.conditions.map Condition.written).map Condition.toStored =
      f.conditions.map Condition.toStored := by
    rw [List.map_map]
    exact List.map_congr_left fun c _ => Condition.toStored_written c
  unfold toJson toStored written
  rw [hconditions]

theorem isStorable_written (h : f.IsOrdered) : f.written.IsStorable :=
  List.forall_mem_map.2 fun c hc => Payload.isStorable_written (h c hc)

theorem written_eq_self (h : f.IsStorable) : f.written = f := by
  have hconditions : f.conditions.map Condition.written = f.conditions :=
    (List.map_congr_left fun c hc => Condition.written_eq_self (h c hc)).trans (List.map_id' _)
  unfold written
  congr

end Filter

/-! ### Sets of filters -/

namespace FilterSet

variable {s : FilterSet}

/-- The filters as their document has them. -/
def written (s : FilterSet) : FilterSet :=
  ⟨s.toList.map Filter.written, List.pairwise_map.2 s.sorted⟩

theorem toJson_written (s : FilterSet) : s.written.toJson = s.toJson := by
  unfold toJson written
  rw [List.map_map]
  exact congrArg Json.array (List.map_congr_left fun f _ => Filter.toJson_written f)

theorem isStorable_written (h : ∀ f ∈ s, f.IsOrdered) : ∀ f ∈ s.written, f.IsStorable :=
  List.forall_mem_map.2 fun f hf => Filter.isStorable_written (h f hf)

theorem written_eq_self (h : ∀ f ∈ s, f.IsStorable) : s.written = s :=
  Index.ext ((List.map_congr_left fun f hf => Filter.written_eq_self (h f hf)).trans
    (List.map_id' s.toList))

end FilterSet

end RecordFilters
