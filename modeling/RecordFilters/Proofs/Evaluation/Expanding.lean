import RecordFilters.Proofs.Evaluation.Settled

/-! # Filters written out

A filter is the combination of its conditions, and a condition on another filter contains that one.
Written out so many levels deep, without any memory, it has a predicate that no longer depends on
the number of levels once consulting other filters comes to an end within them.

* `Evaluator.Leads`: a filter consults another one, directly or through others.
* `Evaluator.EndsWithin`: the filters below a filter come to an end.
* `Evaluator.expanded`: the predicate of a filter, written out.
* `Evaluator.expanded_eq`: more levels make no difference. -/

namespace RecordFilters

namespace Evaluator

open Evaluation

variable {ev : Evaluator} {user : Option ActingUser} {today : Day} {f g : Filter} {c : Condition}
  {sub sub' : Filter → Predicate} {n m : Nat}

/-- The filters that a filter consults. -/
def consulted (ev : Evaluator) (f : Filter) : List Filter :=
  f.conditions.filterMap (ev.filters.consulted? ev.schema f.entityType)

theorem mem_consulted (hc : c ∈ f.conditions)
    (hg : ev.filters.consulted? ev.schema f.entityType c = some g) : g ∈ ev.consulted f :=
  List.mem_filterMap.2 ⟨c, hc, hg⟩

theorem mem_filters_of_mem_consulted (h : g ∈ ev.consulted f) : g ∈ ev.filters := by
  obtain ⟨c, -, hg⟩ := List.mem_filterMap.1 h
  exact FilterSet.mem_of_consulted? hg

/-- A filter consults another one, directly or through others; it leads to itself too. -/
def Leads (ev : Evaluator) : Filter → Filter → Prop :=
  Relation.ReflTransGen fun f g => g ∈ ev.consulted f

/-- The filters that a filter consults, and those that these consult, come to an end after so many
levels. -/
def EndsWithin (ev : Evaluator) : Nat → Filter → Prop
  | 0, _ => False
  | n + 1, f => ∀ g ∈ ev.consulted f, ev.EndsWithin n g

theorem EndsWithin.mono (h : ev.EndsWithin n f) (hnm : n ≤ m) : ev.EndsWithin m f := by
  induction n generalizing m f with
  | zero => exact h.elim
  | succ n ih =>
    cases m with
    | zero => omega
    | succ m => exact fun g hg => ih (h g hg) (by omega)

/-- For a list of filters there is one number of levels. -/
theorem exists_endsWithin {l : List Filter} (h : ∀ g ∈ l, ∃ n, ev.EndsWithin n g) :
    ∃ n, ∀ g ∈ l, ev.EndsWithin n g := by
  induction l with
  | nil => exact ⟨0, fun g hg => nomatch hg⟩
  | cons first l ih =>
    obtain ⟨n, hfirst⟩ := h first List.mem_cons_self
    obtain ⟨m, hl⟩ := ih fun g hg => h g (List.mem_cons_of_mem _ hg)
    refine ⟨max n m, fun g hg => ?_⟩
    rcases List.mem_cons.1 hg with rfl | hg
    · exact hfirst.mono (by omega)
    · exact (hl g hg).mono (by omega)

/-- The predicate of a condition, given those of the filters that it may consult. -/
def part? (ev : Evaluator) (user : Option ActingUser) (today : Day) (sub : Filter → Predicate)
    (f : Filter) (c : Condition) : Option Predicate :=
  ((ev.conditionPredicate f (fun g => pure (sub g)) c).runIn
    { user := user, today := today }).1.toOption

/-- The predicate of a filter, with so many levels of filters written out and nothing remembered. -/
def expanded (ev : Evaluator) (user : Option ActingUser) (today : Day) : Nat → Filter → Predicate
  | 0, _ => .always
  | n + 1, f =>
    combine f.useOr (f.conditions.filterMap (ev.part? user today (ev.expanded user today n) f))

/-- A condition reads the predicate of the filter that it consults, and of no other. -/
theorem part?_congr (hev : ev.catalogs.handlers = Catalogs.standard.handlers)
    (h : ∀ g, ev.filters.consulted? ev.schema f.entityType c = some g → sub g = sub' g) :
    ev.part? user today sub f c = ev.part? user today sub' f c := by
  have hsame : ev.conditionPredicate f (fun g => pure (sub g)) c =
      ev.conditionPredicate f (fun g => pure (sub' g)) c :=
    conditionPredicate_eq_of_consulted hev fun g hg => by rw [h g hg]
  unfold part?
  rw [hsame]

/-- **Where consulting comes to an end**, more levels make no difference. -/
theorem expanded_eq (hev : ev.catalogs.handlers = Catalogs.standard.handlers)
    (hn : ev.EndsWithin n f) (hm : ev.EndsWithin m f) :
    ev.expanded user today n f = ev.expanded user today m f := by
  induction n generalizing m f with
  | zero => exact hn.elim
  | succ n ih =>
    cases m with
    | zero => exact hm.elim
    | succ m =>
      have hparts : f.conditions.filterMap (ev.part? user today (ev.expanded user today n) f) =
          f.conditions.filterMap (ev.part? user today (ev.expanded user today m) f) :=
        List.filterMap_congr fun c hc => part?_congr hev fun g hg =>
          ih (hn g (mem_consulted hc hg)) (hm g (mem_consulted hc hg))
      unfold expanded
      rw [hparts]

/-! ### The bound on the depth has no say in this -/

theorem endsWithin_of_maxDepth (h : ev.EndsWithin n f) (maxDepth : Nat) :
    EndsWithin { ev with maxDepth := maxDepth } n f := by
  induction n generalizing f with
  | zero => exact h
  | succ n ih => exact fun g hg => ih (h g hg)

theorem expanded_of_maxDepth (n : Nat) (f : Filter) (maxDepth : Nat) :
    expanded { ev with maxDepth := maxDepth } user today n f = ev.expanded user today n f := by
  induction n generalizing f with
  | zero => rfl
  | succ n ih =>
    have hsame : expanded { ev with maxDepth := maxDepth } user today n =
        ev.expanded user today n := funext ih
    unfold expanded
    rw [hsame]
    rfl

end Evaluator

end RecordFilters
