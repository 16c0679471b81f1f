import RecordFilters.Proofs.Evaluation.Expanding

/-! # The registries at work

An evaluation looks up the registries of the filters that it comes across, and no others. So with
registries that agree on these it goes the same way, and the filters mean the same.

* `RegistryCatalog.UnambiguousAmong`: operands of one name stand for the same in filters of some
  types.
* `RegistryCatalog.only`: the registries of some types.
* `Evaluator.typesMet`: the types of the filters to which a filter leads.
* `Evaluator.compileWithin_withRegistries`: an evaluation with other registries.
* `Setting.Means.withRegistries`: what a filter means with other registries. -/

namespace RecordFilters

namespace RegistryCatalog

variable {c : RegistryCatalog} {types : Set FilterType} {t : FilterType}
  {user : Option ActingUser} {today : Day}

/-- An operand is known by its name among filters of some types: all that these have under one name
are resolved to the same values for a user on a day. -/
def UnambiguousAmong (c : RegistryCatalog) (types : Set FilterType) (user : Option ActingUser)
    (today : Day) : Prop :=
  ∀ registry ∈ c, ∀ registry' ∈ c, registry.filterType ∈ types → registry'.filterType ∈ types →
    ∀ o ∈ registry.operands, ∀ o' ∈ registry'.operands, o.typeId = o'.typeId →
      o.resolve user today = o'.resolve user today

theorem Unambiguous.among (h : c.Unambiguous user today) (types : Set FilterType) :
    c.UnambiguousAmong types user today :=
  fun registry hregistry registry' hregistry' _ _ o ho o' ho' hname =>
    h o.typeId _ _ ⟨registry, hregistry, o, ho, rfl, rfl⟩
      ⟨registry', hregistry', o', ho', hname.symm, rfl⟩

/-- Filters of one type have one operand of a name. -/
theorem unambiguousAmong_of_subsingleton (h : types.Subsingleton) :
    c.UnambiguousAmong types user today := by
  intro registry hregistry registry' hregistry' htype htype' o ho o' ho' hname
  obtain rfl : registry = registry' := Index.eq_of_key_eq hregistry hregistry' (h htype htype')
  rw [Index.eq_of_key_eq ho ho' hname]

/-- The registries of some types. -/
noncomputable def only (c : RegistryCatalog) (types : Set FilterType) : RegistryCatalog :=
  open Classical in c.filter fun registry => registry.filterType ∈ types

theorem mem_only {registry : Registry} :
    registry ∈ c.only types ↔ registry ∈ c ∧ registry.filterType ∈ types := by
  simp [only]

theorem get?_only (h : t ∈ types) : (c.only types).get? t = c.get? t := by
  refine Option.ext fun registry => ?_
  simp only [Index.get?_eq_some_iff, mem_only]
  constructor
  · rintro ⟨⟨hmem, -⟩, htype⟩
    exact ⟨hmem, htype⟩
  · rintro ⟨hmem, rfl⟩
    exact ⟨⟨hmem, h⟩, rfl⟩

theorem UnambiguousAmong.only (h : c.UnambiguousAmong types user today) :
    (c.only types).Unambiguous user today := by
  rintro name _ _ ⟨registry, hregistry, o, ho, hname, rfl⟩ ⟨registry', hregistry', o', ho', hname', rfl⟩
  obtain ⟨hmem, htype⟩ := mem_only.1 hregistry
  obtain ⟨hmem', htype'⟩ := mem_only.1 hregistry'
  exact h registry hmem registry' hmem' htype htype' o ho o' ho' (hname.trans hname'.symm)

end RegistryCatalog

/-- The types of some filters. -/
def FilterSet.types (s : FilterSet) : Set FilterType := {t | ∃ g ∈ s, g.filterType = t}

/-! ### Evaluations -/

namespace Evaluator

open Evaluation

variable {ev : Evaluator} {c : RegistryCatalog} {f g : Filter} {condition : Condition}
  {nested nested' : Filter → Evaluation Predicate}

/-- The same with other registries. -/
def withRegistries (ev : Evaluator) (c : RegistryCatalog) : Evaluator :=
  { ev with catalogs := { ev.catalogs with registries := c } }

theorem conditionPredicate_withRegistries
    (h : c.get? f.filterType = ev.catalogs.registries.get? f.filterType) :
    (ev.withRegistries c).conditionPredicate f nested condition =
      ev.conditionPredicate f nested condition := by
  have hscope : (ev.withRegistries c).scope f nested = ev.scope f nested := by
    unfold scope
    rw [← h]
    rfl
  unfold conditionPredicate
  rw [hscope]
  rfl

section

variable (hev : ev.catalogs.handlers = Catalogs.standard.handlers)
include hev

theorem usableParts_withRegistries
    (hsame : c.get? f.filterType = ev.catalogs.registries.get? f.filterType) {l : List Condition}
    (h : ∀ condition ∈ l, ∀ g, ev.filters.consulted? ev.schema f.entityType condition = some g →
      nested g = nested' g) :
    (ev.withRegistries c).usableParts f nested l = ev.usableParts f nested' l := by
  induction l with
  | nil => rfl
  | cons condition l ih =>
    unfold usableParts
    rw [conditionPredicate_withRegistries hsame,
      conditionPredicate_eq_of_consulted hev (h condition List.mem_cons_self),
      ih fun condition hc => h condition (List.mem_cons_of_mem _ hc)]

/-- **An evaluation looks up no registry but those of the filters that it comes across.** -/
theorem compileWithin_withRegistries {S : Filter → Prop}
    (hclosed : ∀ f, S f → ∀ g ∈ ev.consulted f, S g)
    (hsame : ∀ f, S f → c.get? f.filterType = ev.catalogs.registries.get? f.filterType)
    (levels : Nat) (hf : S f) :
    (ev.withRegistries c).compileWithin levels f = ev.compileWithin levels f := by
  induction levels generalizing f with
  | zero => rfl
  | succ levels ih =>
    have hparts := usableParts_withRegistries hev (hsame f hf) (l := f.conditions)
      fun condition hc g hg => ih (hclosed f hf g (mem_consulted hc hg))
    unfold compileWithin
    rw [hparts]

theorem compileWithin_withRegistries_of_mem
    (hsame : ∀ g ∈ ev.filters, c.get? g.filterType = ev.catalogs.registries.get? g.filterType)
    (levels : Nat) (hf : f ∈ ev.filters) :
    (ev.withRegistries c).compileWithin levels f = ev.compileWithin levels f :=
  compileWithin_withRegistries hev (fun _ _ _ hg => mem_filters_of_mem_consulted hg) hsame levels hf

end

/-- A stored filter leads to stored filters. -/
theorem Leads.mem_filters (h : ev.Leads f g) (hf : f ∈ ev.filters) : g ∈ ev.filters := by
  cases h with
  | refl => exact hf
  | tail _ hconsulted => exact mem_filters_of_mem_consulted hconsulted

/-- The types of the filters that an evaluation of a filter comes across. -/
def typesMet (ev : Evaluator) (f : Filter) : Set FilterType :=
  {t | ∃ g, ev.Leads f g ∧ g.filterType = t}

/-- Filters that consult only filters of their own type meet one type. -/
theorem subsingleton_typesMet
    (h : ∀ g, ev.Leads f g → ∀ g' ∈ ev.consulted g, g'.filterType = g.filterType) :
    (ev.typesMet f).Subsingleton := by
  have hall : ∀ g, ev.Leads f g → g.filterType = f.filterType := by
    intro g hg
    induction hg with
    | refl => rfl
    | tail hlead hconsulted ih => exact (h _ hlead _ hconsulted).trans ih
  rintro _ ⟨g, hg, rfl⟩ _ ⟨g', hg', rfl⟩
  exact (hall g hg).trans (hall g' hg').symm

end Evaluator

/-! ### Meanings -/

namespace Setting

variable {s : Setting} {c : RegistryCatalog} {f : Filter} {m : Record → Bool}
  {sub : Filter → Record → Bool}

/-- The same with other registries. -/
def withRegistries (s : Setting) (c : RegistryCatalog) : Setting := { s with registries := c }

theorem substitute_withRegistries {t : FilterType} (h : c.get? t = s.registries.get? t)
    (values : List Value) : (s.withRegistries c).substitute t values = s.substitute t values := by
  have hvalue : (s.withRegistries c).standsFor t = s.standsFor t := by
    funext v
    unfold standsFor
    rw [← h]
    rfl
  unfold substitute
  rw [hvalue]

theorem satisfies_withRegistries (h : c.get? f.filterType = s.registries.get? f.filterType) :
    (s.withRegistries c).satisfies sub f = s.satisfies sub f := by
  have htest : (s.withRegistries c).test? sub f = s.test? sub f := by
    funext condition
    unfold test?
    simp only [substitute_withRegistries h]
    rfl
  unfold satisfies
  rw [htest]

/-- **A filter means the same with other registries**, if these agree on the filters that give it its
meaning. -/
theorem Means.withRegistries {S : Filter → Prop}
    (hclosed : ∀ f, S f → ∀ g ∈ s.consulted f, S g)
    (hsame : ∀ f, S f → c.get? f.filterType = s.registries.get? f.filterType)
    (h : (s.withRegistries c).Means f m) (hf : S f) : s.Means f m := by
  induction h with
  | @of f sub _ ih =>
    rw [satisfies_withRegistries (hsame f hf)]
    exact .of sub fun g hg => ih g hg (hclosed f hf g hg)

end Setting

end RecordFilters
