import Mathlib
import RecordFilters.Catalog

/-! # Steps of an evaluation

How a step runs in a context, for each way to make one; and what no step forgets. A context only
grows: the acting user and the day stay, and the values of an operand stay as they were resolved
first.

* `runIn_bind`, `runIn_tryCatch`, `runIn_map`, …: a step, run in a context.
* `RegistryCatalog.Unambiguous`: operands of one name stand for the same.
* `Context.Grows`: what remains of a context, and what may be new.
* `resolve_spec`: an operand is resolved once. -/

namespace RecordFilters

namespace Evaluation

variable {α β : Type} {ctx ctx' : Context}

@[simp] theorem runIn_pure (a : α) : (pure a : Evaluation α).runIn ctx = (.ok a, ctx) := rfl

@[simp] theorem runIn_throw (e : FilterError) :
    (throw e : Evaluation α).runIn ctx = (.error e, ctx) := rfl

theorem runIn_bind (x : Evaluation α) (k : α → Evaluation β) :
    (x >>= k).runIn ctx = match x.runIn ctx with
      | (.ok a, ctx') => (k a).runIn ctx'
      | (.error e, ctx') => (.error e, ctx') := by
  unfold runIn
  simp only [ExceptT.run_bind, StateT.run_bind]
  rcases StateT.run (ExceptT.run x) ctx with ⟨_ | a, ctx'⟩ <;> rfl

theorem runIn_bind_ok {x : Evaluation α} {a : α} (h : x.runIn ctx = (.ok a, ctx'))
    (k : α → Evaluation β) : (x >>= k).runIn ctx = (k a).runIn ctx' := by
  rw [runIn_bind, h]

theorem runIn_bind_error {x : Evaluation α} {e : FilterError}
    (h : x.runIn ctx = (.error e, ctx')) (k : α → Evaluation β) :
    (x >>= k).runIn ctx = (.error e, ctx') := by
  rw [runIn_bind, h]

theorem runIn_map (f : α → β) (x : Evaluation α) :
    (f <$> x).runIn ctx = ((x.runIn ctx).1.map f, (x.runIn ctx).2) := by
  rw [map_eq_pure_bind, runIn_bind]
  rcases x.runIn ctx with ⟨_ | a, ctx'⟩ <;> rfl

theorem runIn_tryCatch (x : Evaluation α) (handle : FilterError → Evaluation α) :
    (tryCatch x handle).runIn ctx = match x.runIn ctx with
      | (.ok a, ctx') => (.ok a, ctx')
      | (.error e, ctx') => (handle e).runIn ctx' := by
  unfold runIn
  rw [ExceptT.run_tryCatch, StateT.run_bind]
  rcases StateT.run (ExceptT.run x) ctx with ⟨_ | a, ctx'⟩ <;> rfl

@[simp] theorem runIn_get : (get : Evaluation Context).runIn ctx = (.ok ctx, ctx) := rfl

/-- What succeeds at once goes on with its result. -/
theorem ofExcept_ok_bind (a : α) (k : α → Evaluation β) : ofExcept (.ok a) >>= k = k a :=
  pure_bind a k

@[simp] theorem runIn_ofExcept_ok (a : α) : (ofExcept (.ok a)).runIn ctx = (.ok a, ctx) := rfl

@[simp] theorem runIn_ofExcept_error (e : FilterError) :
    (ofExcept (.error e : Except FilterError α)).runIn ctx = (.error e, ctx) := rfl

@[simp] theorem runIn_remembered? (id : FilterId) :
    (remembered? id).runIn ctx = (.ok ((ctx.memo.get? id).map Prod.snd), ctx) := rfl

@[simp] theorem runIn_remember (id : FilterId) (p : Predicate) :
    (remember id p).runIn ctx = (.ok (), { ctx with memo := ctx.memo.insert (id, p) }) := rfl

end Evaluation

/-! ### Registered operands -/

namespace RegistryCatalog

/-- An entry of what is resolved holds the values of a registered operand. -/
def Resolves (c : RegistryCatalog) (user : Option ActingUser) (today : Day)
    (entry : String × List Value) : Prop :=
  ∃ registry ∈ c, ∃ o ∈ registry.operands, o.typeId = entry.1 ∧ o.resolve user today = entry.2

/-- An operand is known by its name: all that are registered under one are resolved to the same
values for a user on a day. -/
def Unambiguous (c : RegistryCatalog) (user : Option ActingUser) (today : Day) : Prop :=
  ∀ name values values', c.Resolves user today (name, values) →
    c.Resolves user today (name, values') → values = values'

/-- The operands of one catalog have names of their own. -/
theorem unambiguous_of_mem {c : RegistryCatalog} {operands : OperandCatalog}
    (h : ∀ registry ∈ c, ∀ o ∈ registry.operands, o ∈ operands) (user : Option ActingUser)
    (today : Day) : c.Unambiguous user today := by
  rintro name values values' ⟨registry, hregistry, o, ho, hname, rfl⟩
    ⟨registry', hregistry', o', ho', hname', rfl⟩
  rw [Index.eq_of_key_eq (h registry hregistry o ho) (h registry' hregistry' o' ho')
    (hname.trans hname'.symm)]

theorem unambiguous_standard (user : Option ActingUser) (today : Day) :
    Catalogs.standard.registries.Unambiguous user today := by
  have hoperands : ∀ registry ∈ Catalogs.standard.registries, ∀ o ∈ registry.operands,
      o ∈ OperandCatalog.standard := by
    intro registry hregistry
    have hmem := Index.mem_of_mem_ofList hregistry
    simp only [List.mem_cons, List.not_mem_nil, or_false] at hmem
    rcases hmem with rfl | rfl <;> exact fun o ho => ho
  exact unambiguous_of_mem hoperands user today

end RegistryCatalog

/-! ### Contexts grow -/

namespace Context

/-- What a context has become when operands of some registries have been resolved in it. -/
structure Grows (c : RegistryCatalog) (ctx ctx' : Context) : Prop where
  user : ctx'.user = ctx.user
  today : ctx'.today = ctx.today
  kept : ∀ entry ∈ ctx.resolved, entry ∈ ctx'.resolved
  resolves : ∀ entry ∈ ctx'.resolved,
    entry ∈ ctx.resolved ∨ c.Resolves ctx.user ctx.today entry

/-- What is resolved under the name of an operand are the values of this operand, whichever registry
holds it. -/
def AgreesWith (ctx : Context) (c : RegistryCatalog) (actor : Option ActingUser) (day : Day) :
    Prop :=
  ∀ registry ∈ c, ∀ o ∈ registry.operands, ∀ values, (o.typeId, values) ∈ ctx.resolved →
    o.resolve actor day = values

variable {c : RegistryCatalog} {actor : Option ActingUser} {day : Day} {ctx ctx' ctx'' : Context}

theorem Grows.refl (c : RegistryCatalog) (ctx : Context) : Grows c ctx ctx :=
  ⟨rfl, rfl, fun _ h => h, fun _ h => Or.inl h⟩

/-- What is remembered of filters does not count. -/
theorem Grows.remember (h : Grows c ctx ctx') (id : FilterId) (p : Predicate) :
    Grows c ctx { ctx' with memo := ctx'.memo.insert (id, p) } :=
  ⟨h.user, h.today, h.kept, h.resolves⟩

theorem Grows.trans (h : Grows c ctx ctx') (h' : Grows c ctx' ctx'') : Grows c ctx ctx'' := by
  refine ⟨h'.user.trans h.user, h'.today.trans h.today,
    fun entry hentry => h'.kept entry (h.kept entry hentry), fun entry hentry => ?_⟩
  rcases h'.resolves entry hentry with hentry | hnew
  · exact h.resolves entry hentry
  · rw [h.user, h.today] at hnew
    exact Or.inr hnew

theorem AgreesWith.of_grows (h : ctx'.AgreesWith c actor day) (hg : Grows c ctx ctx') :
    ctx.AgreesWith c actor day :=
  fun registry hregistry o ho values hentry =>
    h registry hregistry o ho values (hg.kept _ hentry)

/-- **Where operands of one name are resolved alike**, what a context resolves are the values of each
of them. -/
theorem Grows.agreesWith (h : Grows c ctx ctx') (hresolved : ctx.resolved = ∅)
    (hnames : c.Unambiguous ctx.user ctx.today) : ctx'.AgreesWith c ctx.user ctx.today := by
  intro registry hregistry o ho values hentry
  rcases h.resolves _ hentry with hold | hnew
  · rw [hresolved] at hold
    exact absurd hold Index.not_mem_empty
  · exact hnames o.typeId _ values ⟨registry, hregistry, o, ho, rfl, rfl⟩ hnew

end Context

/-! ### Operands -/

namespace Evaluation

variable {c : RegistryCatalog} {ctx : Context}

/-- **An operand is resolved for the user on the day**, or has been in this context. -/
theorem resolve_spec {registry : Registry} {o : Operand} (hregistry : registry ∈ c)
    (ho : o ∈ registry.operands) :
    ∃ values ctx', (resolve o).runIn ctx = (.ok values, ctx') ∧ ctx'.memo = ctx.memo ∧
      ctx.Grows c ctx' ∧ (o.typeId, values) ∈ ctx'.resolved := by
  unfold resolve
  rw [runIn_bind_ok runIn_get]
  cases h : ctx.resolved.get? o.typeId with
  | some entry =>
    refine ⟨entry.2, ctx, rfl, rfl, Context.Grows.refl c ctx, ?_⟩
    obtain ⟨hentry, hname⟩ := Index.get?_eq_some_iff.1 h
    rw [← hname]
    exact hentry
  | none =>
    refine ⟨_, _, rfl, rfl, ⟨rfl, rfl, fun entry hentry => ?_, fun entry hentry => ?_⟩, ?_⟩
    · exact Index.mem_insert.2 (Or.inr ⟨hentry, Index.get?_eq_none_iff.1 h entry hentry⟩)
    · rcases Index.mem_insert.1 hentry with rfl | ⟨hentry, -⟩
      · exact Or.inr ⟨registry, hregistry, o, ho, rfl, rfl⟩
      · exact Or.inl hentry
    · exact Index.mem_insert.2 (Or.inl rfl)

end Evaluation

end RecordFilters
