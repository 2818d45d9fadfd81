import PredicateDispatch.Proofs.Registry.Effects

/-!
# What names are bound to

Functions may share a name.  A name stands for the newest of its functions, in
every registry: a new function takes its name over, and nothing else changes the
name of a function or what a name is bound to.
-/

namespace PredicateDispatch

variable {Code : Type}

namespace Catalog

def functionName? (catalog : Catalog Code) (id : ℕ) : Option String :=
  (catalog.function? id).map GenericFunction.name

/-- The function has the name, and no later one has it. -/
def IsNewest (catalog : Catalog Code) (name : String) (id : ℕ) : Prop :=
  catalog.functionName? id = some name ∧
    ∀ other, catalog.functionName? other = some name → other ≤ id

/-- Every name that is bound is bound to its newest function. -/
def NamesNewest (catalog : Catalog Code) : Prop :=
  ∀ name id, catalog.named? name = some id → catalog.IsNewest name id

theorem lt_of_functionName?_eq_some {catalog : Catalog Code} {id : ℕ}
    {name : String} (hname : catalog.functionName? id = some name) :
    id < catalog.nextFunction := by
  obtain ⟨function, hfunction, -⟩ := Option.map_eq_some_iff.mp hname
  exact lt_of_function?_eq_some hfunction

/-! ## Names of functions -/

theorem functionName?_modifyFunction (catalog : Catalog Code) (id : ℕ)
    {change : GenericFunction Code → GenericFunction Code}
    (hchange : ∀ function, (change function).name = function.name) (other : ℕ) :
    (catalog.modifyFunction id change).functionName? other =
      catalog.functionName? other := by
  rw [functionName?, functionName?]
  by_cases hid : other = id
  · subst hid
    rw [Registry.function?_modifyFunction_self, Option.map_map]
    exact congrArg (Option.map · _) (funext hchange)
  · rw [Registry.function?_modifyFunction_of_ne _ hid]

theorem functionName?_addFunction_eq_some_iff {catalog : Catalog Code}
    {function : GenericFunction Code} {id : ℕ} {name : String} :
    (catalog.addFunction function).functionName? id = some name ↔
      catalog.functionName? id = some name ∨
        (id = catalog.nextFunction ∧ function.name = name) := by
  simp only [functionName?, Option.map_eq_some_iff,
    function?_addFunction_eq_some_iff]
  constructor
  · rintro ⟨found, hold | ⟨hid, rfl⟩, hname⟩
    · exact Or.inl ⟨found, hold, hname⟩
    · exact Or.inr ⟨hid, hname⟩
  · rintro (⟨found, hold, hname⟩ | ⟨hid, hname⟩)
    · exact ⟨found, Or.inl hold, hname⟩
    · exact ⟨function, Or.inr ⟨hid, rfl⟩, hname⟩

/-! ## Changes -/

/-- The functions have the names that they had, and names are bound as they
were. -/
structure NamedAs (catalog after : Catalog Code) : Prop where
  names : after.names = catalog.names
  functions : ∀ id, after.functionName? id = catalog.functionName? id

namespace NamedAs

theorem refl (catalog : Catalog Code) : catalog.NamedAs catalog :=
  ⟨rfl, fun _ => rfl⟩

theorem trans {first second third : Catalog Code} (hfirst : first.NamedAs second)
    (hsecond : second.NamedAs third) : first.NamedAs third :=
  ⟨hsecond.names.trans hfirst.names,
    fun id => (hsecond.functions id).trans (hfirst.functions id)⟩

theorem create (catalog : Catalog Code) (name : String) :
    catalog.NamedAs (catalog.create name) :=
  ⟨rfl, fun _ => rfl⟩

theorem changeTests (catalog : Catalog Code) (tests : Std.TreeMap ℕ ℕ) :
    catalog.NamedAs { catalog with tests := tests } :=
  ⟨rfl, fun _ => rfl⟩

theorem modifyFunction (catalog : Catalog Code) (id : ℕ)
    {change : GenericFunction Code → GenericFunction Code}
    (hchange : ∀ function, (change function).name = function.name) :
    catalog.NamedAs (catalog.modifyFunction id change) :=
  ⟨rfl, functionName?_modifyFunction catalog id hchange⟩

theorem addEntry (catalog : Catalog Code) (id : ℕ) (entry : MethodEntry Code) :
    catalog.NamedAs (catalog.modifyFunction id (·.addEntry entry)) :=
  modifyFunction catalog id fun _ => rfl

theorem changeRole (catalog : Catalog Code) (id : ℕ) (role : Role)
    (tests : Std.TreeMap ℕ ℕ) :
    catalog.NamedAs { catalog.modifyFunction id ({ · with role := role }) with
      tests := tests } := by
  have hchanged : catalog.NamedAs
      (catalog.modifyFunction id ({ · with role := role })) :=
    modifyFunction catalog id fun _ => rfl
  exact hchanged.trans (changeTests _ tests)

theorem attachTest (catalog : Catalog Code) (type : Predicate) :
    (catalog.addFunction (membershipTest type)).NamedAs
      (catalog.attachTest type) :=
  changeTests _ _

end NamedAs

theorem Derived.namedAs {catalog after : Catalog Code} {parent child : Predicate}
    (hderived : catalog.Derived parent child after) : catalog.NamedAs after := by
  cases hderived with
  | covered _ _ => exact ⟨rfl, fun _ => rfl⟩
  | @answered linked test _ _ _ _ _ =>
      have hlinked : catalog.NamedAs (catalog.relink linked) :=
        ⟨rfl, fun _ => rfl⟩
      exact hlinked.trans (.addEntry _ test _)

theorem Reviewed.namedAs {catalog after : Catalog Code} {id : ℕ}
    (hreviewed : catalog.Reviewed id after) : catalog.NamedAs after := by
  cases hreviewed with
  | kept _ _ _ => exact .refl catalog
  | promoted _ _ _ hderived =>
      exact ((NamedAs.create catalog _).trans hderived.namedAs).trans
        (.changeRole _ id _ _)
  | demoted _ _ _ => exact .changeRole catalog id _ _

/-- Beside the functions that an operation makes, nothing about names changes,
and it makes one at most. -/
theorem Attempted.namedAs {catalog after : Catalog Code}
    {operation : Operation Code} {new : List Event}
    (hattempted : catalog.Attempted operation after new) :
    catalog.NamedAs after ∨
      ∃ function, (catalog.addFunction function).NamedAs after := by
  cases hattempted with
  | definitionRefused _ => exact Or.inl (.create catalog _)
  | promotionRefused _ _ _ =>
      exact Or.inl ((NamedAs.addEntry catalog _ _).trans (.create _ _))
  | performed hperformed =>
      cases hperformed with
      | unchanged => exact Or.inl (.refl catalog)
      | createdPredicate name => exact Or.inl (.create catalog name)
      | @defined name _ derived hderived =>
          have hkept := (NamedAs.create catalog name).trans hderived.namedAs
          have hnext : derived.nextFunction = catalog.nextFunction :=
            hderived.nextFunction_eq
          let test : GenericFunction Code :=
            membershipTest (catalog.hierarchy.fresh name)
          have hadded : (catalog.addFunction test).NamedAs
              (derived.addFunction test) := by
            refine ⟨?_, fun id => Option.ext fun other => ?_⟩
            · rw [addFunction, addFunction, hkept.names, hnext]
            · rw [functionName?_addFunction_eq_some_iff,
                functionName?_addFunction_eq_some_iff, hkept.functions, hnext]
          exact Or.inr ⟨test, hadded.trans (.attachTest derived _)⟩
      | derived hderived => exact Or.inl hderived.namedAs
      | createdFunction name => exact Or.inr ⟨_, .refl _⟩
      | registered _ hreviewed =>
          exact Or.inl ((NamedAs.addEntry catalog _ _).trans hreviewed.namedAs)
      | defaulted _ => exact Or.inl (.modifyFunction catalog _ fun _ => rfl)

end Catalog

/-- What holds before there are functions, and stays when functions are added,
holds in every registry, as long as it is about names only. -/
theorem Registry.Reachable.names_induction {motive : Catalog Code → Prop}
    (hempty : ∀ metric hierarchy,
      motive { metric := metric, hierarchy := hierarchy })
    (hadd : ∀ catalog function, motive catalog →
      motive (catalog.addFunction function))
    (hsame : ∀ catalog after, catalog.NamedAs after → motive catalog →
      motive after)
    {registry : Registry Code} (hreachable : registry.Reachable) :
    motive registry.toCatalog := by
  induction hreachable with
  | fresh configuration =>
      have hkernel : ∀ (types : List Predicate) (catalog : Catalog Code),
          motive catalog → motive (types.foldl Catalog.attachTest catalog) := by
        intro types
        induction types with
        | nil => exact fun _ hcatalog => hcatalog
        | cons type rest ih =>
            exact fun catalog hcatalog => ih _ (hsame _ _ (.attachTest catalog type)
              (hadd catalog _ hcatalog))
      exact hkernel _ _ (hempty _ _)
  | perform operation hreachable _ ih =>
      rcases (attempted hreachable.orderly operation).namedAs with
        hkept | ⟨function, hadded⟩
      · exact hsame _ _ hkept ih
      · exact hsame _ _ hadded (hadd _ function ih)

/-! ## Names and functions -/

namespace Catalog

theorem NamesNewest.addFunction {catalog : Catalog Code}
    (hnewest : catalog.NamesNewest) (function : GenericFunction Code) :
    (catalog.addFunction function).NamesNewest := by
  intro name id hnamed
  change (catalog.names.insert function.name catalog.nextFunction)[name]? =
    some id at hnamed
  rw [Std.TreeMap.getElem?_insert] at hnamed
  rw [IsNewest]
  simp only [functionName?_addFunction_eq_some_iff]
  split at hnamed
  case isTrue hsame =>
    obtain rfl := Option.some.inj hnamed
    refine ⟨Or.inr ⟨rfl, Std.LawfulEqCmp.eq_of_compare hsame⟩, ?_⟩
    rintro other (hold | ⟨rfl, -⟩)
    · exact (lt_of_functionName?_eq_some hold).le
    · exact le_rfl
  case isFalse hother =>
    obtain ⟨hid, hle⟩ := hnewest name id hnamed
    refine ⟨Or.inl hid, ?_⟩
    rintro other (hold | ⟨-, hname⟩)
    · exact hle other hold
    · exact absurd (hname ▸ Std.ReflCmp.compare_self) hother

/-- Every function has a name that is bound. -/
def NamesBound (catalog : Catalog Code) : Prop :=
  ∀ name id, catalog.functionName? id = some name →
    ∃ newest, catalog.named? name = some newest

theorem NamesBound.addFunction {catalog : Catalog Code}
    (hbound : catalog.NamesBound) (function : GenericFunction Code) :
    (catalog.addFunction function).NamesBound := by
  intro name id hname
  change ∃ newest,
    (catalog.names.insert function.name catalog.nextFunction)[name]? = some newest
  rw [Std.TreeMap.getElem?_insert]
  split
  case isTrue => exact ⟨_, rfl⟩
  case isFalse hother =>
    rcases functionName?_addFunction_eq_some_iff.mp hname with hold | ⟨-, hsame⟩
    · exact hbound name id hold
    · exact absurd (hsame ▸ Std.ReflCmp.compare_self) hother

end Catalog

namespace Registry.Reachable

variable {registry : Registry Code} (hreachable : registry.Reachable)
include hreachable

/-- In every registry a name stands for the newest function of that name. -/
theorem namesNewest : registry.toCatalog.NamesNewest := by
  refine hreachable.names_induction (fun metric hierarchy name id hname => ?_)
    (fun _ function hnewest => hnewest.addFunction function)
    fun catalog after hsame hnewest name id hname => ?_
  · simp [Catalog.named?] at hname
  · rw [Catalog.named?, hsame.names] at hname
    rw [Catalog.IsNewest]
    simp only [hsame.functions]
    exact hnewest name id hname

/-- In every registry each function can be found by its name, or a newer one
can. -/
theorem namesBound : registry.toCatalog.NamesBound := by
  refine hreachable.names_induction (fun metric hierarchy name id hname => ?_)
    (fun _ function hbound => hbound.addFunction function)
    fun catalog after hsame hbound name id hname => ?_
  · simp [Catalog.functionName?, Catalog.function?] at hname
  · rw [Catalog.named?, hsame.names]
    exact hbound name id (hsame.functions id ▸ hname)

end Registry.Reachable

end PredicateDispatch
