import PredicateDispatch.Proofs.Dispatch.Locality
import PredicateDispatch.Proofs.Registry.Names
import PredicateDispatch.Proofs.Registry.Persistence

/-!
# Extensions that leave everything as it was

New predicates below the root, new functions, and entries of new functions change
nothing about what was there before: no parent and no ancestor, no membership test,
no function, and no selection for predicates that existed.  The test of the root
in particular is never extended, because it has an entry for the root itself.
-/

namespace PredicateDispatch

variable {Code : Type}

namespace Catalog

/-- Everything in the first catalog is the same in the second one, apart from some
functions and from predicates that they test. -/
structure Spares (touched : Set ℕ) (before after : Catalog Code) : Prop where
  remains : before.Remains after
  parent? : ∀ type, before.hierarchy.Knows type →
    after.hierarchy.parent? type = before.hierarchy.parent? type
  ancestorsOf : ∀ type, before.hierarchy.Knows type →
    after.hierarchy.ancestorsOf type = before.hierarchy.ancestorsOf type
  membershipTest? : ∀ type, before.hierarchy.Knows type →
    (∀ test, before.membershipTest? type = some test → test ∉ touched) →
      after.membershipTest? type = before.membershipTest? type
  function? : ∀ id function, id ∉ touched →
    before.function? id = some function → after.function? id = some function
  selectsAlike : ∀ id types, id ∉ touched →
    (∀ type ∈ types, before.hierarchy.Knows type) →
      SelectsAlike id types before after

namespace Spares

variable {touched : Set ℕ}

theorem refl (touched : Set ℕ) (catalog : Catalog Code) :
    Spares touched catalog catalog where
  remains := .refl catalog
  parent? _ _ := rfl
  ancestorsOf _ _ := rfl
  membershipTest? _ _ _ := rfl
  function? _ _ _ hfunction := hfunction
  selectsAlike _ _ _ _ := .refl catalog

theorem knows {before after : Catalog Code} (hspares : Spares touched before after)
    {type : Predicate} (hknown : before.hierarchy.Knows type) :
    after.hierarchy.Knows type := by
  have hstored := Array.getElem?_eq_getElem hknown
  exact (Array.getElem?_eq_some_iff.mp (hspares.remains.predicates _ _ hstored)).1

theorem trans {first second third : Catalog Code}
    (hfirst : Spares touched first second)
    (hsecond : Spares touched second third) : Spares touched first third where
  remains := hfirst.remains.trans hsecond.remains
  parent? type hknown :=
    (hsecond.parent? type (hfirst.knows hknown)).trans (hfirst.parent? type hknown)
  ancestorsOf type hknown :=
    (hsecond.ancestorsOf type (hfirst.knows hknown)).trans
      (hfirst.ancestorsOf type hknown)
  membershipTest? type hknown htouched := by
    have htest := hfirst.membershipTest? type hknown htouched
    rw [← htest] at htouched ⊢
    exact hsecond.membershipTest? type (hfirst.knows hknown) htouched
  function? id function hid hfunction :=
    hsecond.function? id function hid (hfirst.function? id function hid hfunction)
  selectsAlike id types hid hknown :=
    (hfirst.selectsAlike id types hid hknown).trans
      (hsecond.selectsAlike id types hid fun type htype =>
        hfirst.knows (hknown type htype))

/-! ### Single changes -/

theorem changeTests {before after : Catalog Code}
    (hspares : Spares touched before after) {tests : Std.TreeMap ℕ ℕ}
    (htests : ∀ type, before.hierarchy.Knows type →
      (∀ test, before.membershipTest? type = some test → test ∉ touched) →
        tests[type.id]? = after.tests[type.id]?) :
    Spares touched before { after with tests := tests } where
  remains := hspares.remains.trans (.changeTests after tests)
  parent? := hspares.parent?
  ancestorsOf := hspares.ancestorsOf
  membershipTest? type hknown htouched :=
    (htests type hknown htouched).trans
      (hspares.membershipTest? type hknown htouched)
  function? := hspares.function?
  selectsAlike id types hid hknown :=
    (hspares.selectsAlike id types hid hknown).trans (.of_eq rfl rfl fun _ => rfl)

/-- A test for a predicate that is new to the first catalog. -/
theorem insertTest {before after : Catalog Code} (hspares : Spares touched before after)
    {type : Predicate} (hnew : ¬ before.hierarchy.Knows type) (test : ℕ) :
    Spares touched before
      { after with tests := after.tests.insert type.id test } := by
  refine hspares.changeTests fun other hknown _ => ?_
  have hne : compare type.id other.id ≠ .eq := by
    intro heq
    rw [Hierarchy.Knows, ← Std.LawfulEqCmp.eq_of_compare heq] at hknown
    exact hnew hknown
  rw [Std.TreeMap.getElem?_insert, if_neg hne]

theorem addFunction (touched : Set ℕ) (catalog : Catalog Code)
    (function : GenericFunction Code) :
    Spares touched catalog (catalog.addFunction function) where
  remains := .addFunction catalog function
  parent? _ _ := rfl
  ancestorsOf _ _ := rfl
  membershipTest? _ _ _ := rfl
  function? _ _ _ hfunction := Registry.function?_addFunction_of_some hfunction
  selectsAlike _ _ _ _ := .addFunction catalog function

theorem modifyFunction (catalog : Catalog Code) {id : ℕ} (hid : id ∈ touched)
    {change : GenericFunction Code → GenericFunction Code}
    (hchange : ∀ function : GenericFunction Code,
      function.Remains (change function)) :
    Spares touched catalog (catalog.modifyFunction id change) where
  remains := .modifyFunction catalog id hchange
  parent? _ _ := rfl
  ancestorsOf _ _ := rfl
  membershipTest? _ _ _ := rfl
  function? other function hother hfunction := by
    rw [Registry.function?_modifyFunction_of_ne]
    · exact hfunction
    · exact fun heq => hother (heq ▸ hid)
  selectsAlike other _ hother _ :=
    .modifyFunction catalog id (Or.inl fun heq => hother (heq ▸ hid))

end Spares

section WellKept

variable {touched : Set ℕ} {events : List Event} {catalog : Catalog Code}
  (hkept : catalog.WellKept events)
include hkept

/-- A new predicate, if the test of its parent needs no new entry or is one of the
functions that may change. -/
theorem WellKept.spares_derive_fresh {name : String} {parent : Predicate}
    {derived : Catalog Code}
    (hderived : (catalog.create name).Derived parent
      (catalog.hierarchy.fresh name) derived)
    (hcovered : ∀ test function, catalog.membershipTest? parent = some test →
      catalog.function? test = some function → test ∉ touched →
        function.Declares parent.id) :
    Spares touched catalog derived where
  remains := (Remains.create catalog name).trans hderived.remains
  parent? type hknown :=
    Hierarchy.parent?_link_of_ne hderived.link_eq (hknown.ne_fresh name).symm
  ancestorsOf type hknown :=
    Hierarchy.ancestorsOf_link_of_apart hderived.link_eq
      (hkept.coherent.create name)
      (hkept.confined.isA_fresh_eq_false hkept.coherent name hknown)
  membershipTest? type _ _ := by
    rw [Catalog.membershipTest?, hderived.tests_eq]
    rfl
  function? id function hid hfunction := by
    rcases hderived.function?_of_some hfunction with hsame | ⟨htest, hnew, -⟩
    · exact hsame
    · exact absurd (Or.inr (hcovered id function htest hfunction hid)) hnew
  selectsAlike id _ _ hknown := hkept.selectsAlike_derive_fresh id hknown hderived

/-- The test of the root has an entry for the root. -/
theorem WellKept.declares_any (hdefined : Event.defined Predicate.any 0 ∈ events)
    {test : ℕ} {function : GenericFunction Code}
    (htest : catalog.membershipTest? Predicate.any = some test)
    (hfunction : catalog.function? test = some function) :
    function.Declares Predicate.any.id := by
  obtain ⟨found, hfound, hrole, htest'⟩ := hkept.exists_of_defined hdefined
  obtain rfl := Option.some.inj (htest'.symm.trans htest)
  obtain rfl := Option.some.inj (hfound.symm.trans hfunction)
  exact ((hkept.functions _ _ hfound).defined _ hrole).1

/-- A review concerns the function that is reviewed. -/
theorem WellKept.spares_review
    (hdefined : Event.defined Predicate.any 0 ∈ events) {id : ℕ}
    (hid : id ∈ touched) {after : Catalog Code}
    (hreviewed : catalog.Reviewed id after) : Spares touched catalog after := by
  cases hreviewed with
  | kept _ _ _ => exact .refl touched catalog
  | @promoted function derived _ _ _ hderived =>
      have hlinked : Spares touched catalog derived :=
        hkept.spares_derive_fresh hderived fun test function htest hfunction _ =>
          hkept.declares_any hdefined htest hfunction
      have hadopted : Spares touched derived (derived.modifyFunction id
          ({ · with role := .promoted (catalog.hierarchy.fresh function.name) })) :=
        .modifyFunction derived hid fun function => .refl function
      exact (hlinked.trans hadopted).insertTest
        (catalog.hierarchy.not_knows_fresh _) id
  | @demoted function type hfunction _ hrole =>
      have hchanged : Spares touched catalog
          (catalog.modifyFunction id ({ · with role := .ordinary })) :=
        .modifyFunction catalog hid fun function => .refl function
      have htest : catalog.membershipTest? type = some id :=
        (hkept.tests_iff _ _).mpr (tested?_eq_some_iff.mpr
          ⟨function, type, hfunction,
            GenericFunction.predicate?_of_promoted hrole, rfl⟩)
      refine hchanged.changeTests fun other _ htouched => ?_
      have hne : compare type.id other.id ≠ .eq := by
        intro heq
        rw [Catalog.membershipTest?, Std.LawfulEqCmp.eq_of_compare heq] at htest
        exact htouched id htest hid
      change (catalog.tests.erase type.id)[other.id]? = catalog.tests[other.id]?
      rw [Std.TreeMap.getElem?_erase, if_neg hne]

end WellKept

end Catalog

/-! ## Operations on registries with a past -/

namespace Registry.Past

open Catalog (Spares)

variable {touched : Set ℕ} {registry : Registry Code} {events : List Event}
  (hpast : registry.Past events)
include hpast

theorem definePredicate_spares {parent : Predicate}
    (hparent : registry.hierarchy.Knows parent)
    (hcovered : parent = Predicate.any ∨
      ∃ test ∈ touched, Event.defined parent test ∈ events) (name : String) :
    ∃ after : Registry Code,
      registry.definePredicate name parent =
        (.ok (registry.hierarchy.fresh name), after) ∧
      after.Past (.defined (registry.hierarchy.fresh name)
        registry.nextFunction :: events) ∧
      Spares touched registry.toCatalog after.toCatalog ∧
      after.names = registry.names.insert name registry.nextFunction := by
  have hkept := hpast.wellKept
  obtain ⟨derived, after, hderived, hdefine, hafter⟩ :=
    definePredicate_of_knows hkept hparent name
  have hafter_past := hpast.perform (.definePredicate name parent) trivial hparent
  rw [Operation.perform, Operation.events, hdefine] at hafter_past
  have hlinked : Spares touched registry.toCatalog derived := by
    refine hkept.spares_derive_fresh hderived fun test function htest hfunction hnot => ?_
    rcases hcovered with rfl | ⟨test', htouched, hdefined⟩
    · exact hkept.declares_any hpast.defined_any htest hfunction
    · obtain ⟨-, -, -, htest'⟩ := hkept.exists_of_defined hdefined
      obtain rfl := Option.some.inj (htest'.symm.trans htest)
      exact absurd htouched hnot
  refine ⟨after, hdefine, hafter_past, ?_, ?_⟩
  · rw [hafter]
    exact (hlinked.trans (.addFunction touched derived _)).insertTest
      (registry.hierarchy.not_knows_fresh name) _
  · rw [hafter]
    change derived.names.insert name derived.nextFunction = _
    rw [hderived.names_eq, hderived.nextFunction_eq]
    rfl

theorem register_spares {id : ℕ} (hid : id ∈ touched)
    {function : GenericFunction Code}
    (hfunction : registry.function? id = some function)
    (entry : MethodEntry Code) :
    ∃ after : Registry Code, registry.register id entry = (.ok (), after) ∧
      after.Past (.registered id entry.arguments :: events) ∧
      Spares touched registry.toCatalog after.toCatalog ∧
      after.names = registry.names := by
  have hkept := hpast.wellKept
  obtain ⟨after, hregister, hreviewed⟩ :=
    register_of_function? hkept hpast.knows_any hfunction entry
  have hafter := hpast.perform (.register id entry) trivial trivial
  rw [Operation.perform, Operation.events, hfunction, hregister] at hafter
  have hentry : Spares touched registry.toCatalog
      (registry.modifyFunction id (·.addEntry entry)) :=
    .modifyFunction _ hid fun function => .addEntry function entry
  refine ⟨after, hregister, hafter, hentry.trans ?_, ?_⟩
  · exact (hkept.addEntry hfunction entry).spares_review
      (List.mem_cons_of_mem _ hpast.defined_any) hid hreviewed
  · exact hreviewed.names_eq

end Registry.Past

/-! ## What is left alone -/

namespace Registry

/-- Whatever is in the first registry is in the second one as it was: predicates
with their parents, ancestors and membership tests, functions with their entries,
defaults and roles, and what they select for those predicates. -/
structure Conserves (before after : Registry Code) : Prop where
  predicates : ∀ (id : ℕ) type, before.hierarchy.predicates[id]? = some type →
    after.hierarchy.predicates[id]? = some type
  parent? : ∀ type, before.hierarchy.Knows type →
    after.hierarchy.parent? type = before.hierarchy.parent? type
  ancestorsOf : ∀ type, before.hierarchy.Knows type →
    after.hierarchy.ancestorsOf type = before.hierarchy.ancestorsOf type
  membershipTest? : ∀ type, before.hierarchy.Knows type →
    after.membershipTest? type = before.membershipTest? type
  function? : ∀ id function, before.function? id = some function →
    after.function? id = some function
  resolve : ∀ id function types tolerateTie, before.function? id = some function →
    (∀ type ∈ types, before.hierarchy.Knows type) →
      (after.resolve id types tolerateTie).1 = (before.resolve id types tolerateTie).1

theorem Past.conserves_of_spares {before after : Registry Code}
    {events events' : List Event} (hbefore : before.Past events)
    (hafter : after.Past events')
    (hspares : Catalog.Spares {id | before.nextFunction ≤ id} before.toCatalog
      after.toCatalog) : before.Conserves after where
  predicates := hspares.remains.predicates
  parent? := hspares.parent?
  ancestorsOf := hspares.ancestorsOf
  membershipTest? type hknown := hspares.membershipTest? type hknown
    fun test htest => Nat.not_le_of_lt
      (hbefore.wellKept.orderly.tests type.id test htest)
  function? id function hfunction := hspares.function? id function
    (Nat.not_le_of_lt (Catalog.lt_of_function?_eq_some hfunction)) hfunction
  resolve id _ types tolerateTie hfunction hknown :=
    resolve_eq_of_selectsAlike hbefore.reachable.cacheSound
      hafter.reachable.cacheSound hfunction
      (hspares.selectsAlike id types
        (Nat.not_le_of_lt (Catalog.lt_of_function?_eq_some hfunction)) hknown)
      tolerateTie

end Registry

end PredicateDispatch
