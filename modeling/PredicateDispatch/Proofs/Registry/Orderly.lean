import PredicateDispatch.Proofs.Registry.WellKept

/-!
# Orderly catalogs

Part of what holds of a catalog holds wherever the handles come from that it
was asked about: the stored relatives are exact, no table has two entries for
the same argument types, and the tests are functions that exist.  Every single
change that operations are made of keeps a catalog orderly.
-/

namespace PredicateDispatch

variable {Code : Type}

namespace Catalog

structure Orderly (catalog : Catalog Code) : Prop where
  coherent : catalog.hierarchy.Coherent
  nodup : ∀ id function, catalog.function? id = some function →
    function.argumentIds.Nodup
  tests : ∀ (type test : ℕ), catalog.tests[type]? = some test →
    test < catalog.nextFunction

theorem WellKept.orderly {events : List Event} {catalog : Catalog Code}
    (hkept : catalog.WellKept events) : catalog.Orderly where
  coherent := hkept.coherent
  nodup id function hfunction := (hkept.functions id function hfunction).nodup
  tests type test htest := by
    obtain ⟨function, -, hfunction, -, -⟩ :=
      tested?_eq_some_iff.mp ((hkept.tests_iff type test).mp htest)
    exact lt_of_function?_eq_some hfunction

theorem nextFunction_modifyFunction (catalog : Catalog Code) (id : ℕ)
    (change : GenericFunction Code → GenericFunction Code) :
    (catalog.modifyFunction id change).nextFunction = catalog.nextFunction :=
  Array.size_modify

theorem nextFunction_addFunction (catalog : Catalog Code)
    (function : GenericFunction Code) :
    (catalog.addFunction function).nextFunction = catalog.nextFunction + 1 :=
  Array.size_push _

namespace Orderly

variable {catalog : Catalog Code} (horderly : catalog.Orderly)
include horderly

theorem exists_function? {type : Predicate} {test : ℕ}
    (htest : catalog.membershipTest? type = some test) :
    ∃ function, catalog.function? test = some function :=
  ⟨_, Array.getElem?_eq_getElem (horderly.tests type.id test htest)⟩

theorem create (name : String) : (catalog.create name).Orderly where
  coherent := horderly.coherent.create name
  nodup := horderly.nodup
  tests := horderly.tests

theorem relink {linked : Hierarchy} {parent child : Predicate}
    (hlink : catalog.hierarchy.link parent child = .ok linked) :
    (catalog.relink linked).Orderly where
  coherent := horderly.coherent.link hlink
  nodup := horderly.nodup
  tests := horderly.tests

theorem modifyFunction (id : ℕ)
    {change : GenericFunction Code → GenericFunction Code}
    (hchange : ∀ function, function.argumentIds.Nodup →
      (change function).argumentIds.Nodup) :
    (catalog.modifyFunction id change).Orderly where
  coherent := horderly.coherent
  nodup other found hfound := by
    cases hfunction : catalog.function? id with
    | some function =>
        exact forall_function?_modifyFunction hfunction
          (hchange function (horderly.nodup id function hfunction))
          (fun other found _ => horderly.nodup other found) other found hfound
    | none =>
        have hne : other ≠ id := by
          rintro rfl
          rw [Registry.function?_modifyFunction_self, hfunction] at hfound
          cases hfound
        rw [Registry.function?_modifyFunction_of_ne _ hne] at hfound
        exact horderly.nodup other found hfound
  tests type test htest := by
    rw [nextFunction_modifyFunction]
    exact horderly.tests type test htest

theorem addEntry (id : ℕ) (entry : MethodEntry Code) :
    (catalog.modifyFunction id (·.addEntry entry)).Orderly :=
  horderly.modifyFunction id fun _ hnodup =>
    GenericFunction.nodup_addEntry hnodup entry

theorem addFunction {function : GenericFunction Code}
    (hnodup : function.argumentIds.Nodup) :
    (catalog.addFunction function).Orderly where
  coherent := horderly.coherent
  nodup id found hfound := by
    rcases function?_addFunction_eq_some_iff.mp hfound with hold | ⟨-, rfl⟩
    · exact horderly.nodup id found hold
    · exact hnodup
  tests type test htest := by
    rw [nextFunction_addFunction]
    exact Nat.lt_succ_of_lt (horderly.tests type test htest)

/-- One more test, by a function that exists. -/
theorem insertTest {type test : ℕ} (htest : test < catalog.nextFunction) :
    Orderly { catalog with tests := catalog.tests.insert type test } where
  coherent := horderly.coherent
  nodup := horderly.nodup
  tests key found hfound := by
    rw [Std.TreeMap.getElem?_insert] at hfound
    split at hfound
    · obtain rfl := Option.some.inj hfound
      exact htest
    · exact horderly.tests key found hfound

theorem eraseTest (type : ℕ) :
    Orderly { catalog with tests := catalog.tests.erase type } where
  coherent := horderly.coherent
  nodup := horderly.nodup
  tests key found hfound := by
    rw [Std.TreeMap.getElem?_erase] at hfound
    split at hfound
    · cases hfound
    · exact horderly.tests key found hfound

theorem attachTest (type : Predicate) : (catalog.attachTest type).Orderly := by
  refine (horderly.addFunction
    (GenericFunction.nodup_membershipTest type)).insertTest ?_
  rw [nextFunction_addFunction]
  exact Nat.lt_succ_self _

theorem changeRole (id : ℕ) (role : Role) :
    (catalog.modifyFunction id ({ · with role := role })).Orderly :=
  horderly.modifyFunction id fun _ hnodup => hnodup

theorem adopt {id : ℕ} {function : GenericFunction Code}
    (hfunction : catalog.function? id = some function) (type : Predicate) :
    (catalog.adopt id type).Orderly := by
  refine (horderly.changeRole id (.promoted type)).insertTest ?_
  rw [nextFunction_modifyFunction]
  exact lt_of_function?_eq_some hfunction

theorem demote (id : ℕ) (type : Predicate) : (catalog.demote id type).Orderly :=
  (horderly.changeRole id .ordinary).eraseTest type.id

theorem setDefault (id : ℕ) (fallback : DefaultEntry Code) :
    (catalog.modifyFunction id ({ · with fallback := some fallback })).Orderly :=
  horderly.modifyFunction id fun _ hnodup => hnodup

end Orderly

end Catalog

end PredicateDispatch
