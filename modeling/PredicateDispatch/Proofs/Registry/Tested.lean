import PredicateDispatch.Proofs.Registry.Fitted

/-!
# Tests that keep their entries

In every registry, whatever handles it was asked about, the test map and the roles of
the functions are inverse to each other.  So a function that was made as the test of a
predicate is that for ever.  As it has an entry for the predicate itself, no derivation
gives it another one, and its entries are those that it was made with and those that
were registered on it.
-/

namespace PredicateDispatch

variable {Code : Type}

namespace Catalog

/-! ## Tests of predicates that exist -/

/-- The tests are known by the roles of functions, and are of predicates that have been
created. -/
structure Accounted (catalog : Catalog Code) : Prop where
  tests_match : catalog.TestsMatch
  known : ∀ (type test : ℕ), catalog.tests[type]? = some test →
    type < catalog.hierarchy.predicates.size

theorem WellKept.accounted {events : List Event} {catalog : Catalog Code}
    (hkept : catalog.WellKept events) : catalog.Accounted where
  tests_match := hkept.tests_iff
  known type test htest := by
    obtain ⟨function, tested, hfunction, htested, rfl⟩ :=
      tested?_eq_some_iff.mp ((hkept.tests_iff type test).mp htest)
    have hthere := ((hkept.functions test function hfunction).tested tested htested).1
    exact (Array.getElem?_eq_some_iff.mp hthere).1

theorem Derived.role?_eq {catalog after : Catalog Code} {parent child : Predicate}
    (hderived : catalog.Derived parent child after) : after.role? = catalog.role? := by
  cases hderived with
  | covered _ _ => rfl
  | answered _ _ _ _ => exact role?_modifyFunction_of_kept _ _ fun _ => rfl

namespace Accounted

variable {catalog after : Catalog Code} (haccounted : catalog.Accounted)
include haccounted

/-- A change that leaves the tests and the roles alone, and no predicate out. -/
theorem of_role?_eq (htests : after.tests = catalog.tests)
    (hroles : after.role? = catalog.role?)
    (hsize : catalog.hierarchy.predicates.size ≤ after.hierarchy.predicates.size) :
    after.Accounted where
  tests_match := haccounted.tests_match.of_role?_eq htests hroles
  known type test htest := by
    rw [htests] at htest
    exact (haccounted.known type test htest).trans_le hsize

theorem create (name : String) : (catalog.create name).Accounted := by
  refine haccounted.of_role?_eq rfl rfl ?_
  change _ ≤ (catalog.hierarchy.predicates.push _).size
  rw [Array.size_push]
  exact Nat.le_succ _

theorem derived {parent child : Predicate}
    (hderived : catalog.Derived parent child after) : after.Accounted := by
  refine haccounted.of_role?_eq hderived.tests_eq hderived.role?_eq ?_
  rw [Hierarchy.predicates_of_link hderived.link_eq]

theorem modifyFunction (id : ℕ)
    {change : GenericFunction Code → GenericFunction Code}
    (hrole : ∀ function, (change function).role = function.role) :
    (catalog.modifyFunction id change).Accounted :=
  haccounted.of_role?_eq rfl (catalog.role?_modifyFunction_of_kept id hrole) le_rfl

theorem createFunction (name : String) :
    (catalog.addFunction { name := name }).Accounted where
  tests_match := haccounted.tests_match.createFunction name
  known := haccounted.known

/-- A predicate that has just been made has no test yet, but is known. -/
theorem fresh_of_derived {name : String} {parent : Predicate}
    (hderived : (catalog.create name).Derived parent (catalog.hierarchy.fresh name)
      after) :
    after.Accounted ∧
      after.membershipTest? (catalog.hierarchy.fresh name) = none ∧
      (catalog.hierarchy.fresh name).id < after.hierarchy.predicates.size := by
  refine ⟨(haccounted.create name).derived hderived, ?_, ?_⟩
  · rw [membershipTest?, hderived.tests_eq, Option.eq_none_iff_forall_ne_some]
    intro test htest
    exact lt_irrefl _ (haccounted.known _ test htest)
  · rw [Hierarchy.predicates_of_link hderived.link_eq]
    exact catalog.hierarchy.knows_fresh name

theorem insertTest {type test : ℕ} {tests : Std.TreeMap ℕ ℕ}
    (hknown : type < catalog.hierarchy.predicates.size)
    (htests : tests = catalog.tests.insert type test) (key found : ℕ)
    (hfound : tests[key]? = some found) : key < catalog.hierarchy.predicates.size := by
  rw [htests, Std.TreeMap.getElem?_insert] at hfound
  split at hfound
  case isTrue heq => rwa [← Std.LawfulEqCmp.eq_of_compare heq]
  case isFalse => exact haccounted.known key found hfound

theorem reviewed {id : ℕ} (hreviewed : catalog.Reviewed id after) : after.Accounted := by
  cases hreviewed with
  | kept _ _ _ => exact haccounted
  | @promoted function derived hfunction _ hrole hderived =>
      obtain ⟨hbetween, hfree, hknown⟩ := haccounted.fresh_of_derived hderived
      have hrole? : derived.role? id = some .ordinary := by
        rw [hderived.role?_eq]
        exact (role?_of_function? hfunction).trans (congrArg some hrole)
      obtain ⟨found, hfound, hordinary⟩ := Option.map_eq_some_iff.mp hrole?
      exact {
        tests_match := hbetween.tests_match.adopt hfound hordinary hfree
        known := hbetween.insertTest hknown rfl }
  | demoted hfunction _ hrole =>
      exact {
        tests_match := haccounted.tests_match.demote hfunction hrole
        known := fun key found hfound => by
          change (catalog.tests.erase _)[key]? = some found at hfound
          rw [Std.TreeMap.getElem?_erase] at hfound
          split at hfound
          · cases hfound
          · exact haccounted.known key found hfound }

/-- No operation brings tests and roles apart. -/
theorem attempted {operation : Operation Code} {new : List Event}
    (hattempted : catalog.Attempted operation after new) : after.Accounted := by
  have hadded : ∀ id entry,
      (catalog.modifyFunction id (·.addEntry entry)).Accounted := fun id entry =>
    haccounted.modifyFunction id fun _ => rfl
  cases hattempted with
  | definitionRefused _ => exact haccounted.create _
  | promotionRefused _ _ _ => exact (hadded _ _).create _
  | performed hperformed =>
      cases hperformed with
      | unchanged => exact haccounted
      | createdPredicate name => exact haccounted.create name
      | defined hderived =>
          obtain ⟨hbetween, hfree, hknown⟩ := haccounted.fresh_of_derived hderived
          exact {
            tests_match := hbetween.tests_match.attachTest hfree
            known := hbetween.insertTest hknown rfl }
      | derived hderived => exact haccounted.derived hderived
      | createdFunction name => exact haccounted.createFunction name
      | registered _ hreviewed => exact (hadded _ _).reviewed hreviewed
      | defaulted _ => exact haccounted.modifyFunction _ fun _ => rfl

end Accounted

/-! ## Tests with their entries -/

/-- The function was made as the test of the predicate, and has these entries, one of
them for the predicate itself. -/
def Tested (catalog : Catalog Code) (type : Predicate) (test : ℕ)
    (entries : List (MethodEntry Code)) : Prop :=
  ∃ function, catalog.function? test = some function ∧ function.entries = entries ∧
    function.role = .defined type ∧ function.Declares type.id

namespace Tested

variable {catalog after : Catalog Code} {type : Predicate} {test : ℕ}
  {entries : List (MethodEntry Code)} (htested : catalog.Tested type test entries)
include htested

theorem tested?_eq : catalog.tested? test = some type.id := by
  obtain ⟨function, hfunction, -, hrole, -⟩ := htested
  exact tested?_eq_some_iff.mpr ⟨function, type, hfunction,
    GenericFunction.predicate?_of_defined hrole, rfl⟩

theorem membershipTest? (hmatch : catalog.TestsMatch) :
    catalog.membershipTest? type = some test :=
  (hmatch type.id test).mpr htested.tested?_eq

theorem create (name : String) : (catalog.create name).Tested type test entries :=
  htested

theorem modifyFunction_of_ne {other : ℕ} (hne : test ≠ other)
    (change : GenericFunction Code → GenericFunction Code) :
    (catalog.modifyFunction other change).Tested type test entries := by
  rw [Tested, Registry.function?_modifyFunction_of_ne _ hne]
  exact htested

theorem setDefault {other : ℕ}
    {fallback : Option (DefaultEntry Code)} :
    (catalog.modifyFunction other ({ · with fallback := fallback })).Tested type test
      entries := by
  by_cases hid : test = other
  · subst hid
    obtain ⟨function, hfunction, hrest⟩ := htested
    refine ⟨{ function with fallback := fallback }, ?_, hrest⟩
    rw [Registry.function?_modifyFunction_self, hfunction]
    rfl
  · exact htested.modifyFunction_of_ne hid _

theorem addFunction (function : GenericFunction Code) :
    (catalog.addFunction function).Tested type test entries := by
  obtain ⟨found, hfound, hrest⟩ := htested
  exact ⟨found, Registry.function?_addFunction_of_some hfound, hrest⟩

/-- A link under the type does not need an entry of its own. -/
theorem derived {parent child : Predicate} (hmatch : catalog.TestsMatch)
    (hderived : catalog.Derived parent child after) :
    after.Tested type test entries := by
  have hown := htested.tested?_eq
  obtain ⟨function, hfunction, hentries, hrole, hdeclares⟩ := htested
  rcases hderived.function?_of_some hfunction with hsame | ⟨hasked, hnew, -⟩
  · exact ⟨function, hsame, hentries, hrole, hdeclares⟩
  · have hparent : type.id = parent.id :=
      Option.some.inj (hown.symm.trans ((hmatch parent.id test).mp hasked))
    exact absurd (Or.inr (hparent ▸ hdeclares)) hnew

theorem reviewed_of_ne {other : ℕ} (hne : test ≠ other) (hmatch : catalog.TestsMatch)
    (hreviewed : catalog.Reviewed other after) :
    after.Tested type test entries := by
  cases hreviewed with
  | kept _ _ _ => exact htested
  | promoted _ _ _ hderived =>
      exact ((htested.create _).derived hmatch hderived).modifyFunction_of_ne hne _
  | demoted _ _ _ => exact htested.modifyFunction_of_ne hne _

/-- Nothing changes the entries but a registration on that function. -/
theorem attempted {operation : Operation Code} {new : List Event}
    (hmatch : catalog.TestsMatch) (hattempted : catalog.Attempted operation after new)
    (hid : test ∉ operation.registered) : after.Tested type test entries := by
  cases hattempted with
  | definitionRefused _ => exact htested
  | promotionRefused _ _ _ => exact htested.modifyFunction_of_ne hid _
  | performed hperformed =>
      cases hperformed with
      | unchanged => exact htested
      | createdPredicate name => exact htested
      | defined hderived =>
          exact ((htested.create _).derived hmatch hderived).addFunction _
      | derived hderived => exact htested.derived hmatch hderived
      | createdFunction name => exact htested.addFunction _
      | @registered other entry _ _ _ hreviewed =>
          have hadded : (catalog.modifyFunction other (·.addEntry entry)).TestsMatch :=
            hmatch.of_role?_eq rfl (catalog.role?_modifyFunction_of_kept other
              fun _ => rfl)
          exact (htested.modifyFunction_of_ne hid _).reviewed_of_ne hid hadded hreviewed
      | defaulted _ => exact htested.setDefault

/-- A review does not take the function from the predicate that it was made with. -/
theorem reviewed_self (hreviewed : catalog.Reviewed test after) :
    after.Tested type test entries := by
  obtain ⟨function, hfunction, hentries, hrole, hdeclares⟩ := htested
  cases hreviewed with
  | kept _ _ _ => exact ⟨function, hfunction, hentries, hrole, hdeclares⟩
  | promoted hfound _ hordinary _ =>
      obtain rfl := Option.some.inj (hfunction.symm.trans hfound)
      cases hrole.symm.trans hordinary
  | demoted hfound _ hpromoted =>
      obtain rfl := Option.some.inj (hfunction.symm.trans hfound)
      cases hrole.symm.trans hpromoted

end Tested

end Catalog

namespace Registry

theorem Reachable.accounted {registry : Registry Code} (hreachable : registry.Reachable) :
    registry.toCatalog.Accounted := by
  induction hreachable with
  | fresh configuration =>
      exact (Catalog.wellKept_kernel configuration.distance).accounted
  | perform operation hreachable _ ih =>
      exact ih.attempted (Registry.attempted hreachable.orderly operation)

section Register

variable {registry : Registry Code} (hreachable : registry.Reachable) {type : Predicate}
  {test : ℕ} {entries : List (MethodEntry Code)}
  (htested : registry.Tested type test entries)
include hreachable htested

theorem Reachable.membershipTest?_of_tested :
    registry.membershipTest? type = some test :=
  htested.membershipTest? hreachable.accounted.tests_match

/-- Registering an entry on a test succeeds. -/
theorem Reachable.exists_register_of_tested (entry : MethodEntry Code) :
    ∃ after, registry.register test entry = (.ok (), after) ∧
      after.Tested type test (GenericFunction.putEntry entry entries) := by
  obtain ⟨function, hfunction, hentries, hrole, hdeclares⟩ := htested
  obtain ⟨after, hregister, hreviewed⟩ :=
    register_of_link hreachable.orderly hfunction entry fun hawaits => by
      cases hrole.symm.trans hawaits.2
  refine ⟨after, hregister, Catalog.Tested.reviewed_self
    ⟨function.addEntry entry, ?_, ?_, hrole, hdeclares.addEntry entry⟩ hreviewed⟩
  · rw [function?_modifyFunction_self, hfunction]
    rfl
  · rw [← hentries]
    rfl

/-- Whatever is done, a test has some entries. -/
theorem Reachable.exists_tested_perform (operation : Operation Code) :
    ∃ later, (operation.perform registry).2.Tested type test later := by
  by_cases hid : test ∈ operation.registered
  · cases operation with
    | register other entry =>
        obtain rfl : test = other := hid
        obtain ⟨after, hregister, hafter⟩ :=
          hreachable.exists_register_of_tested htested entry
        refine ⟨GenericFunction.putEntry entry entries, ?_⟩
        change (registry.register test entry).2.Tested type test _
        rw [hregister]
        exact hafter
    | _ => exact absurd hid (Set.notMem_empty _)
  · exact ⟨entries, htested.attempted hreachable.accounted.tests_match
      (attempted hreachable.orderly operation) hid⟩

end Register

namespace Follows

variable {closed : List ℕ} {base registry : Registry Code}
  (hfollows : Follows closed base registry) (hbase : base.Reachable)
  {type : Predicate} {test : ℕ} {entries : List (MethodEntry Code)}
  (htested : base.Tested type test entries)
include hfollows hbase htested

/-- The test of a predicate stays its test. -/
theorem membershipTest? : registry.membershipTest? type = some test := by
  have hkept : ∃ later, registry.Tested type test later := by
    induction hfollows with
    | refl => exact ⟨entries, htested⟩
    | perform operation hfollows _ _ ih =>
        obtain ⟨later, hlater⟩ := ih
        exact (hfollows.reachable hbase).exists_tested_perform hlater operation
  obtain ⟨later, hlater⟩ := hkept
  exact (hfollows.reachable hbase).membershipTest?_of_tested hlater

/-- And keeps its entries if nothing is registered on it. -/
theorem tested (htest : test ∈ closed) : registry.Tested type test entries := by
  induction hfollows with
  | refl => exact htested
  | perform operation hfollows _ hclosed ih =>
      have hreachable := hfollows.reachable hbase
      exact ih.attempted hreachable.accounted.tests_match
        (attempted hreachable.orderly operation) (hclosed test htest)

end Follows

end Registry

end PredicateDispatch
