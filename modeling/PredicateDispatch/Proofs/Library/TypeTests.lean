import PredicateDispatch.Proofs.Library.Calls
import PredicateDispatch.Proofs.Registry.Tested

/-!
# The tests of the base types

An installation registers two entries on membership tests: that of `isInt` judges reals
and that of `isChar` judges integers.  As nothing else is registered on these tests,
neither by the installation nor by operations that leave them alone, they have these
two entries and those that they were made with for ever.
-/

namespace PredicateDispatch

namespace Library

open Program (Leaves)

variable {Custom α : Type}

/-! ## Tests that are left alone -/

/-- Each of these functions was made as the test of the predicate beside it and has the
entries beside it. -/
structure Maintains (tests : List (Predicate × ℕ × List (MethodEntry (Body Custom))))
    (registry : Registry (Body Custom)) : Prop where
  reachable : registry.Reachable
  tested : ∀ test ∈ tests, registry.Tested test.1 test.2.1 test.2.2

namespace Maintains

variable {tests : List (Predicate × ℕ × List (MethodEntry (Body Custom)))}

/-- Of fewer tests as well. -/
theorem of_subset {registry : Registry (Body Custom)}
    (hmaintains : Maintains tests registry)
    {fewer : List (Predicate × ℕ × List (MethodEntry (Body Custom)))}
    (hsubset : fewer ⊆ tests) : Maintains fewer registry :=
  ⟨hmaintains.reachable, fun test htest => hmaintains.tested test (hsubset htest)⟩

theorem swap {registry : Registry (Body Custom)}
    {first second : Predicate × ℕ × List (MethodEntry (Body Custom))}
    (hmaintains : Maintains [first, second] registry) :
    Maintains [second, first] registry :=
  hmaintains.of_subset (List.Perm.swap first second []).subset

theorem perform {registry : Registry (Body Custom)}
    (hmaintains : Maintains tests registry) (operation : Operation (Body Custom))
    (hcaches : operation.CachesUnder registry.metric)
    (hothers : ∀ test ∈ tests, test.2.1 ∉ operation.registered) :
    Maintains tests (operation.perform registry).2 where
  reachable := hmaintains.reachable.perform operation hcaches
  tested test htest := (hmaintains.tested test htest).attempted
    hmaintains.reachable.accounted.tests_match
    (Registry.attempted hmaintains.reachable.orderly operation) (hothers test htest)

variable {runTask : Runner (Body Custom)} {world : World (Body Custom)}
  (hmaintains : Maintains tests world.registry)
include hmaintains

/-- A new function is none of the tests. -/
theorem createFunction (name : String) :
    (Program.createFunction name).Leaves runTask world fun id after =>
      Maintains tests after.registry ∧ ∀ test ∈ tests, test.2.1 ≠ id := by
  refine Leaves.of_perform (.createFunction name) fun id after hperform => ?_
  have hafter := hmaintains.perform (.createFunction name) trivial
    fun _ _ => Set.notMem_empty _
  rw [hperform] at hafter
  obtain ⟨hid, -⟩ := Prod.mk.inj hperform
  refine ⟨hafter, fun test htest => ?_⟩
  obtain ⟨function, hfunction, -⟩ := hmaintains.tested test htest
  rw [← Except.ok.inj hid]
  exact (Catalog.lt_of_function?_eq_some hfunction).ne

theorem registerPrimitive {id : ℕ} (hid : ∀ test ∈ tests, test.2.1 ≠ id)
    (signature : Signature) (returns : Predicate) (primitive : Primitive) :
    (Library.registerPrimitive id signature returns primitive).Leaves runTask world
      fun _ after => Maintains tests after.registry := by
  refine Leaves.of_perform (.register id _) fun _ after hperform => ?_
  have hafter := hmaintains.perform
    (.register id ⟨signature, returns, .code (.primitive primitive)⟩) trivial
    fun test htest heq => hid test htest heq
  rw [hperform] at hafter
  exact hafter

theorem registerRows {id : ℕ} (hid : ∀ test ∈ tests, test.2.1 ≠ id) (base : BaseTypes)
    (rows : List (Row × Primitive)) {rest : Program (Body Custom) α}
    {post : α → World (Body Custom) → Prop}
    (hrest : ∀ after : World (Body Custom), Maintains tests after.registry →
      rest.Leaves runTask after post) :
    (Library.registerRows base id rows rest).Leaves runTask world post := by
  induction rows generalizing world with
  | nil => exact hrest world hmaintains
  | cons row more ih =>
      exact (registerPrimitive hmaintains hid _ _ _).bind
        fun _ after hafter => ih hafter

/-- A new function gets its rows. -/
theorem function (name : String) (base : BaseTypes)
    (rows : ℕ → List (Row × Primitive)) {rest : ℕ → Program (Body Custom) α}
    {post : α → World (Body Custom) → Prop}
    (hrest : ∀ id (after : World (Body Custom)), (∀ test ∈ tests, test.2.1 ≠ id) →
      Maintains tests after.registry → (rest id).Leaves runTask after post) :
    (Program.createFunction name >>= fun id =>
      Library.registerRows base id (rows id) (rest id)).Leaves runTask world post :=
  (createFunction hmaintains name).bind fun id _ hcreated =>
    registerRows hcreated.1 hcreated.2 base (rows id)
      fun after hafter => hrest id after hcreated.2 hafter

/-! ## The steps of the installation -/

/-- A new predicate has a new test. -/
theorem definePredicate (name : String) (parent : Predicate) :
    (Program.definePredicate name parent).Leaves runTask world fun type after =>
      ∃ test, (∀ other ∈ tests, other.2.1 ≠ test) ∧
        Maintains ((type, test, (Catalog.membershipTest type).entries) :: tests)
          after.registry := by
  refine Leaves.of_perform (.definePredicate name parent) fun type after hperform => ?_
  have hafter := hmaintains.perform (.definePredicate name parent) trivial
    fun _ _ => Set.notMem_empty _
  cases hlink : (world.registry.hierarchy.create name).link parent
      (world.registry.hierarchy.fresh name) with
  | error cause =>
      cases hperform.symm.trans (Registry.definePredicate_of_error hlink)
  | ok linked =>
      obtain ⟨derived, after', hderived, hdefine, hattached⟩ :=
        Registry.definePredicate_of_link hmaintains.reachable.orderly hlink
      obtain ⟨htype, rfl⟩ := Prod.mk.inj (hdefine.symm.trans hperform)
      obtain rfl := Except.ok.inj htype
      rw [hperform] at hafter
      have hnext : derived.nextFunction = world.registry.nextFunction :=
        hderived.nextFunction_eq
      refine ⟨derived.nextFunction, fun other hother => ?_, hafter.reachable,
        List.forall_mem_cons.mpr ⟨?_, hafter.tested⟩⟩
      · obtain ⟨function, hfunction, -⟩ := hmaintains.tested other hother
        rw [hnext]
        exact (Catalog.lt_of_function?_eq_some hfunction).ne
      · dsimp only
        rw [hattached]
        refine ⟨Catalog.membershipTest _,
          Catalog.function?_addFunction_eq_some_iff.mpr (Or.inr ⟨rfl, rfl⟩), rfl, rfl, ?_⟩
        exact (GenericFunction.declares_membershipTest _).1

/-- A predicate with a test has that one. -/
theorem membershipTest {type : Predicate} {test : ℕ}
    {entries : List (MethodEntry (Body Custom))} (htest : (type, test, entries) ∈ tests) :
    (Library.membershipTest type).Leaves runTask world fun found after =>
      found = test ∧ after = world := by
  have hknown : world.registry.membershipTest? type = some test :=
    hmaintains.reachable.membershipTest?_of_tested (hmaintains.tested _ htest)
  refine (Leaves.of_perform .inspect fun catalog after hperform => ?_ :
    Program.inspect.Leaves runTask world fun catalog after =>
      catalog = world.registry.toCatalog ∧ after = world).bind fun catalog after hafter => ?_
  · obtain ⟨hcatalog, rfl⟩ := Prod.mk.inj hperform
    exact ⟨(Except.ok.inj hcatalog).symm, rfl⟩
  · obtain ⟨rfl, rfl⟩ := hafter
    rw [hknown]
    exact Leaves.pure ⟨rfl, rfl⟩

omit hmaintains in
/-- An entry that is registered on one of the tests is put to the others. -/
theorem registerPrimitive_self {type : Predicate} {test : ℕ}
    {entries : List (MethodEntry (Body Custom))}
    (hmaintains : Maintains ((type, test, entries) :: tests) world.registry)
    (hothers : ∀ other ∈ tests, other.2.1 ≠ test) (signature : Signature)
    (returns : Predicate) (primitive : Primitive) :
    (Library.registerPrimitive test signature returns primitive).Leaves runTask world
      fun _ after => Maintains ((type, test, GenericFunction.putEntry
        ⟨signature, returns, .code (.primitive primitive)⟩ entries) :: tests)
          after.registry := by
  obtain ⟨hhead, htail⟩ := List.forall_mem_cons.mp hmaintains.tested
  have hrest : Maintains tests world.registry := ⟨hmaintains.reachable, htail⟩
  obtain ⟨registry, hregister, hregistered⟩ :=
    hmaintains.reachable.exists_register_of_tested hhead
      ⟨signature, returns, .code (.primitive primitive)⟩
  refine Leaves.of_perform (.register test _) fun _ after hperform => ?_
  have hafter := hrest.perform
    (.register test ⟨signature, returns, .code (.primitive primitive)⟩) trivial
    fun other hother heq => hothers other hother heq
  rw [hperform] at hafter
  obtain ⟨-, rfl⟩ := Prod.mk.inj (hregister.symm.trans hperform)
  exact ⟨hafter.reachable, List.forall_mem_cons.mpr ⟨hregistered, hafter.tested⟩⟩

end Maintains

/-! ## The tests of integers and of characters -/

/-- The entries of the test of the lower type, with one for values of the upper type. -/
def testEntries (types : BaseTypes) (lower upper : BaseType) (primitive : Primitive) :
    List (MethodEntry (Body Custom)) :=
  GenericFunction.putEntry
    ⟨[types.handle upper], Predicate.boolean, .code (.primitive primitive)⟩
    (Catalog.membershipTest (types.handle lower)).entries

/-- No two of the entries are for the same type. -/
theorem testEntries_eq {types : BaseTypes} {hierarchy : Hierarchy}
    (hplaced : types.Placed hierarchy) {lower upper : BaseType} (hlower : lower ≠ .any)
    (hupper : upper ≠ .any) (hne : upper ≠ lower) (primitive : Primitive) :
    (testEntries types lower upper primitive : List (MethodEntry (Body Custom))) =
      [Catalog.fixedAnswer Predicate.any false,
        Catalog.fixedAnswer (types.handle lower) true,
        ⟨[types.handle upper], Predicate.boolean, .code (.primitive primitive)⟩] := by
  have hids : ∀ {left right : BaseType}, left ≠ right →
      (types.handle left).id ≠ (types.handle right).id := fun hne hid =>
    hne (hplaced.eq_of_ids_eq hid)
  have hlower_id := hids hlower
  have hupper_id := hids hupper.symm
  have hids_ne := hids hne.symm
  change (types.handle lower).id ≠ Predicate.any.id at hlower_id
  change Predicate.any.id ≠ (types.handle upper).id at hupper_id
  simp [testEntries, Catalog.membershipTest, Catalog.fixedAnswer,
    GenericFunction.putEntry, Signature.ids, hlower_id, hupper_id, hids_ne]

/-- Which type has a test that judges the values of which other type, and by what. -/
def judgments : List (BaseType × BaseType × Primitive) :=
  [(.int, .real, .isIntegral), (.character, .int, .isCharacter)]

theorem int_mem_judgments : (.int, .real, .isIntegral) ∈ judgments :=
  List.mem_cons_self

theorem character_mem_judgments : (.character, .int, .isCharacter) ∈ judgments :=
  List.mem_cons_of_mem _ List.mem_cons_self

/-- The tests of `isInt` and `isChar` and their entries. -/
def typeTests (types : BaseTypes) (intTest charTest : ℕ) :
    List (Predicate × ℕ × List (MethodEntry (Body Custom))) :=
  [(types.int, intTest, testEntries types .int .real .isIntegral),
    (types.character, charTest, testEntries types .character .int .isCharacter)]

section Install

variable {runTask : Runner (Body Custom)} {world : World (Body Custom)}

theorem installTypes_maintains (hreachable : world.registry.Reachable) :
    installTypes.Leaves runTask world fun types after =>
      ∃ intTest charTest, Maintains (typeTests types intTest charTest)
        after.registry := by
  have hnone : Maintains [] world.registry := ⟨hreachable, fun _ htest => by cases htest⟩
  rw [installTypes]
  refine (hnone.definePredicate "isReal" _).bind fun real _ hreal => ?_
  obtain ⟨_, -, hreal⟩ := hreal
  refine ((hreal.of_subset (List.nil_subset _)).definePredicate "isInt" real).bind
    fun int _ hint => ?_
  obtain ⟨intTest, -, hint⟩ := hint
  refine (hint.definePredicate "isChar" int).bind fun character _ hcharacter => ?_
  obtain ⟨charTest, hne, hcharacter⟩ := hcharacter
  have hnew : intTest ≠ charTest := hne _ List.mem_cons_self
  refine (hcharacter.definePredicate "isString" _).bind fun string _ hstring => ?_
  obtain ⟨_, -, hstring⟩ := hstring
  have hkept := hstring.of_subset (List.subset_cons_self _ _)
  refine (hkept.definePredicate "isList" _).bind fun list _ hlist => ?_
  obtain ⟨_, -, hlist⟩ := hlist
  have hkept := hlist.of_subset (List.subset_cons_self _ _)
  refine (hkept.definePredicate "isMap" _).bind fun map _ hmap => ?_
  obtain ⟨_, -, hmap⟩ := hmap
  have hkept := (hmap.of_subset (List.subset_cons_self _ _)).swap
  refine (hkept.membershipTest List.mem_cons_self).bind fun test _ hafter => ?_
  obtain ⟨rfl, rfl⟩ := hafter
  refine (hkept.registerPrimitive_self (by simpa using hnew.symm) _ _ _).bind
    fun _ _ hregistered => ?_
  have hkept := hregistered.swap
  refine (hkept.membershipTest List.mem_cons_self).bind fun test _ hafter => ?_
  obtain ⟨rfl, rfl⟩ := hafter
  refine (hkept.registerPrimitive_self (by simpa using hnew) _ _ _).bind
    fun _ _ hfinal => ?_
  exact Leaves.pure ⟨_, _, hfinal.swap⟩

variable {tests : List (Predicate × ℕ × List (MethodEntry (Body Custom)))}
  (hmaintains : Maintains tests world.registry) (types : BaseTypes)
include hmaintains

theorem installArithmetic_maintains (name : String) (operation : Numbers.Arithmetic) :
    (installArithmetic types name operation).Leaves runTask world fun id after =>
      (∀ test ∈ tests, test.2.1 ≠ id) ∧ Maintains tests after.registry :=
  hmaintains.function name types (fun _ => arithmeticFittings types operation)
    fun _ _ hid hafter => Leaves.pure ⟨hid, hafter⟩

theorem installComparison_maintains (name : String) (accepted : Numbers.Comparison) :
    (installComparison types name accepted).Leaves runTask world fun _ after =>
      Maintains tests after.registry :=
  hmaintains.function name types (fun _ => comparisonFittings accepted)
    fun _ _ _ hafter => Leaves.pure hafter

theorem installNumbers_maintains :
    (installNumbers types).Leaves runTask world fun functions after =>
      (∀ test ∈ tests, test.2.1 ≠ functions.add) ∧ Maintains tests after.registry := by
  rw [installNumbers]
  refine (installArithmetic_maintains hmaintains types "add" .add).bind
    fun add _ hadd => ?_
  refine (installArithmetic_maintains hadd.2 types "sub" .sub).bind fun _ _ hsub => ?_
  refine (installArithmetic_maintains hsub.2 types "times" .times).bind
    fun _ _ htimes => ?_
  refine (installArithmetic_maintains htimes.2 types "divide" .divide).bind
    fun _ _ hdivide => ?_
  refine (installArithmetic_maintains hdivide.2 types "mod" .modulo).bind
    fun _ _ hmodulo => ?_
  refine (installArithmetic_maintains hmodulo.2 types "pow" .pow).bind fun _ _ hpow => ?_
  refine hpow.2.function "neg" types (fun _ => negFittings types) fun _ _ _ hneg => ?_
  refine hneg.function "is" types (fun _ => isFittings) fun _ _ _ his => ?_
  refine (installComparison_maintains his types "isLessThan" .less).bind
    fun _ _ hless => ?_
  refine (installComparison_maintains hless types "isLessThanEq" .lessOrEqual).bind
    fun _ _ hlessEq => ?_
  refine (installComparison_maintains hlessEq types "isGreaterThan" .greater).bind
    fun _ _ hgreater => ?_
  refine (installComparison_maintains hgreater types "isGreaterThanEq"
    .greaterOrEqual).bind fun _ _ hgreaterEq => ?_
  exact hgreaterEq.function "int" types (fun _ => intFittings types)
    fun _ _ _ hint => Leaves.pure ⟨hadd.1, hint⟩

theorem installText_maintains {add : ℕ} (hadd : ∀ test ∈ tests, test.2.1 ≠ add) :
    (installText types add).Leaves runTask world fun _ after =>
      Maintains tests after.registry := by
  rw [installText]
  refine hmaintains.function "str" types (fun str => strFittings types str)
    fun str _ _ hstr => ?_
  exact hstr.registerRows hadd types (joinFittings types str)
    fun _ hjoined => Leaves.pure hjoined

theorem installCollections_maintains :
    (installCollections types).Leaves runTask world fun _ after =>
      Maintains tests after.registry := by
  rw [installCollections]
  refine hmaintains.function "isEmpty" types (fun _ => isEmptyFittings)
    fun _ _ _ hisEmpty => ?_
  refine hisEmpty.function "size" types (fun _ => sizeFittings types)
    fun _ _ _ hsize => ?_
  refine hsize.function "get" types (fun _ => getFittings types)
    fun _ _ _ hget => ?_
  exact hget.function "set" types (fun _ => setFittings types)
    fun _ _ _ hset => Leaves.pure hset

theorem installReflection_maintains :
    (installReflection types).Leaves runTask world fun _ after =>
      Maintains tests after.registry := by
  rw [installReflection]
  refine hmaintains.function "type" types (fun _ => [(⟨[.any], .predicate⟩, .typeOf)])
    fun _ _ _ htype => ?_
  refine htype.function "derive" types
    (fun _ => [(⟨[.predicate, .predicate], .null⟩, .derive)]) fun _ _ _ hderive => ?_
  refine hderive.function "isA" types
    (fun _ => [(⟨[.predicate, .predicate], .boolean⟩, .isA)]) fun _ _ _ hisA => ?_
  refine hisA.function "AS" types (fun _ => [(⟨[.predicate, .any], .any⟩, .retag)])
    fun _ _ _ hretag => ?_
  refine hretag.function "as" types (fun _ => [(⟨[.predicate, .any], .any⟩, .cast)])
    fun _ _ _ hcast => ?_
  exact hcast.function "apply" types (fun _ => [(⟨[.function, .list], .any⟩, .apply)])
    fun _ _ _ happly => Leaves.pure happly

theorem installConsole_maintains (types : BaseTypes) (str : ℕ) :
    (installConsole str).Leaves runTask world fun _ after =>
      Maintains tests after.registry :=
  hmaintains.function "println" types (fun _ => printFittings str)
    fun _ _ _ hafter => Leaves.pure hafter

omit hmaintains

/-- An installation leaves the tests of `isInt` and `isChar` with these entries. -/
theorem install_maintains (hreachable : world.registry.Reachable) :
    install.Leaves runTask world fun library after =>
      ∃ intTest charTest, Maintains (typeTests library.types intTest charTest)
        after.registry := by
  rw [install]
  refine (installTypes_maintains hreachable).bind fun types _ htypes => ?_
  obtain ⟨intTest, charTest, htypes⟩ := htypes
  refine (installNumbers_maintains htypes types).bind fun numbers _ hnumbers => ?_
  refine (installText_maintains hnumbers.2 types hnumbers.1).bind fun text _ htext => ?_
  refine (installCollections_maintains htext types).bind
    fun collections _ hcollections => ?_
  refine (installReflection_maintains hcollections types).bind
    fun reflection _ hreflection => ?_
  exact (installConsole_maintains hreflection types text).bind
    fun _ _ hprintln => Leaves.pure ⟨intTest, charTest, hprintln⟩

end Install

namespace InstalledIn

variable {library : Library} {closed : List ℕ} {registry : Registry (Body Custom)}
  (hinstalled : library.InstalledIn closed registry)
include hinstalled

/-- The tests of `isInt` and `isChar` are what they were, and those that are closed have
the entries that the installation left. -/
theorem exists_typeTests : ∃ intTest charTest,
    ∀ test ∈ typeTests library.types intTest charTest,
      registry.membershipTest? test.1 = some test.2.1 ∧
        (test.2.1 ∈ closed → registry.Tested test.1 test.2.1 test.2.2) := by
  obtain ⟨runTask, world, after, hreachable, hinstall, hfollows⟩ := hinstalled
  have hbase := (install_leaves hreachable library after hinstall).reachable
  obtain ⟨intTest, charTest, hmaintains⟩ :=
    install_maintains hreachable library after hinstall
  refine ⟨intTest, charTest, fun test htest => ?_⟩
  have htested := hmaintains.tested test htest
  exact ⟨hfollows.membershipTest? hbase htested, hfollows.tested hbase htested⟩

theorem exists_tested {lower upper : BaseType} {primitive : Primitive}
    (hjudged : (lower, upper, primitive) ∈ judgments) :
    ∃ test, registry.membershipTest? (library.types.handle lower) = some test ∧
      (test ∈ closed → registry.Tested (library.types.handle lower) test
        (testEntries library.types lower upper primitive)) := by
  obtain ⟨intTest, charTest, htests⟩ := hinstalled.exists_typeTests
  simp only [judgments, List.mem_cons, List.not_mem_nil, or_false, Prod.mk.injEq] at hjudged
  rcases hjudged with ⟨rfl, rfl, rfl⟩ | ⟨rfl, rfl, rfl⟩
  · exact ⟨intTest, htests _ List.mem_cons_self⟩
  · exact ⟨charTest, htests _ (List.mem_cons_of_mem _ List.mem_cons_self)⟩

theorem tested {lower upper : BaseType} {primitive : Primitive}
    (hjudged : (lower, upper, primitive) ∈ judgments) {test : ℕ}
    (htest : registry.membershipTest? (library.types.handle lower) = some test)
    (hclosed : test ∈ closed) : registry.Tested (library.types.handle lower) test
      (testEntries library.types lower upper primitive) := by
  obtain ⟨found, hfound, htested⟩ := hinstalled.exists_tested hjudged
  obtain rfl := Option.some.inj (hfound.symm.trans htest)
  exact htested hclosed

end InstalledIn

end Library

end PredicateDispatch
