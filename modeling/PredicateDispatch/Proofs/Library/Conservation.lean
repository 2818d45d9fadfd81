import PredicateDispatch.Proofs.Library.Fittings
import PredicateDispatch.Proofs.Registry.Conservation

/-!
# An installation changes nothing that was there

The base library can be installed into any registry, whatever has been done to the
root, its membership test or an earlier installation.  Everything that was there
stays as it was; only the names of the library are bound anew, each to the function
that was made for it.
-/

namespace PredicateDispatch.Library

open Program (Yields)
open Catalog (Spares)

variable {Custom α : Type}

/-! ## Installing -/

/-- A world in the course of an installation: some types have been made, each with
its test, and some names have been bound to new functions, the latest first.
Everything that was there at the start is as it was. -/
structure Installing (start : World (Body Custom)) (types : List (Predicate × ℕ))
    (bindings : List (String × ℕ)) (world : World (Body Custom)) : Prop where
  past : ∃ events, world.registry.Past events ∧
    ∀ made ∈ types, Event.defined made.1 made.2 ∈ events
  frame : world = { start with registry := world.registry }
  spares : Spares {id | start.registry.nextFunction ≤ id}
    start.registry.toCatalog world.registry.toCatalog
  names : world.registry.names =
    start.registry.names.insertMany bindings.reverse
  new : ∀ id ∈ bindings.map Prod.snd, start.registry.nextFunction ≤ id ∧
    ∃ function, world.registry.function? id = some function
  tests : ∀ made ∈ types, made.2 ∈ bindings.map Prod.snd

namespace Installing

variable {runTask : Runner (Body Custom)} {start world : World (Body Custom)}
  {types : List (Predicate × ℕ)} {bindings : List (String × ℕ)}

theorem of_past {events : List Event} (hpast : world.registry.Past events) :
    Installing world [] [] world where
  past := ⟨events, hpast, fun _ hmade => absurd hmade List.not_mem_nil⟩
  frame := rfl
  spares := .refl _ _
  names := Std.TreeMap.insertMany_nil.symm
  new _ hid := absurd hid List.not_mem_nil
  tests _ hmade := absurd hmade List.not_mem_nil

variable (hinstalling : Installing start types bindings world)
include hinstalling

/-- The next function is a new one. -/
theorem nextFunction_le :
    start.registry.nextFunction ≤ world.registry.nextFunction := by
  by_contra hlt
  have hold := Array.getElem?_eq_getElem (Nat.lt_of_not_le hlt)
  have hkept := hinstalling.spares.function? _ _ hlt hold
  exact Nat.lt_irrefl _ (Catalog.lt_of_function?_eq_some hkept)

/-- A new function under a name. -/
theorem bind {after : Registry (Body Custom)} {name : String}
    (hspares : Spares {id | start.registry.nextFunction ≤ id}
      world.registry.toCatalog after.toCatalog)
    (hnames : after.names =
      world.registry.names.insert name world.registry.nextFunction)
    (hfunction : ∃ function,
      after.function? world.registry.nextFunction = some function)
    {types' : List (Predicate × ℕ)}
    (hpast : ∃ events, after.Past events ∧
      ∀ made ∈ types', Event.defined made.1 made.2 ∈ events)
    (htests : ∀ made ∈ types', made ∈ types ∨ made.2 = world.registry.nextFunction) :
    Installing start types' ((name, world.registry.nextFunction) :: bindings)
      { world with registry := after } where
  past := hpast
  frame := by rw [hinstalling.frame]
  spares := hinstalling.spares.trans hspares
  names := by
    rw [hnames, hinstalling.names, List.reverse_cons, Std.TreeMap.insertMany_append,
      Std.TreeMap.insertMany_list_singleton]
  new := by
    rw [List.map_cons, List.forall_mem_cons]
    refine ⟨⟨hinstalling.nextFunction_le, hfunction⟩, fun id hid => ?_⟩
    obtain ⟨hnew, function, hold⟩ := hinstalling.new id hid
    obtain ⟨found, hfound, -⟩ := hspares.remains.function? id function hold
    exact ⟨hnew, found, hfound⟩
  tests made hmade := by
    rw [List.map_cons, List.mem_cons]
    exact (htests made hmade).symm.imp id (hinstalling.tests made)

theorem definePredicate (name : String) {parent : Predicate}
    (hparent : parent = Predicate.any ∨ ∃ test, (parent, test) ∈ types) :
    (Program.definePredicate name parent).Yields runTask world fun type after =>
      ∃ test, Installing start ((type, test) :: types) ((name, test) :: bindings)
        after := by
  obtain ⟨events, hpast, hmade⟩ := hinstalling.past
  have hknown : world.registry.hierarchy.Knows parent := by
    rcases hparent with rfl | ⟨test, hmem⟩
    · exact hpast.knows_any
    · exact hpast.wellKept.knows_of_defined (hmade _ hmem)
  obtain ⟨after, hdefine, hafter, hspares, hnames⟩ :=
    hpast.definePredicate_spares hknown (hparent.imp_right fun ⟨test, hmem⟩ =>
      ⟨test, (hinstalling.new test (hinstalling.tests _ hmem)).1, hmade _ hmem⟩) name
  refine Yields.of_perform (.definePredicate name parent) hdefine
    ⟨world.registry.nextFunction, hinstalling.bind hspares hnames ?_
      ⟨_, hafter, ?_⟩ ?_⟩
  · obtain ⟨function, hfunction, -⟩ :=
      hafter.wellKept.exists_of_defined List.mem_cons_self
    exact ⟨function, hfunction⟩
  · exact List.forall_mem_cons.mpr ⟨List.mem_cons_self, fun made hmem =>
      List.mem_cons_of_mem _ (hmade made hmem)⟩
  · exact List.forall_mem_cons.mpr ⟨Or.inr rfl, fun made hmem => Or.inl hmem⟩

theorem createFunction (name : String) :
    (Program.createFunction name).Yields runTask world fun id after =>
      Installing start types ((name, id) :: bindings) after := by
  obtain ⟨events, hpast, hmade⟩ := hinstalling.past
  refine Yields.of_perform (.createFunction name) rfl
    (hinstalling.bind (.addFunction _ _ _) rfl ?_
      ⟨_, hpast.perform (.createFunction name) trivial trivial, ?_⟩
      fun made hmem => Or.inl hmem)
  · exact ⟨_, Catalog.function?_addFunction_eq_some_iff.mpr (Or.inr ⟨rfl, rfl⟩)⟩
  · exact fun made hmem => List.mem_cons_of_mem _ (hmade made hmem)

theorem registerPrimitive {id : ℕ} (hid : id ∈ bindings.map Prod.snd)
    (signature : Signature) (returns : Predicate) (primitive : Primitive) :
    (Library.registerPrimitive id signature returns primitive).Yields runTask world
      fun _ after => Installing start types bindings after := by
  obtain ⟨events, hpast, hmade⟩ := hinstalling.past
  obtain ⟨hnew, function, hfunction⟩ := hinstalling.new id hid
  obtain ⟨after, hregister, hafter, hspares, hnames⟩ :=
    hpast.register_spares hnew hfunction
      ⟨signature, returns, .code (.primitive primitive)⟩
  refine Yields.of_perform (.register id _) hregister {
    past := ⟨_, hafter, fun made hmem => List.mem_cons_of_mem _ (hmade made hmem)⟩
    frame := by rw [hinstalling.frame]
    spares := hinstalling.spares.trans hspares
    names := hnames.trans hinstalling.names
    new := fun other hother => ?_
    tests := hinstalling.tests }
  obtain ⟨hother_new, found, hfound⟩ := hinstalling.new other hother
  obtain ⟨kept, hkept, -⟩ := hspares.remains.function? other found hfound
  exact ⟨hother_new, kept, hkept⟩

theorem membershipTest {type : Predicate} {test : ℕ} (hmade : (type, test) ∈ types) :
    (Library.membershipTest type).Yields runTask world fun found after =>
      found = test ∧ after = world := by
  obtain ⟨events, hpast, hdefined⟩ := hinstalling.past
  obtain ⟨-, -, -, htest⟩ := hpast.wellKept.exists_of_defined (hdefined _ hmade)
  refine Yields.inspect.bind fun catalog after ⟨hcatalog, hafter⟩ => ?_
  subst hafter hcatalog
  rw [htest]
  exact Yields.pure ⟨rfl, rfl⟩

theorem registerRows {id : ℕ} (hid : id ∈ bindings.map Prod.snd)
    (base : BaseTypes) (entries : List (Row × Primitive))
    {rest : Program (Body Custom) α} {post : α → World (Body Custom) → Prop}
    (hrest : ∀ after, Installing start types bindings after →
      rest.Yields runTask after post) :
    (Library.registerRows base id entries rest).Yields runTask world post := by
  induction entries generalizing world with
  | nil => exact hrest world hinstalling
  | cons entry more ih =>
      exact (hinstalling.registerPrimitive hid _ _ _).bind
        fun _ after hafter => ih hafter

/-- A new function gets its entries. -/
theorem function (name : String) (base : BaseTypes)
    (entries : ℕ → List (Row × Primitive)) {rest : ℕ → Program (Body Custom) α}
    {post : α → World (Body Custom) → Prop}
    (hrest : ∀ id after, Installing start types ((name, id) :: bindings) after →
      (rest id).Yields runTask after post) :
    (Program.createFunction name >>= fun id =>
      Library.registerRows base id (entries id) (rest id)).Yields runTask world
        post :=
  (hinstalling.createFunction name).bind fun id _ hcreated =>
    hcreated.registerRows List.mem_cons_self base (entries id) (hrest id)

end Installing

/-! ## What an installation binds -/

/-- The numbers of the membership tests of the base types. -/
structure BaseTests where
  real : ℕ
  int : ℕ
  character : ℕ
  string : ℕ
  list : ℕ
  map : ℕ

/-- The base types with their names and their tests, the latest first. -/
def madeTypes (types : BaseTypes) (tests : BaseTests) : List (String × Predicate × ℕ) :=
  [("isMap", types.map, tests.map), ("isList", types.list, tests.list),
    ("isString", types.string, tests.string),
    ("isChar", types.character, tests.character), ("isInt", types.int, tests.int),
    ("isReal", types.real, tests.real)]

def testedTypes (types : BaseTypes) (tests : BaseTests) : List (Predicate × ℕ) :=
  (madeTypes types tests).map Prod.snd

def testBindings (types : BaseTypes) (tests : BaseTests) : List (String × ℕ) :=
  (madeTypes types tests).map fun made => (made.1, made.2.2)

/-- The names of the functions on numbers, the latest first. -/
def numberBindings (functions : NumberFunctions) : List (String × ℕ) :=
  [("int", functions.int), ("isGreaterThanEq", functions.isGreaterThanEq),
    ("isGreaterThan", functions.isGreaterThan),
    ("isLessThanEq", functions.isLessThanEq), ("isLessThan", functions.isLessThan),
    ("is", functions.is), ("neg", functions.neg), ("pow", functions.pow),
    ("mod", functions.modulo), ("divide", functions.divide),
    ("times", functions.times), ("sub", functions.sub), ("add", functions.add)]

def collectionBindings (functions : CollectionFunctions) : List (String × ℕ) :=
  [("set", functions.set), ("get", functions.get), ("size", functions.size),
    ("isEmpty", functions.isEmpty)]

def reflectionBindings (functions : ReflectionFunctions) : List (String × ℕ) :=
  [("apply", functions.apply), ("as", functions.cast), ("AS", functions.retag),
    ("isA", functions.isA), ("derive", functions.derive),
    ("type", functions.typeOf)]

/-- The names of all base functions, the latest first. -/
def functionBindings (library : Library) : List (String × ℕ) :=
  ("println", library.println) :: (reflectionBindings library.reflection ++
    (collectionBindings library.collections ++
      (("str", library.text) :: numberBindings library.numbers)))

/-! ## The steps of the installation -/

namespace Installing

variable {runTask : Runner (Body Custom)} {start world : World (Body Custom)}
  {types : List (Predicate × ℕ)} {bindings : List (String × ℕ)}
  (hinstalling : Installing start types bindings world)
include hinstalling

theorem installTypes :
    Library.installTypes.Yields runTask world fun base after => ∃ tests,
      Installing start (testedTypes base tests ++ types)
        (testBindings base tests ++ bindings) after := by
  rw [Library.installTypes]
  refine (hinstalling.definePredicate "isReal" (Or.inl rfl)).bind
    fun real _ hmade => ?_
  obtain ⟨realTest, hreal⟩ := hmade
  refine (hreal.definePredicate "isInt" (Or.inr ⟨realTest, by simp⟩)).bind
    fun int _ hmade => ?_
  obtain ⟨intTest, hint⟩ := hmade
  refine (hint.definePredicate "isChar" (Or.inr ⟨intTest, by simp⟩)).bind
    fun character _ hmade => ?_
  obtain ⟨characterTest, hcharacter⟩ := hmade
  refine (hcharacter.definePredicate "isString" (Or.inl rfl)).bind
    fun string _ hmade => ?_
  obtain ⟨stringTest, hstring⟩ := hmade
  refine (hstring.definePredicate "isList" (Or.inl rfl)).bind
    fun list _ hmade => ?_
  obtain ⟨listTest, hlist⟩ := hmade
  refine (hlist.definePredicate "isMap" (Or.inl rfl)).bind fun map _ hmade => ?_
  obtain ⟨mapTest, hmap⟩ := hmade
  refine (hmap.membershipTest (show (int, intTest) ∈ _ by simp)).bind
    fun found _ hfound => ?_
  obtain ⟨rfl, rfl⟩ := hfound
  refine (hmap.registerPrimitive (by simp) _ _ _).bind fun _ _ hregistered => ?_
  refine (hregistered.membershipTest
    (show (character, characterTest) ∈ _ by simp)).bind fun found _ hfound => ?_
  obtain ⟨rfl, rfl⟩ := hfound
  refine (hregistered.registerPrimitive (by simp) _ _ _).bind fun _ _ hfinal => ?_
  exact Yields.pure ⟨⟨realTest, _, _, stringTest, listTest, mapTest⟩, hfinal⟩

variable (base : BaseTypes)

theorem installArithmetic (name : String) (operation : Numbers.Arithmetic) :
    (Library.installArithmetic base name operation).Yields runTask world
      fun id after => Installing start types ((name, id) :: bindings) after :=
  hinstalling.function name base
    (fun _ => arithmeticFittings base operation) fun _ _ hafter => Yields.pure hafter

theorem installComparison (name : String) (accepted : Numbers.Comparison) :
    (Library.installComparison base name accepted).Yields runTask world
      fun id after => Installing start types ((name, id) :: bindings) after :=
  hinstalling.function name base
    (fun _ => comparisonFittings accepted) fun _ _ hafter => Yields.pure hafter

theorem installNumbers :
    (Library.installNumbers base).Yields runTask world fun functions after =>
      Installing start types (numberBindings functions ++ bindings) after := by
  rw [Library.installNumbers]
  refine (hinstalling.installArithmetic base "add" .add).bind fun add _ hadd => ?_
  refine (hadd.installArithmetic base "sub" .sub).bind fun sub _ hsub => ?_
  refine (hsub.installArithmetic base "times" .times).bind fun times _ htimes => ?_
  refine (htimes.installArithmetic base "divide" .divide).bind
    fun divide _ hdivide => ?_
  refine (hdivide.installArithmetic base "mod" .modulo).bind
    fun modulo _ hmodulo => ?_
  refine (hmodulo.installArithmetic base "pow" .pow).bind fun pow _ hpow => ?_
  refine hpow.function "neg" base (fun _ => negFittings base)
    fun neg _ hneg => ?_
  refine hneg.function "is" base (fun _ => isFittings) fun is _ his => ?_
  refine (his.installComparison base "isLessThan" .less).bind
    fun isLessThan _ hless => ?_
  refine (hless.installComparison base "isLessThanEq" .lessOrEqual).bind
    fun isLessThanEq _ hlessEq => ?_
  refine (hlessEq.installComparison base "isGreaterThan" .greater).bind
    fun isGreaterThan _ hgreater => ?_
  refine (hgreater.installComparison base "isGreaterThanEq" .greaterOrEqual).bind
    fun isGreaterThanEq _ hgreaterEq => ?_
  exact hgreaterEq.function "int" base (fun _ => intFittings base)
    fun int _ hint => Yields.pure hint

theorem installText {add : ℕ} (hadd : add ∈ bindings.map Prod.snd) :
    (Library.installText base add).Yields runTask world fun str after =>
      Installing start types (("str", str) :: bindings) after := by
  rw [Library.installText]
  refine hinstalling.function "str" base (strFittings base)
    fun str _ hstr => ?_
  exact hstr.registerRows (List.mem_cons_of_mem _ hadd) base
    (joinFittings base str) fun _ hafter => Yields.pure hafter

theorem installCollections :
    (Library.installCollections base).Yields runTask world fun functions after =>
      Installing start types (collectionBindings functions ++ bindings) after := by
  rw [Library.installCollections]
  refine hinstalling.function "isEmpty" base (fun _ => isEmptyFittings)
    fun isEmpty _ hisEmpty => ?_
  refine hisEmpty.function "size" base (fun _ => sizeFittings base)
    fun size _ hsize => ?_
  refine hsize.function "get" base (fun _ => getFittings base)
    fun get _ hget => ?_
  exact hget.function "set" base (fun _ => setFittings base)
    fun set _ hset => Yields.pure hset

theorem installReflection :
    (Library.installReflection base).Yields runTask world fun functions after =>
      Installing start types (reflectionBindings functions ++ bindings) after := by
  rw [Library.installReflection]
  refine hinstalling.function "type" base
    (fun _ => [(⟨[.any], .predicate⟩, .typeOf)]) fun typeOf _ htype => ?_
  refine htype.function "derive" base
    (fun _ => [(⟨[.predicate, .predicate], .null⟩, .derive)])
    fun derive _ hderive => ?_
  refine hderive.function "isA" base
    (fun _ => [(⟨[.predicate, .predicate], .boolean⟩, .isA)]) fun isA _ hisA => ?_
  refine hisA.function "AS" base
    (fun _ => [(⟨[.predicate, .any], .any⟩, .retag)]) fun retag _ hretag => ?_
  refine hretag.function "as" base
    (fun _ => [(⟨[.predicate, .any], .any⟩, .cast)]) fun cast _ hcast => ?_
  exact hcast.function "apply" base
    (fun _ => [(⟨[.function, .list], .any⟩, .apply)])
    fun apply _ happly => Yields.pure happly

theorem installConsole (base : BaseTypes) (str : ℕ) :
    (Library.installConsole str).Yields runTask world fun println after =>
      Installing start types (("println", println) :: bindings) after :=
  hinstalling.function "println" base (fun _ => printFittings str)
    fun _ _ hafter => Yields.pure hafter

end Installing

/-- An installation succeeds in every registry with a past. -/
theorem install_yields_installing (runTask : Runner (Body Custom))
    {world : World (Body Custom)} {events : List Event}
    (hpast : world.registry.Past events) :
    install.Yields runTask world fun library after => ∃ tests,
      Installing world (testedTypes library.types tests)
        (functionBindings library ++ testBindings library.types tests) after := by
  rw [install]
  refine (Installing.of_past hpast).installTypes.bind fun base _ hmade => ?_
  obtain ⟨tests, htypes⟩ := hmade
  refine (htypes.installNumbers base).bind fun numbers _ hnumbers => ?_
  refine (hnumbers.installText base (by simp [numberBindings])).bind
    fun text _ htext => ?_
  refine (htext.installCollections base).bind fun collections _ hcollections => ?_
  refine (hcollections.installReflection base).bind
    fun reflection _ hreflection => ?_
  refine (hreflection.installConsole base text).bind fun println _ hprintln => ?_
  exact Yields.pure ⟨tests, hprintln⟩

/-! ## What an installation leaves behind -/

/-- The base types by their names, the latest first. -/
def namedTypes (types : BaseTypes) : List (String × Predicate) :=
  [("isMap", types.map), ("isList", types.list), ("isString", types.string),
    ("isChar", types.character), ("isInt", types.int), ("isReal", types.real)]

/-- All names that an installation binds, the latest first. -/
def baseNames : List String :=
  ["println", "apply", "as", "AS", "isA", "derive", "type", "set", "get", "size",
    "isEmpty", "str", "int", "isGreaterThanEq", "isGreaterThan", "isLessThanEq",
    "isLessThan", "is", "neg", "pow", "mod", "divide", "times", "sub", "add",
    "isMap", "isList", "isString", "isChar", "isInt", "isReal"]

theorem nodup_baseNames : baseNames.Nodup := by decide +kernel

theorem exists_test {types : BaseTypes} (tests : BaseTests)
    {named : String × Predicate} (hnamed : named ∈ namedTypes types) :
    ∃ test, (named.2, test) ∈ testedTypes types tests ∧
      (named.1, test) ∈ testBindings types tests := by
  have hsame : namedTypes types =
      (madeTypes types tests).map fun made => (made.1, made.2.1) := rfl
  rw [hsame] at hnamed
  obtain ⟨made, hmade, rfl⟩ := List.mem_map.mp hnamed
  exact ⟨made.2.2, List.mem_map_of_mem hmade, List.mem_map.mpr ⟨made, hmade, rfl⟩⟩

/-- The registry has become another one by an installation with these handles. -/
structure Installs (before : Registry (Body Custom)) (library : Library)
    (after : Registry (Body Custom)) : Prop where
  past : ∃ events, after.Past events
  conserves : before.Conserves after
  functions : ∀ binding ∈ functionBindings library,
    after.named? binding.1 = some binding.2
  types : ∀ named ∈ namedTypes library.types, after.hierarchy.Knows named.2 ∧
    ∃ test, after.membershipTest? named.2 = some test ∧
      after.named? named.1 = some test
  newest : ∀ name id, after.named? name = some id → after.IsNewest name id
  others : ∀ name, name ∉ baseNames → after.named? name = before.named? name

theorem Installing.installs {start world : World (Body Custom)} {library : Library}
    {tests : BaseTests} {events : List Event}
    (hpast : start.registry.Past events)
    (hinstalling : Installing start (testedTypes library.types tests)
      (functionBindings library ++ testBindings library.types tests) world) :
    Installs start.registry library world.registry := by
  obtain ⟨events', hpast', hdefined⟩ := hinstalling.past
  have hnodup : ((functionBindings library ++ testBindings library.types tests).map
      Prod.fst).Nodup := nodup_baseNames
  have hbound : ∀ binding ∈ functionBindings library ++
        testBindings library.types tests,
      world.registry.named? binding.1 = some binding.2 := by
    intro binding hbinding
    rw [Catalog.named?, hinstalling.names]
    refine Std.TreeMap.getElem?_insertMany_list_of_mem Std.ReflCmp.compare_self ?_
      (List.mem_reverse.mpr hbinding)
    rw [List.pairwise_reverse]
    refine (List.pairwise_map.mp hnodup).imp fun hne heq => ?_
    exact hne (Std.LawfulEqCmp.eq_of_compare heq).symm
  exact {
    past := ⟨events', hpast'⟩
    conserves := hpast.conserves_of_spares hpast' hinstalling.spares
    functions := fun binding hbinding =>
      hbound binding (List.mem_append_left _ hbinding)
    types := fun named hnamed => by
      obtain ⟨test, htested, hbinding⟩ := exists_test tests hnamed
      have hmade := hdefined _ htested
      obtain ⟨-, -, -, htest⟩ := hpast'.wellKept.exists_of_defined hmade
      exact ⟨hpast'.wellKept.knows_of_defined hmade, test, htest,
        hbound _ (List.mem_append_right _ hbinding)⟩
    newest := hpast'.reachable.namesNewest
    others := fun name hname => by
      rw [Catalog.named?, hinstalling.names]
      refine Std.TreeMap.getElem?_insertMany_list_of_contains_eq_false ?_
      have hfree : baseNames.contains name = false := by simpa using hname
      rw [List.map_reverse, List.contains_reverse]
      exact hfree }

theorem exists_installs (world : World (Body Custom)) {events : List Event}
    (hpast : world.registry.Past events)
    (meaning : Body Custom → List Value → Program (Body Custom) Value) (depth : ℕ) :
    ∃ library registry,
      install.exec meaning depth world =
        some (.ok library, { world with registry := registry }) ∧
      Installs world.registry library registry := by
  obtain ⟨library, after, hrun, tests, hinstalling⟩ :=
    install_yields_installing (runTask meaning depth) hpast
  refine ⟨library, after.registry, ?_, hinstalling.installs hpast⟩
  rw [← hinstalling.frame]
  exact hrun

/-- Into any registry that operations on its own predicates have made, the base
library can be installed.  All predicates, their parents, ancestors and membership
tests, all functions, their entries, defaults and roles, and all that they select
for predicates that were there, are as before; and only the names of the library
are bound anew, each to its newest function.  So it is with a second installation,
which leaves the handles of the first one what they were. -/
theorem installation_is_conservative {world : World (Body Custom)}
    {events : List Event} (hpast : world.registry.Past events)
    (meaning : Body Custom → List Value → Program (Body Custom) Value) (depth : ℕ) :
    ∃ library registry,
      install.exec meaning depth world =
        some (.ok library, { world with registry := registry }) ∧
      Installs world.registry library registry ∧
      ∃ library' registry',
        install.exec meaning depth { world with registry := registry } =
          some (.ok library', { world with registry := registry' }) ∧
        Installs registry library' registry' ∧
        (∀ binding ∈ functionBindings library, ∃ function,
          registry.function? binding.2 = some function ∧
            registry'.function? binding.2 = some function ∧
            ∀ types tolerateTie,
              (∀ type ∈ types, registry.hierarchy.Knows type) →
                (registry'.resolve binding.2 types tolerateTie).1 =
                  (registry.resolve binding.2 types tolerateTie).1) ∧
        ∀ named ∈ namedTypes library.types,
          registry'.hierarchy.parent? named.2 =
            registry.hierarchy.parent? named.2 ∧
          registry'.hierarchy.ancestorsOf named.2 =
            registry.hierarchy.ancestorsOf named.2 ∧
          registry'.membershipTest? named.2 = registry.membershipTest? named.2 := by
  obtain ⟨library, registry, hrun, hfirst⟩ := exists_installs world hpast meaning depth
  obtain ⟨events', hpast'⟩ := hfirst.past
  obtain ⟨library', registry', hrun', hsecond⟩ :=
    exists_installs { world with registry := registry } hpast' meaning depth
  have hkept := hsecond.conserves
  refine ⟨library, registry, hrun, hfirst, library', registry', hrun', hsecond,
    fun binding hbinding => ?_, fun named hnamed => ?_⟩
  · obtain ⟨hname, -⟩ := hfirst.newest _ _ (hfirst.functions binding hbinding)
    obtain ⟨function, hfunction, -⟩ := Option.map_eq_some_iff.mp hname
    exact ⟨function, hfunction, hkept.function? _ _ hfunction,
      fun types tolerateTie hknown =>
        hkept.resolve _ _ types tolerateTie hfunction hknown⟩
  · obtain ⟨hknown, -⟩ := hfirst.types named hnamed
    exact ⟨hkept.parent? _ hknown, hkept.ancestorsOf _ hknown,
      hkept.membershipTest? _ hknown⟩

/-- The root gets a parent, and its test an entry for truth values. -/
def rootedHistory : History (Body Empty) :=
  History.run (.start { distance := .symmetric }) [
    .createPredicate "isThing",
    .derive ⟨5, "isThing"⟩ Predicate.any,
    .register 0 ⟨[Predicate.boolean], Predicate.boolean,
      .code (.primitive .isIntegral)⟩]

theorem installation_is_conservative_rootedHistory :
    rootedHistory.Holds ∧
    ∃ library registry,
      install.exec (fun _ _ => .done (.ok .null)) 0
          { registry := rootedHistory.registry } =
        some (.ok library, { registry := registry }) ∧
      registry.hierarchy.parent? Predicate.any = some ⟨5, "isThing"⟩ ∧
      registry.function? 0 = rootedHistory.registry.function? 0 ∧
      registry.named? "add" = some library.numbers.add ∧
      registry.named? "isAny" = some 0 ∧
      ∃ library' registry',
        install.exec (fun _ _ => .done (.ok .null)) 0 { registry := registry } =
          some (.ok library', { registry := registry' }) ∧
        registry'.named? "add" = some library'.numbers.add ∧
        registry'.function? library.numbers.add =
          registry.function? library.numbers.add := by
  have hholds : rootedHistory.Holds := (History.holds_start _).run (by decide +kernel)
  obtain ⟨library, registry, hrun, hfirst, library', registry', hrun', hsecond,
    hhandles, -⟩ := @installation_is_conservative Empty
      { registry := rootedHistory.registry } rootedHistory.events hholds
      (fun _ _ => .done (.ok .null)) 0
  obtain ⟨function, hfunction⟩ : ∃ function,
      rootedHistory.registry.function? 0 = some function := ⟨_, rfl⟩
  have hknown : rootedHistory.registry.hierarchy.Knows Predicate.any := by
    decide +kernel
  refine ⟨hholds, library, registry, hrun, ?_, ?_, ?_, ?_, library', registry', hrun',
    ?_, ?_⟩
  · rw [hfirst.conserves.parent? _ hknown]
    decide +kernel
  · rw [hfunction]
    exact hfirst.conserves.function? 0 function hfunction
  · exact hfirst.functions ("add", _) (by simp [functionBindings, numberBindings])
  · rw [hfirst.others "isAny" (by decide +kernel)]
    decide +kernel
  · exact hsecond.functions ("add", _) (by simp [functionBindings, numberBindings])
  · obtain ⟨add, hadd, hadd', -⟩ := hhandles ("add", library.numbers.add)
      (by simp [functionBindings, numberBindings])
    exact hadd'.trans hadd.symm

end PredicateDispatch.Library
