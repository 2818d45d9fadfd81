import PredicateDispatch.Proofs.Dispatch.Forecast
import PredicateDispatch.Proofs.Registry.Effects

/-!
# Nothing is undone

Whatever operations follow, and whatever programs run: a parent stays, a
predicate keeps its number and its name, a function keeps its number, its name
and the argument types of each of its entries at their place.  So what is above a
predicate stays above it, as far away as it was, and a value keeps every type that
it once had.
-/

namespace PredicateDispatch

variable {Code α : Type}

/-- The later function has the name of the earlier one and, at the same places,
entries for the same argument types. -/
def GenericFunction.Remains (earlier later : GenericFunction Code) : Prop :=
  later.name = earlier.name ∧ earlier.argumentIds <+: later.argumentIds

namespace GenericFunction.Remains

theorem refl (function : GenericFunction Code) : function.Remains function :=
  ⟨rfl, List.prefix_rfl⟩

theorem trans {first second third : GenericFunction Code}
    (hearlier : first.Remains second) (hlater : second.Remains third) :
    first.Remains third :=
  ⟨hlater.1.trans hearlier.1, hearlier.2.trans hlater.2⟩

/-- An entry comes last or takes the place of one for the same types. -/
theorem addEntry (function : GenericFunction Code) (entry : MethodEntry Code) :
    function.Remains (function.addEntry entry) := by
  refine ⟨rfl, ?_⟩
  rw [argumentIds_addEntry]
  split
  · exact List.prefix_rfl
  · exact List.prefix_append _ _

theorem exists_entry {earlier later : GenericFunction Code}
    (hremains : earlier.Remains later) {index : ℕ} {entry : MethodEntry Code}
    (hentry : earlier.entries[index]? = some entry) :
    ∃ kept, later.entries[index]? = some kept ∧
      kept.arguments.ids = entry.arguments.ids := by
  have hids : earlier.argumentIds[index]? = some entry.arguments.ids := by
    rw [argumentIds, List.getElem?_map, hentry]
    rfl
  obtain ⟨more, hmore⟩ := hremains.2
  have hkept : later.argumentIds[index]? = some entry.arguments.ids := by
    rw [← hmore, List.getElem?_append_left (List.getElem?_eq_some_iff.mp hids).1]
    exact hids
  rw [argumentIds, List.getElem?_map] at hkept
  exact Option.map_eq_some_iff.mp hkept

end GenericFunction.Remains

namespace Catalog

/-- The later catalog has all parents, predicates and functions of the earlier
one. -/
structure Remains (earlier later : Catalog Code) : Prop where
  parent? : ∀ type parent, earlier.hierarchy.parent? type = some parent →
    later.hierarchy.parent? type = some parent
  predicates : ∀ (id : ℕ) type, earlier.hierarchy.predicates[id]? = some type →
    later.hierarchy.predicates[id]? = some type
  function? : ∀ id function, earlier.function? id = some function →
    ∃ found, later.function? id = some found ∧ function.Remains found

namespace Remains

theorem refl (catalog : Catalog Code) : catalog.Remains catalog where
  parent? _ _ hparent := hparent
  predicates _ _ htype := htype
  function? _ function hfunction := ⟨function, hfunction, .refl function⟩

theorem trans {first second third : Catalog Code}
    (hearlier : first.Remains second) (hlater : second.Remains third) :
    first.Remains third where
  parent? type parent hparent :=
    hlater.parent? type parent (hearlier.parent? type parent hparent)
  predicates id type htype :=
    hlater.predicates id type (hearlier.predicates id type htype)
  function? id function hfunction := by
    obtain ⟨middle, hmiddle, hfirst⟩ := hearlier.function? id function hfunction
    obtain ⟨found, hfound, hsecond⟩ := hlater.function? id middle hmiddle
    exact ⟨found, hfound, hfirst.trans hsecond⟩

/-! ### Single changes -/

variable (catalog : Catalog Code)

theorem create (name : String) : catalog.Remains (catalog.create name) where
  parent? _ _ hparent := hparent
  predicates id type htype := by
    have hlt := (Array.getElem?_eq_some_iff.mp htype).1
    rw [Catalog.create, Hierarchy.create, Array.getElem?_push,
      if_neg (Nat.ne_of_lt hlt)]
    exact htype
  function? _ function hfunction := ⟨function, hfunction, .refl function⟩

theorem changeTests (tests : Std.TreeMap ℕ ℕ) :
    catalog.Remains { catalog with tests := tests } where
  parent? _ _ hparent := hparent
  predicates _ _ htype := htype
  function? _ function hfunction := ⟨function, hfunction, .refl function⟩

theorem addFunction (function : GenericFunction Code) :
    catalog.Remains (catalog.addFunction function) where
  parent? _ _ hparent := hparent
  predicates _ _ htype := htype
  function? _ existing hexisting :=
    ⟨existing, Registry.function?_addFunction_of_some hexisting, .refl existing⟩

theorem modifyFunction (id : ℕ)
    {change : GenericFunction Code → GenericFunction Code}
    (hchange : ∀ function : GenericFunction Code,
      function.Remains (change function)) :
    catalog.Remains (catalog.modifyFunction id change) where
  parent? _ _ hparent := hparent
  predicates _ _ htype := htype
  function? other function hfunction := by
    by_cases hid : other = id
    · subst hid
      refine ⟨change function, ?_, hchange function⟩
      rw [Registry.function?_modifyFunction_self, hfunction]
      rfl
    · refine ⟨function, ?_, .refl function⟩
      rw [Registry.function?_modifyFunction_of_ne _ hid]
      exact hfunction

theorem changeRole (id : ℕ) (role : Role) (tests : Std.TreeMap ℕ ℕ) :
    catalog.Remains
      { catalog.modifyFunction id ({ · with role := role }) with
        tests := tests } := by
  have hchanged : catalog.Remains
      (catalog.modifyFunction id ({ · with role := role })) :=
    modifyFunction catalog id fun function =>
      GenericFunction.Remains.refl function
  exact hchanged.trans (changeTests _ tests)

end Remains

/-! ### Operations -/

theorem Derived.remains {catalog after : Catalog Code} {parent child : Predicate}
    (hderived : catalog.Derived parent child after) : catalog.Remains after where
  parent? _ _ hparent := Hierarchy.parent?_link_of_some hderived.link_eq hparent
  predicates id type htype := by
    rw [Hierarchy.predicates_of_link hderived.link_eq]
    exact htype
  function? id function hfunction := by
    rcases hderived.function?_of_some hfunction with hsame | ⟨-, -, hextended⟩
    · exact ⟨function, hsame, .refl function⟩
    · exact ⟨_, hextended, .addEntry function _⟩

theorem Reviewed.remains {catalog after : Catalog Code} {id : ℕ}
    (hreviewed : catalog.Reviewed id after) : catalog.Remains after := by
  cases hreviewed with
  | kept _ _ _ => exact .refl catalog
  | @promoted function derived _ _ _ hderived =>
      exact ((Remains.create catalog function.name).trans hderived.remains).trans
        (.changeRole derived id _ _)
  | demoted _ _ _ => exact .changeRole catalog id _ _

theorem Performed.remains {catalog after : Catalog Code}
    {operation : Operation Code} {new : List Event}
    (hperformed : catalog.Performed operation after new) :
    catalog.Remains after := by
  cases hperformed with
  | unchanged => exact .refl catalog
  | createdPredicate name => exact .create catalog name
  | @defined name _ derived hderived =>
      exact ((Remains.create catalog name).trans hderived.remains).trans
        ((Remains.addFunction derived _).trans (.changeTests _ _))
  | derived hderived => exact hderived.remains
  | createdFunction name => exact .addFunction catalog _
  | @registered id entry _ _ _ hreviewed =>
      exact (Remains.modifyFunction catalog id fun function =>
        .addEntry function entry).trans hreviewed.remains
  | @defaulted id _ _ _ =>
      exact .modifyFunction catalog id fun function => .refl function

/-- Operations that fail halfway take nothing back either. -/
theorem Attempted.remains {catalog after : Catalog Code}
    {operation : Operation Code} {new : List Event}
    (hattempted : catalog.Attempted operation after new) :
    catalog.Remains after := by
  cases hattempted with
  | performed hperformed => exact hperformed.remains
  | definitionRefused _ => exact .create catalog _
  | @promotionRefused id entry function _ _ _ _ =>
      exact (Remains.modifyFunction catalog id fun function =>
        .addEntry function entry).trans (.create _ _)

theorem Remains.isA_and_typeDistance {earlier later : Catalog Code}
    (hremains : earlier.Remains later) (hearlier : earlier.Orderly)
    (hlater : later.Orderly) {upper lower : Predicate}
    (habove : earlier.isA upper lower = true) :
    later.isA upper lower = true ∧
      later.hierarchy.typeDistance lower upper =
        earlier.hierarchy.typeDistance lower upper :=
  hearlier.coherent.isA_and_typeDistance_of_parents hlater.coherent
    hremains.parent? habove

end Catalog

/-! ## Later registries -/

namespace Registry

/-- The second registry is what operations make of the first one, whatever they
mention and whether they succeed or fail. -/
inductive Becomes (earlier : Registry Code) : Registry Code → Prop
  | refl : Becomes earlier earlier
  | perform {registry : Registry Code} (operation : Operation Code) :
      Becomes earlier registry → Becomes earlier (operation.perform registry).2

theorem Becomes.trans {first second third : Registry Code}
    (hearlier : first.Becomes second) (hlater : second.Becomes third) :
    first.Becomes third := by
  induction hlater with
  | refl => exact hearlier
  | perform operation _ ih => exact ih.perform operation

theorem Becomes.orderly_and_remains {earlier later : Registry Code}
    (hbecomes : earlier.Becomes later) (horderly : earlier.toCatalog.Orderly) :
    later.toCatalog.Orderly ∧ earlier.toCatalog.Remains later.toCatalog := by
  induction hbecomes with
  | refl => exact ⟨horderly, .refl _⟩
  | perform operation _ ih =>
      obtain ⟨hregistry, hremains⟩ := ih
      have hattempted := attempted hregistry operation
      exact ⟨hattempted.orderly hregistry, hremains.trans hattempted.remains⟩

theorem Becomes.isA {earlier later : Registry Code}
    (hbecomes : earlier.Becomes later) (horderly : earlier.toCatalog.Orderly)
    {upper lower : Predicate} (habove : earlier.isA upper lower = true) :
    later.isA upper lower = true := by
  obtain ⟨hlater, hremains⟩ := hbecomes.orderly_and_remains horderly
  exact (hremains.isA_and_typeDistance horderly hlater habove).1

end Registry

/-! ## Runs -/

/-- If a run ends, then with a registry that operations have made of this one. -/
def Result.Continues (result : Result Code α) (registry : Registry Code) : Prop :=
  ∀ outcome final, result = some (outcome, final) →
    registry.Becomes final.registry

namespace Result

theorem continues_none (registry : Registry Code) :
    Continues (none : Result Code α) registry := by
  intro outcome final heq
  cases heq

theorem continues_some {registry : Registry Code} {world : World Code}
    (hbecomes : registry.Becomes world.registry) (outcome : Except Error α) :
    Continues (some (outcome, world)) registry := by
  intro outcome' final heq
  obtain ⟨-, rfl⟩ := Prod.mk.inj (Option.some.inj heq)
  exact hbecomes

end Result

section Runs

variable {runTask : Runner Code}
  (hrunTask : ∀ task arguments world,
    Result.Continues (runTask task arguments world) world.registry)
include hrunTask

/-- Beside operations and runs, nothing that a program asks for is about the
registry. -/
theorem Request.continues_answer (request : Request Code) (world : World Code) :
    Result.Continues (request.answer runTask world) world.registry := by
  cases request with
  | registry operation =>
      exact Result.continues_some (Registry.Becomes.refl.perform operation) _
  | run task arguments => exact hrunTask task arguments world
  | runClosure identity arguments =>
      simp only [Request.answer]
      split
      · exact hrunTask _ _ _
      · exact Result.continues_some .refl _
  | makeClosure body => exact Result.continues_some .refl _
  | readVariable name => exact Result.continues_some .refl _
  | writeVariable name value => exact Result.continues_some .refl _
  | write text => exact Result.continues_some .refl _
  | takeOutput => exact Result.continues_some .refl _
  | library => exact Result.continues_some .refl _
  | publish library => exact Result.continues_some .refl _

theorem Program.continues_runWith (program : Program Code α)
    (world : World Code) :
    Result.Continues (program.runWith runTask world) world.registry := by
  induction program generalizing world with
  | done outcome => exact Result.continues_some .refl outcome
  | ask request next ih =>
      have hanswer := request.continues_answer hrunTask world
      rw [runWith]
      cases hresult : request.answer runTask world with
      | none => exact Result.continues_none _
      | some answered =>
          intro outcome final hrun
          exact (hanswer _ _ hresult).trans (ih answered.1 answered.2 _ _ hrun)

end Runs

variable (meaning : Code → List Value → Program Code Value)

theorem continues_runTask (depth : ℕ) (task : Task Code) (arguments : List Value)
    (world : World Code) :
    Result.Continues (runTask meaning depth task arguments world)
      world.registry := by
  induction depth generalizing task arguments world with
  | zero => exact Result.continues_none _
  | succ depth ih => exact Program.continues_runWith ih _ world

theorem Program.continues_exec (depth : ℕ) (program : Program Code α)
    (world : World Code) :
    Result.Continues (program.exec meaning depth world) world.registry :=
  continues_runWith (continues_runTask meaning depth) program world

/-- A function that does not exist cannot be called. -/
theorem Program.function?_of_exec_call {depth id : ℕ} {arguments : List Value}
    {world final : World Code} {answer : Value}
    (hrun : (call id arguments).exec meaning depth world =
      some (.ok answer, final)) :
    ∃ function, world.registry.function? id = some function := by
  cases hfunction : world.registry.function? id with
  | some function => exact ⟨function, rfl⟩
  | none =>
      obtain ⟨function, middle, hlookup, -⟩ := exists_of_runWith_bind hrun
      obtain ⟨catalog, middle, hinspect, hrest⟩ := exists_of_runWith_bind hlookup
      obtain ⟨hcatalog, rfl⟩ := Prod.mk.inj (Option.some.inj hinspect)
      obtain rfl := Except.ok.inj hcatalog
      rw [hfunction] at hrest
      cases hrest

/-- Whatever operations follow on a registry, its parents stay, what is above a
predicate stays above it and as far away, predicates keep their numbers and names,
and functions keep their names and, at each position, the argument types of the
entry.  The same holds of whatever programs run, since they leave nothing but what
operations make of a registry.  So a value that a call answered with keeps the
return type that was declared. -/
theorem nothing_is_undone {world : World Code}
    (hreachable : world.registry.Reachable) :
    (∀ later, world.registry.Becomes later →
      (∀ type parent, world.registry.hierarchy.parent? type = some parent →
        later.hierarchy.parent? type = some parent) ∧
      (∀ upper lower, world.registry.isA upper lower = true →
        later.isA upper lower = true ∧
          later.hierarchy.distance .directed lower upper =
            world.registry.hierarchy.distance .directed lower upper) ∧
      (∀ (id : ℕ) type, world.registry.hierarchy.predicates[id]? = some type →
        later.hierarchy.predicates[id]? = some type) ∧
      (∀ id function, world.registry.function? id = some function →
        ∃ kept, later.function? id = some kept ∧ kept.name = function.name ∧
          ∀ (index : ℕ) entry, function.entries[index]? = some entry →
            ∃ current, kept.entries[index]? = some current ∧
              current.arguments.ids = entry.arguments.ids)) ∧
    (∀ (meaning : Code → List Value → Program Code Value) (depth : ℕ) {β : Type}
      (program : Program Code β) (outcome : Except Error β) (final : World Code),
      program.exec meaning depth world = some (outcome, final) →
        world.registry.Becomes final.registry) ∧
    (∀ (meaning : Code → List Value → Program Code Value) (depth id : ℕ)
      (arguments : List Value) (answer : Value) (final : World Code)
      (later : Registry Code),
      (Program.call id arguments).exec meaning depth world =
        some (.ok answer, final) →
      final.registry.Becomes later →
        ∃ returns,
          (world.registry.probe id (arguments.map Value.type)).1 =
            .ok (some returns) ∧
          final.registry.isA returns answer.type = true ∧
          later.isA returns answer.type = true) := by
  have horderly := hreachable.orderly
  refine ⟨fun later hbecomes => ?_, fun meaning depth _ program outcome final hrun =>
      program.continues_exec meaning depth world outcome final hrun,
    fun meaning depth id arguments answer final later hrun hbecomes => ?_⟩
  · obtain ⟨hlater, hremains⟩ := hbecomes.orderly_and_remains horderly
    refine ⟨hremains.parent?, fun upper lower habove =>
        hremains.isA_and_typeDistance horderly hlater habove,
      hremains.predicates, fun id function hfunction => ?_⟩
    obtain ⟨kept, hkept, hsame⟩ := hremains.function? id function hfunction
    exact ⟨kept, hkept, hsame.1, fun index entry hentry => hsame.exists_entry hentry⟩
  · obtain ⟨function, hfunction⟩ := Program.function?_of_exec_call meaning hrun
    obtain ⟨returns, hprobed, habove⟩ :=
      Program.isA_of_exec_call hreachable hfunction hrun
    have hfinal := Program.continues_exec meaning depth _ world _ _ hrun
    exact ⟨returns, hprobed, habove,
      hbecomes.isA (hfinal.orderly_and_remains horderly).1 habove⟩

/-- The call replaces the entry that it runs by one of another return type, and
then the function gets another entry. -/
theorem nothing_is_undone_replaceSelf :
    nullRegistry.Reachable ∧
    ∃ answer final,
      (Program.call 5 [Value.null]).exec replaceSelf 2
        { registry := nullRegistry } = some (.ok answer, final) ∧
      (∃ kept, final.registry.function? 5 = some kept ∧ kept.name = "f" ∧
        ∃ current, kept.entries[0]? = some current ∧
          current.arguments.ids = [Predicate.null.id]) ∧
      ∃ returns,
        ((Operation.register 5 ⟨[Predicate.any], Predicate.any, .code ()⟩).perform
          final.registry).2.isA returns answer.type = true := by
  have hreachable : nullRegistry.Reachable :=
    ((Registry.Reachable.fresh {}).perform (.createFunction "f")
      trivial).perform (.register 5 nullEntry) trivial
  have hends : (((Program.call 5 [Value.null]).exec replaceSelf 2
      { registry := nullRegistry }).any fun result => result.1.isOk) = true := by
    decide +kernel
  obtain ⟨hlater, hruns, hcalls⟩ :=
    @nothing_is_undone Unit { registry := nullRegistry } hreachable
  refine ⟨hreachable, ?_⟩
  cases hrun : (Program.call 5 [Value.null]).exec replaceSelf 2
      { registry := nullRegistry } with
  | none =>
      rw [hrun] at hends
      cases hends
  | some result =>
      obtain ⟨outcome, final⟩ := result
      cases outcome with
      | error error =>
          rw [hrun] at hends
          cases hends
      | ok answer =>
          obtain ⟨-, -, -, hfunctions⟩ := hlater _ (hruns _ _ _ _ _ hrun)
          obtain ⟨kept, hkept, hname, hentries⟩ :=
            hfunctions 5 { name := "f", entries := [nullEntry] } rfl
          obtain ⟨returns, -, -, habove⟩ :=
            hcalls _ _ _ _ _ _ _ hrun (Registry.Becomes.refl.perform
              (.register 5 ⟨[Predicate.any], Predicate.any, .code ()⟩))
          exact ⟨answer, final, rfl, ⟨kept, hkept, hname, hentries 0 nullEntry rfl⟩,
            returns, habove⟩

end PredicateDispatch
