import PredicateDispatch.Library.Install
import PredicateDispatch.Proofs.Library.Tables
import PredicateDispatch.Proofs.Program.Yields
import PredicateDispatch.Proofs.Registry.Fitted

/-!
# What the base functions run

Wherever an installation of the base library succeeds, the base types are in
their places, and every base function has exactly the rows of its table with the
code of each.  Only `isEmpty`, whose rows are all truth tests, becomes the test of
a predicate and may get further entries.  Neither the metric nor links to handles
from elsewhere make a difference, except that such a link may make the
installation fail.
-/

namespace PredicateDispatch

variable {Code α β : Type}

/-! ## Programs that may fail -/

namespace Program

/-- If the program succeeds in a world, it leaves an answer and a world as
described. -/
def Leaves (runTask : Runner Code) (program : Program Code α)
    (world : World Code) (post : α → World Code → Prop) : Prop :=
  ∀ value after, program.runWith runTask world = some (.ok value, after) →
    post value after

namespace Leaves

variable {runTask : Runner Code} {world : World Code}

theorem pure {post : α → World Code → Prop} {value : α}
    (hpost : post value world) :
    (Pure.pure value : Program Code α).Leaves runTask world post := by
  intro _ _ hrun
  obtain ⟨hvalue, rfl⟩ := Prod.mk.inj (Option.some.inj hrun)
  rw [← Except.ok.inj hvalue]
  exact hpost

theorem bind {program : Program Code α} {rest : α → Program Code β}
    {middle : α → World Code → Prop} {post : β → World Code → Prop}
    (hprogram : program.Leaves runTask world middle)
    (hrest : ∀ value after, middle value after →
      (rest value).Leaves runTask after post) :
    (program >>= rest).Leaves runTask world post := by
  intro result final hrun
  obtain ⟨value, after, hfirst, hsecond⟩ := exists_of_runWith_bind hrun
  exact hrest value after (hprogram value after hfirst) result final hsecond

theorem of_perform (operation : Operation Code)
    {post : operation.Answer → World Code → Prop}
    (hpost : ∀ value after, operation.perform world.registry = (.ok value, after) →
      post value { world with registry := after }) :
    (request (.registry operation)).Leaves runTask world post := by
  intro value after hrun
  rw [runWith_request, Request.answer] at hrun
  obtain ⟨hvalue, rfl⟩ := Prod.mk.inj (Option.some.inj hrun)
  exact hpost value _ (Prod.ext hvalue rfl)

end Leaves

end Program

/-! ## Functions with code -/

variable {Custom : Type}

/-- The entry that a row with its code stands for. -/
def BaseTypes.entry (types : BaseTypes) (fitting : Row × Primitive) :
    MethodEntry (Body Custom) :=
  ⟨types.handles fitting.1.arguments, types.handle fitting.1.returns,
    .code (.primitive fitting.2)⟩

theorem GenericFunction.has_of_entries_eq {types : BaseTypes}
    {fittings : List (Row × Primitive)} {function : GenericFunction (Body Custom)}
    (hentries : function.entries = fittings.map types.entry) :
    function.Has types (fittings.map Prod.fst) := by
  rw [Has, hentries, List.map_map, List.map_map]
  rfl

namespace Registry

/-- The base types are placed, some functions have these rows with their code,
and some others have entries with one argument only. -/
structure Equipped (metric : Metric) (types : BaseTypes)
    (fittings : List (ℕ × List (Row × Primitive))) (unary : List ℕ)
    (registry : Registry (Body Custom)) : Prop where
  reachable : registry.Reachable
  metric_eq : registry.metric = metric
  placed : types.Placed registry.hierarchy
  distinct : (fittings.map Prod.fst ++ unary).Nodup
  fitted : ∀ fitting ∈ fittings,
    registry.Fitted fitting.1 (fitting.2.map types.entry)
  unary : ∀ id ∈ unary, registry.Unary id

namespace Equipped

variable {metric : Metric} {types : BaseTypes}
  {fittings : List (ℕ × List (Row × Primitive))} {unary : List ℕ}
  {registry : Registry (Body Custom)}

theorem perm {fittings' : List (ℕ × List (Row × Primitive))}
    (hequipped : registry.Equipped metric types fittings unary)
    (hperm : fittings.Perm fittings') :
    registry.Equipped metric types fittings' unary :=
  { hequipped with
    distinct :=
      ((hperm.map Prod.fst).append_right unary).nodup_iff.mp hequipped.distinct
    fitted := fun fitting hfitting =>
      hequipped.fitted fitting (hperm.mem_iff.mpr hfitting) }

theorem tail {fitting : ℕ × List (Row × Primitive)}
    (hequipped : registry.Equipped metric types (fitting :: fittings) unary) :
    registry.Equipped metric types fittings unary :=
  { hequipped with
    distinct := hequipped.distinct.of_cons
    fitted := fun fitting hfitting =>
      hequipped.fitted fitting (List.mem_cons_of_mem _ hfitting) }

theorem tail_unary {id : ℕ}
    (hequipped : registry.Equipped metric types fittings (id :: unary)) :
    registry.Equipped metric types fittings unary :=
  { hequipped with
    distinct := (List.nodup_middle.mp hequipped.distinct).of_cons
    unary := fun id hid => hequipped.unary id (List.mem_cons_of_mem _ hid) }

variable (hequipped : registry.Equipped metric types fittings unary)
include hequipped

section Cons

variable {id : ℕ} (hid : id ∉ fittings.map Prod.fst ++ unary)
include hid

theorem cons {rows : List (Row × Primitive)}
    (hfitted : registry.Fitted id (rows.map types.entry)) :
    registry.Equipped metric types ((id, rows) :: fittings) unary :=
  { hequipped with
    distinct := List.nodup_cons.mpr ⟨hid, hequipped.distinct⟩
    fitted := List.forall_mem_cons.mpr ⟨hfitted, hequipped.fitted⟩ }

theorem cons_unary (hunary : registry.Unary id) :
    registry.Equipped metric types fittings (id :: unary) :=
  { hequipped with
    distinct := List.nodup_middle.mpr
      (List.nodup_cons.mpr ⟨hid, hequipped.distinct⟩)
    unary := List.forall_mem_cons.mpr ⟨hunary, hequipped.unary⟩ }

end Cons

/-- The next function is none of those that are there. -/
theorem nextFunction_not_mem :
    registry.nextFunction ∉ fittings.map Prod.fst ++ unary := by
  intro hid
  rcases List.mem_append.mp hid with hfitting | hunary
  · obtain ⟨fitting, hmem, heq⟩ := List.mem_map.mp hfitting
    exact (hequipped.fitted fitting hmem).lt_nextFunction.ne heq
  · obtain ⟨function, hfunction, -⟩ := hequipped.unary _ hunary
    exact (Catalog.lt_of_function?_eq_some hfunction).ne rfl

/-- Operations leave alone all functions on which they register nothing. -/
theorem perform (operation : Operation (Body Custom))
    (hcaches : operation.CachesUnder registry.metric)
    (hclosed : ∀ id ∈ fittings.map Prod.fst ++ unary, id ∉ operation.registered) :
    (operation.perform registry).2.Equipped metric types fittings unary := by
  have horderly := hequipped.reachable.orderly
  have hattempted := attempted horderly operation
  exact {
    reachable := hequipped.reachable.perform operation hcaches
    metric_eq := (hequipped.reachable.metric_perform hcaches).trans
      hequipped.metric_eq
    placed := {
      parent? := fun type parent hparent =>
        hattempted.remains.parent? _ _ (hequipped.placed.parent? type parent hparent)
      distinct := hequipped.placed.distinct }
    distinct := hequipped.distinct
    fitted := fun fitting hfitting =>
      hequipped.reachable.fitted_perform (hequipped.fitted fitting hfitting)
        operation (hclosed _ (List.mem_append_left _ (List.mem_map_of_mem hfitting)))
    unary := fun id hid => by
      obtain ⟨function, hfunction, hentries⟩ := hequipped.unary id hid
      obtain ⟨found, hfound, hprolongs⟩ := hattempted.exists_prolongs
        (hclosed id (List.mem_append_right _ hid)) hfunction
      exact ⟨found, hfound, hprolongs.forall_length_eq_one hentries⟩ }

end Equipped

end Registry

namespace Library

open Program (Leaves)

/-! ## Registering rows -/

/-- Registers rows with the code for each of them, and goes on. -/
def registerRows (types : BaseTypes) (id : ℕ) :
    List (Row × Primitive) → Program (Body Custom) α → Program (Body Custom) α
  | [], rest => rest
  | (row, primitive) :: more, rest => do
    registerPrimitive id (types.handles row.arguments)
      (types.handle row.returns) primitive
    registerRows types id more rest

section Rows

variable {runTask : Runner (Body Custom)} {world : World (Body Custom)}
  {metric : Metric} {types : BaseTypes}
  {fittings : List (ℕ × List (Row × Primitive))} {unary : List ℕ} {id : ℕ}

/-- One more row of a table. -/
theorem leaves_row {rows : List (Row × Primitive)} {row : Row}
    {primitive : Primitive}
    (hequipped : world.registry.Equipped metric types ((id, rows) :: fittings)
      unary)
    (hnew : row.arguments ∉ (rows.map Prod.fst).map Row.arguments)
    (hplain : ((rows ++ [(row, primitive)]).map Prod.fst).all Row.isTruthTest =
      false) :
    (registerPrimitive id (types.handles row.arguments)
        (types.handle row.returns) primitive).Leaves runTask world fun _ after =>
      after.registry.Equipped metric types
        ((id, rows ++ [(row, primitive)]) :: fittings) unary := by
  have hfitted : world.registry.Fitted id (rows.map types.entry) :=
    hequipped.fitted _ List.mem_cons_self
  have hput : GenericFunction.putEntry (types.entry (row, primitive))
      (rows.map types.entry) =
        (rows ++ [(row, primitive)]).map
          (types.entry : _ → MethodEntry (Body Custom)) := by
    obtain ⟨function, -, hentries, -⟩ := hfitted.function
    rw [← hentries, List.map_append, List.map_singleton, ← hentries]
    exact (GenericFunction.has_of_entries_eq hentries).putEntry hequipped.placed
      hnew _
  have hid := (List.nodup_cons.mp hequipped.distinct).1
  refine Leaves.of_perform (.register id (types.entry (row, primitive)))
    fun _ after hperform => ?_
  obtain ⟨after', hregister, hafter⟩ :=
    hequipped.reachable.exists_register_of_fitted hfitted
      (types.entry (row, primitive)) fun function hentries => by
        rw [hput] at hentries
        exact ((GenericFunction.has_of_entries_eq hentries).isTruthTest_eq
          hequipped.placed).trans hplain
  obtain ⟨-, rfl⟩ := Prod.mk.inj (hregister.symm.trans hperform)
  have hothers := hequipped.tail.perform
    (.register id (types.entry (row, primitive))) trivial fun other hother heq =>
      hid (heq ▸ hother)
  rw [hperform] at hothers
  rw [hput] at hafter
  exact hothers.cons hid hafter

/-- Further rows of a table. -/
theorem leaves_rows {rows : List (Row × Primitive)}
    (more : List (Row × Primitive))
    (hequipped : world.registry.Equipped metric types ((id, rows) :: fittings)
      unary)
    (hnodup : (((rows ++ more).map Prod.fst).map Row.arguments).Nodup)
    (hplain : Row.Plain ((rows ++ more).map Prod.fst))
    {rest : Program (Body Custom) α} {post : α → World (Body Custom) → Prop}
    (hrest : ∀ after : World (Body Custom),
      after.registry.Equipped metric types ((id, rows ++ more) :: fittings) unary →
        rest.Leaves runTask after post) :
    (registerRows types id more rest).Leaves runTask world post := by
  induction more generalizing rows world with
  | nil =>
      rw [List.append_nil] at hrest
      exact hrest world hequipped
  | cons fitting later ih =>
      obtain ⟨row, primitive⟩ := fitting
      have hnew : row.arguments ∉ (rows.map Prod.fst).map Row.arguments := by
        rw [List.map_append, List.map_append] at hnodup
        exact fun hmem => (List.nodup_append.mp hnodup).2.2 _ hmem _
          List.mem_cons_self rfl
      have hfirst : ((rows ++ [(row, primitive)]).map Prod.fst).all
          Row.isTruthTest = false := by
        rw [List.map_append, List.map_cons] at hplain
        rw [List.map_append]
        exact hplain.all_eq_false
      rw [List.append_cons] at hnodup hplain hrest
      exact (leaves_row hequipped hnew hfirst).bind
        fun _ after hafter => ih hafter hnodup hplain hrest

/-- A new function gets its rows. -/
theorem leaves_function (name : String) (rows : ℕ → List (Row × Primitive))
    (table : List Row) (htable : ∀ id, (rows id).map Prod.fst = table)
    (hequipped : world.registry.Equipped metric types fittings unary)
    (hnodup : (table.map Row.arguments).Nodup) (hplain : Row.Plain table)
    {rest : ℕ → Program (Body Custom) α}
    {post : α → World (Body Custom) → Prop}
    (hrest : ∀ id (after : World (Body Custom)),
      after.registry.Equipped metric types ((id, rows id) :: fittings) unary →
        (rest id).Leaves runTask after post) :
    (Program.createFunction name >>= fun id =>
      registerRows types id (rows id) (rest id)).Leaves runTask world post := by
  refine (Leaves.of_perform (.createFunction name) fun id after hperform => ?_ :
    (Program.createFunction name).Leaves runTask world fun id after =>
      after.registry.Equipped metric types ((id, []) :: fittings) unary).bind
    fun id after hafter => leaves_rows (rows id) hafter ?_ ?_ (hrest id)
  · obtain ⟨hid, rfl⟩ := Prod.mk.inj hperform
    rw [← Except.ok.inj hid]
    exact (hequipped.perform (.createFunction name) trivial
      fun _ _ => Set.notMem_empty _).cons hequipped.nextFunction_not_mem
        (.of_created hequipped.reachable.orderly name)
  · rw [List.nil_append, htable]
    exact hnodup
  · rw [List.nil_append, htable]
    exact hplain

/-- One more row of a function with one-argument entries. -/
theorem leaves_unary_row {row : Row} (hsingle : row.arguments.length = 1)
    (hequipped : world.registry.Equipped metric types fittings (id :: unary))
    (primitive : Primitive) :
    (registerPrimitive id (types.handles row.arguments)
        (types.handle row.returns) primitive).Leaves runTask world fun _ after =>
      after.registry.Equipped metric types fittings (id :: unary) := by
  have hid := (List.nodup_cons.mp (List.nodup_middle.mp hequipped.distinct)).1
  obtain ⟨function, hfunction, hentries⟩ := hequipped.unary id List.mem_cons_self
  refine Leaves.of_perform (.register id (types.entry (row, primitive)))
    fun _ after hperform => ?_
  have hothers := hequipped.tail_unary.perform
    (.register id (types.entry (row, primitive))) trivial fun other hother heq =>
      hid (heq ▸ hother)
  obtain ⟨found, hfound, hprolongs⟩ :=
    (Registry.attempted hequipped.reachable.orderly
      (.register id (types.entry (row, primitive)))).exists_prolongs_register
        hfunction
  rw [hperform] at hothers hfound
  refine hothers.cons_unary hid ⟨found, hfound, ?_⟩
  rcases hprolongs with hsame | hadded
  · exact hsame.forall_length_eq_one hentries
  · refine hadded.forall_length_eq_one fun entry hentry => ?_
    rcases GenericFunction.mem_putEntry hentry with rfl | hold
    · exact (List.length_map _).trans hsingle
    · exact hentries entry hold

theorem leaves_unary_rows (rows : List (Row × Primitive))
    (hsingle : ∀ fitting ∈ rows, fitting.1.arguments.length = 1)
    (hequipped : world.registry.Equipped metric types fittings (id :: unary))
    {rest : Program (Body Custom) α} {post : α → World (Body Custom) → Prop}
    (hrest : ∀ after : World (Body Custom),
      after.registry.Equipped metric types fittings (id :: unary) →
        rest.Leaves runTask after post) :
    (registerRows types id rows rest).Leaves runTask world post := by
  induction rows generalizing world with
  | nil => exact hrest world hequipped
  | cons fitting more ih =>
      obtain ⟨hrow, hmore⟩ := List.forall_mem_cons.mp hsingle
      exact (leaves_unary_row hrow hequipped fitting.2).bind
        fun _ after hafter => ih hmore hafter

end Rows

/-! ## The code of the tables -/

section Code

variable (types : BaseTypes)

def arithmeticFittings (operation : Numbers.Arithmetic) : List (Row × Primitive) :=
  arithmeticTable.zip [.intArithmetic operation types, .realArithmetic operation types]

def joinFittings (str : ℕ) : List (Row × Primitive) :=
  joinTable.zip
    [.joinTexts types, .appendRendered str types, .prependRendered str types]

def negFittings : List (Row × Primitive) :=
  negTable.zip [.negateNumber types, .negateBoolean]

def isFittings : List (Row × Primitive) :=
  isTable.zip [.equalPayloads, .equalNumbers]

def comparisonFittings (accepted : Numbers.Comparison) : List (Row × Primitive) :=
  comparisonTable.zip [.comparison accepted]

def intFittings : List (Row × Primitive) :=
  intTable.zip [.intOfBoolean types, .intOfCharacter types, .intOfNumber types]

def strFittings (str : ℕ) : List (Row × Primitive) :=
  strTable.zip [.displayText types, .intText types, .characterText types,
    .functionText types, .predicateText types, .listText str types,
    .mapText str types]

def isEmptyFittings : List (Row × Primitive) :=
  isEmptyTable.zip [.isEmpty, .isEmpty, .isEmpty]

def sizeFittings : List (Row × Primitive) :=
  sizeTable.zip [.size types, .size types, .size types]

def getFittings : List (Row × Primitive) :=
  getTable.zip [.getItem, .getCharacter types, .getBound]

def setFittings : List (Row × Primitive) :=
  setTable.zip [.setItem types, .setCharacter types, .setBound types]

def printFittings (str : ℕ) : List (Row × Primitive) :=
  printTable.zip [.printNewline, .printLine str]

/-- The functions on numbers without `add`, the latest first. -/
def numberFittings (functions : NumberFunctions) : List (ℕ × List (Row × Primitive)) :=
  [(functions.int, intFittings types),
    (functions.isGreaterThanEq, comparisonFittings .greaterOrEqual),
    (functions.isGreaterThan, comparisonFittings .greater),
    (functions.isLessThanEq, comparisonFittings .lessOrEqual),
    (functions.isLessThan, comparisonFittings .less), (functions.is, isFittings),
    (functions.neg, negFittings types), (functions.pow, arithmeticFittings types .pow),
    (functions.modulo, arithmeticFittings types .modulo),
    (functions.divide, arithmeticFittings types .divide),
    (functions.times, arithmeticFittings types .times),
    (functions.sub, arithmeticFittings types .sub)]

def collectionFittings (functions : CollectionFunctions) :
    List (ℕ × List (Row × Primitive)) :=
  [(functions.set, setFittings types), (functions.get, getFittings types),
    (functions.size, sizeFittings types)]

end Code

def reflectionFittings (functions : ReflectionFunctions) :
    List (ℕ × List (Row × Primitive)) :=
  [(functions.apply, [(⟨[.function, .list], .any⟩, .apply)]),
    (functions.cast, [(⟨[.predicate, .any], .any⟩, .cast)]),
    (functions.retag, [(⟨[.predicate, .any], .any⟩, .retag)]),
    (functions.isA, [(⟨[.predicate, .predicate], .boolean⟩, .isA)]),
    (functions.derive, [(⟨[.predicate, .predicate], .null⟩, .derive)]),
    (functions.typeOf, [(⟨[.any], .predicate⟩, .typeOf)])]

/-- All functions but `isEmpty` with their rows and the code of these. -/
def fittings (library : Library) : List (ℕ × List (Row × Primitive)) :=
  (library.println, printFittings library.text) ::
    (reflectionFittings library.reflection ++
      (collectionFittings library.types library.collections ++
        ((library.numbers.add, arithmeticFittings library.types .add ++
            joinFittings library.types library.text) ::
          (library.text, strFittings library.types library.text) ::
            numberFittings library.types library.numbers)))

theorem text_mem_fittings (library : Library) :
    (library.text, strFittings library.types library.text) ∈ library.fittings := by
  simp [fittings, reflectionFittings, collectionFittings]

theorem add_mem_fittings (library : Library) :
    (library.numbers.add, arithmeticFittings library.types .add ++
      joinFittings library.types library.text) ∈ library.fittings := by
  simp [fittings, reflectionFittings, collectionFittings]

theorem collectionFittings_subset (library : Library) :
    collectionFittings library.types library.collections ⊆ library.fittings := by
  intro fitting hfitting
  simp [fittings, hfitting]

theorem numberFittings_subset (library : Library) :
    numberFittings library.types library.numbers ⊆ library.fittings := by
  intro fitting hfitting
  simp [fittings, hfitting]

theorem tables_eq (library : Library) :
    library.tables = library.fittings.map fun fitting =>
      (fitting.1, fitting.2.map Prod.fst) := rfl

end Library

end PredicateDispatch
