import PredicateDispatch.Proofs.Library.Conservation
import PredicateDispatch.Proofs.Library.Placement

/-!
# What an installation leaves

Installing the base library never fails in a registry with a past.  Rows are registered
one after the other, and a function is not promoted on the way if the first of its rows
is none of a truth test.  Only the rows of `isEmpty` are all truth tests: that function
is promoted at its first row, which fails if its new type cannot be linked below that of
the row.
-/

namespace PredicateDispatch

/-- A registry with a past that is equipped has the tables. -/
theorem Registry.Equipped.furnished {Custom : Type} {types : BaseTypes}
    {fittings : List (ℕ × List (Row × Primitive))} {unary : List ℕ}
    {registry : Registry (Body Custom)}
    (hequipped : registry.Equipped .directed types fittings unary)
    (hpast : ∃ events, registry.Past events) :
    registry.Furnished types
      (fittings.map fun fitting => (fitting.1, fitting.2.map Prod.fst)) unary where
  past := hpast
  directed := hequipped.metric_eq
  placed := hequipped.placed
  distinct := by
    rw [List.map_map]
    exact hequipped.distinct
  tables table htable := by
    obtain ⟨fitting, hfitting, rfl⟩ := List.mem_map.mp htable
    obtain ⟨function, hfunction, hentries, hrole⟩ :=
      (hequipped.fitted fitting hfitting).function
    exact ⟨function, hfunction, hrole,
      GenericFunction.has_of_entries_eq hentries⟩
  unary := hequipped.unary

namespace Library

open Program (Leaves Yields)

variable {Custom : Type} {runTask : Runner (Body Custom)}
  {world : World (Body Custom)} {metric : Metric} {types : BaseTypes}
  {fittings : List (ℕ × List (Row × Primitive))} {unary : List ℕ}

section Install

variable (hequipped : world.registry.Equipped metric types fittings unary)
include hequipped

theorem installArithmetic_leaves (name : String)
    (operation : Numbers.Arithmetic) :
    (installArithmetic types name operation).Leaves runTask world fun id after =>
      after.registry.Equipped metric types
        ((id, arithmeticFittings types operation) :: fittings) unary :=
  leaves_function name (fun _ => arithmeticFittings types operation)
    arithmeticTable (fun _ => rfl) hequipped (by decide) (by decide)
    fun _ _ hafter => Leaves.pure hafter

theorem installComparison_leaves (name : String)
    (accepted : Numbers.Comparison) :
    (installComparison types name accepted).Leaves runTask world fun id after =>
      after.registry.Equipped metric types
        ((id, comparisonFittings accepted) :: fittings) unary :=
  leaves_function name (fun _ => comparisonFittings accepted)
    comparisonTable (fun _ => rfl) hequipped (by decide) (by decide)
    fun _ _ hafter => Leaves.pure hafter

theorem installNumbers_leaves :
    (installNumbers types).Leaves runTask world fun functions after =>
      after.registry.Equipped metric types (numberFittings types functions ++
        ((functions.add, arithmeticFittings types .add) :: fittings)) unary := by
  rw [installNumbers]
  refine (installArithmetic_leaves hequipped "add" .add).bind
    fun add _ hadd => ?_
  refine (installArithmetic_leaves hadd "sub" .sub).bind fun sub _ hsub => ?_
  refine (installArithmetic_leaves hsub "times" .times).bind
    fun times _ htimes => ?_
  refine (installArithmetic_leaves htimes "divide" .divide).bind
    fun divide _ hdivide => ?_
  refine (installArithmetic_leaves hdivide "mod" .modulo).bind
    fun modulo _ hmodulo => ?_
  refine (installArithmetic_leaves hmodulo "pow" .pow).bind fun pow _ hpow => ?_
  refine leaves_function "neg" (fun _ => negFittings types) negTable (fun _ => rfl)
    hpow (by decide) (by decide) fun neg _ hneg => ?_
  refine leaves_function "is" (fun _ => isFittings) isTable (fun _ => rfl)
    hneg (by decide) (by decide) fun is _ his => ?_
  refine (installComparison_leaves his "isLessThan" .less).bind
    fun isLessThan _ hless => ?_
  refine (installComparison_leaves hless "isLessThanEq" .lessOrEqual).bind
    fun isLessThanEq _ hlessEq => ?_
  refine (installComparison_leaves hlessEq "isGreaterThan" .greater).bind
    fun isGreaterThan _ hgreater => ?_
  refine (installComparison_leaves hgreater "isGreaterThanEq"
    .greaterOrEqual).bind fun isGreaterThanEq _ hgreaterEq => ?_
  exact leaves_function "int" (fun _ => intFittings types) intTable (fun _ => rfl)
    hgreaterEq (by decide) (by decide) fun int _ hint => Leaves.pure hint

theorem installCollections_leaves :
    (installCollections types).Leaves runTask world fun functions after =>
      after.registry.Equipped metric types
        (collectionFittings types functions ++ fittings)
        (functions.isEmpty :: unary) := by
  rw [installCollections]
  refine (Leaves.of_perform (.createFunction "isEmpty") fun id after hperform => ?_ :
    (Program.createFunction "isEmpty").Leaves runTask world fun id after =>
      after.registry.Equipped metric types fittings (id :: unary)).bind
    fun isEmpty _ hcreated => ?_
  · obtain ⟨hid, rfl⟩ := Prod.mk.inj hperform
    rw [← Except.ok.inj hid]
    exact (hequipped.perform (.createFunction "isEmpty") trivial
      fun _ _ => Set.notMem_empty _).cons_unary hequipped.nextFunction_not_mem
        ⟨_, Catalog.function?_addFunction_eq_some_iff.mpr (Or.inr ⟨rfl, rfl⟩),
          fun _ hentry => absurd hentry List.not_mem_nil⟩
  refine leaves_unary_rows isEmptyFittings
    (by simp [isEmptyFittings, isEmptyTable]) hcreated fun _ hisEmpty => ?_
  refine leaves_function "size" (fun _ => sizeFittings types) sizeTable
    (fun _ => rfl) hisEmpty (by decide) (by decide) fun size _ hsize => ?_
  refine leaves_function "get" (fun _ => getFittings types) getTable
    (fun _ => rfl) hsize (by decide) (by decide) fun get _ hget => ?_
  exact leaves_function "set" (fun _ => setFittings types) setTable
    (fun _ => rfl) hget (by decide) (by decide) fun set _ hset => Leaves.pure hset

theorem installReflection_leaves :
    (installReflection types).Leaves runTask world fun functions after =>
      after.registry.Equipped metric types
        (reflectionFittings functions ++ fittings) unary := by
  rw [installReflection]
  refine leaves_function "type" (fun _ => [(⟨[.any], .predicate⟩, .typeOf)]) _
    (fun _ => rfl) hequipped (by decide) (by decide) fun typeOf _ htype => ?_
  refine leaves_function "derive"
    (fun _ => [(⟨[.predicate, .predicate], .null⟩, .derive)]) _
    (fun _ => rfl) htype (by decide) (by decide) fun derive _ hderive => ?_
  refine leaves_function "isA"
    (fun _ => [(⟨[.predicate, .predicate], .boolean⟩, .isA)]) _
    (fun _ => rfl) hderive (by decide) (by decide) fun isA _ hisA => ?_
  refine leaves_function "AS"
    (fun _ => [(⟨[.predicate, .any], .any⟩, .retag)]) _
    (fun _ => rfl) hisA (by decide) (by decide) fun retag _ hretag => ?_
  refine leaves_function "as"
    (fun _ => [(⟨[.predicate, .any], .any⟩, .cast)]) _
    (fun _ => rfl) hretag (by decide) (by decide) fun cast _ hcast => ?_
  exact leaves_function "apply"
    (fun _ => [(⟨[.function, .list], .any⟩, .apply)]) _
    (fun _ => rfl) hcast (by decide) (by decide)
    fun apply _ happly => Leaves.pure happly

theorem installConsole_leaves (str : ℕ) :
    (installConsole str).Leaves runTask world fun println after =>
      after.registry.Equipped metric types
        ((println, printFittings str) :: fittings) unary :=
  leaves_function "println" (fun _ => printFittings str) printTable (fun _ => rfl)
    hequipped (by decide) (by decide) fun _ _ hafter => Leaves.pure hafter

end Install

theorem installText_leaves {add : ℕ}
    (hequipped : world.registry.Equipped metric types
      ((add, arithmeticFittings types .add) :: fittings) unary) :
    (installText types add).Leaves runTask world fun str after =>
      after.registry.Equipped metric types
        ((add, arithmeticFittings types .add ++ joinFittings types str) ::
          (str, strFittings types str) :: fittings) unary := by
  rw [installText]
  refine leaves_function "str" (fun str => strFittings types str) strTable
    (fun _ => rfl) hequipped (by decide) (by decide) fun str _ hstr => ?_
  have hnodup : ((arithmeticTable ++ joinTable).map Row.arguments).Nodup := by
    decide
  have hplain : Row.Plain (arithmeticTable ++ joinTable) := by decide
  exact leaves_rows (joinFittings types str)
    (hstr.perm (List.Perm.swap _ _ _)) hnodup hplain
    fun _ hadd => Leaves.pure hadd

/-- Wherever an installation succeeds, all base functions have their rows and the
code of these. -/
theorem install_leaves (hreachable : world.registry.Reachable) :
    install.Leaves runTask world fun library after =>
      after.registry.Equipped world.registry.metric library.types library.fittings
        [library.collections.isEmpty] := by
  rw [install]
  refine (installTypes_leaves hreachable).bind fun types _ htypes => ?_
  refine (installNumbers_leaves htypes).bind fun numbers _ hnumbers => ?_
  have hadd := hnumbers.perm (List.perm_append_singleton _ _)
  refine (installText_leaves hadd).bind fun text _ htext => ?_
  refine (installCollections_leaves htext).bind
    fun collections _ hcollections => ?_
  refine (installReflection_leaves hcollections).bind
    fun reflection _ hreflection => ?_
  exact (installConsole_leaves hreflection text).bind
    fun println _ hprintln => Leaves.pure hprintln

/-- An installation succeeds and leaves all base functions with their tables. -/
theorem install_yields {events : List Event} (hpast : world.registry.Past events)
    (hmetric : world.registry.metric = .directed) :
    install.Yields runTask world fun library after =>
      after.registry.Furnished library.types library.tables
        [library.collections.isEmpty] := by
  obtain ⟨library, after, hrun, tests, hinstalling⟩ :=
    install_yields_installing runTask hpast
  have hequipped := install_leaves hpast.reachable library after hrun
  rw [hmetric] at hequipped
  have hfurnished := hequipped.furnished (hinstalling.installs hpast).past
  rw [← tables_eq] at hfurnished
  exact ⟨library, after, hrun, hfurnished⟩

end Library

end PredicateDispatch
