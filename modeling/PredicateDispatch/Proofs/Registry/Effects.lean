import PredicateDispatch.Proofs.Registry.Changes
import PredicateDispatch.Proofs.Resolution.Nearest

/-!
# What operations do to a registry

Asking a membership test which entry covers a child never fails, so that a
derivation succeeds exactly when its link does, and so do the operations that
derive.  From this follows what any operation makes of a catalog.  A registry
with a past is then well kept, and every registry is orderly.
-/

namespace PredicateDispatch

variable {Code : Type}

namespace Registry

theorem toCatalog_addEntry (registry : Registry Code) (id : ℕ)
    (entry : MethodEntry Code) :
    (registry.addEntry id entry).toCatalog =
      registry.toCatalog.modifyFunction id (·.addEntry entry) := rfl

/-- A table with an entry for the child or for its parent selects one of the two
for the child. -/
theorem exists_resolve_eq_unique_of_declares {hierarchy : Hierarchy}
    (hcoherent : hierarchy.Coherent) (metric : Metric)
    {function : GenericFunction Code} (hnodup : function.argumentIds.Nodup)
    {parent child : Predicate}
    (hlink : hierarchy.ParentLink child.id parent.id)
    (hdeclares : function.Declares child.id ∨ function.Declares parent.id) :
    ∃ (best : Candidate) (declared : Predicate),
      function.signatures[best.index]? = some [declared] ∧
      hierarchy.isA parent declared = true ∧
      hierarchy.resolve metric function.signatures [child] = .unique best := by
  rw [← GenericFunction.map_ids_signatures] at hnodup
  by_cases hchild : function.Declares child.id
  · obtain ⟨declared, hmem, hid⟩ := GenericFunction.declares_iff.mp hchild
    obtain ⟨index, hindex⟩ := List.getElem?_of_mem hmem
    refine ⟨⟨index, 0⟩, declared, hindex, ?_,
      hcoherent.resolve_eq_unique_of_self hnodup metric hindex hid⟩
    rw [hierarchy.isA_congr parent hid]
    exact hcoherent.isA_of_parentLink hlink
  · obtain ⟨declared, hmem, hid⟩ :=
      GenericFunction.declares_iff.mp (hdeclares.resolve_left hchild)
    obtain ⟨index, hindex⟩ := List.getElem?_of_mem hmem
    refine ⟨⟨index, 1⟩, declared, hindex, ?_,
      hcoherent.resolve_eq_unique_of_parent hnodup metric hindex (hid ▸ hlink)
        fun single hsingle hself =>
          hchild (GenericFunction.declares_iff.mpr ⟨single, hsingle, hself⟩)⟩
    rw [hierarchy.isA_congr parent hid]
    exact hierarchy.isA_self parent

/-- Asking a test for the entry that covers a child never fails, and the child is
covered exactly if the test has an entry for it or for its parent. -/
theorem CacheSound.exists_covering {registry : Registry Code}
    (hsound : registry.CacheSound) (hcoherent : registry.hierarchy.Coherent)
    {test : ℕ} {function : GenericFunction Code}
    (hfunction : registry.function? test = some function)
    (hnodup : function.argumentIds.Nodup) {parent child : Predicate}
    (hlink : registry.hierarchy.ParentLink child.id parent.id) :
    ∃ covering, (registry.resolve test [child] true).1 = .ok covering ∧
      (registry.isCovered parent covering = true ↔
        function.Declares child.id ∨ function.Declares parent.id) := by
  have hanswer := hsound.resolve_answer hfunction [child] true
  have hselected := exists_resolve_eq_unique_of_declares hcoherent
    registry.metric hnodup hlink
  have hundecided (hno : ∀ best, registry.hierarchy.resolve registry.metric
      function.signatures [child] ≠ .unique best) :
      ¬ (function.Declares child.id ∨ function.Declares parent.id) := by
    intro hdeclares
    obtain ⟨best, -, -, -, hunique⟩ := hselected hdeclares
    exact hno best hunique
  cases hresolve : registry.hierarchy.resolve registry.metric
      function.signatures [child] with
  | unique best =>
      obtain ⟨entry, hentry, haccepts, hentry_at⟩ :=
        exists_entry_of_resolve_eq_unique hfunction hresolve
      obtain ⟨declared, harguments, hlower⟩ :=
        Hierarchy.accepts_singleton_iff.mp haccepts
      have hsignature : function.signatures[best.index]? = some [declared] := by
        rw [GenericFunction.signatures, List.getElem?_map, hentry]
        exact congrArg some harguments
      have hcovered : registry.isCovered parent (some entry) =
          registry.isA parent declared := by
        simp only [isCovered, Option.bind_some, harguments, List.head?_cons]
      refine ⟨some entry, ?_, ?_⟩
      · rw [hanswer, hresolve]
        exact congrArg Except.ok hentry_at
      · rw [hcovered]
        constructor
        · intro hupper
          have hmem := List.mem_of_getElem? hsignature
          exact (hcoherent.id_eq_or_id_eq_of_between hlink hlower hupper).imp
            (fun hid => GenericFunction.declares_iff.mpr ⟨declared, hmem, hid⟩)
            (fun hid => GenericFunction.declares_iff.mpr ⟨declared, hmem, hid⟩)
        · intro hdeclares
          obtain ⟨best', declared', hindex, hupper, hunique⟩ :=
            hselected hdeclares
          rw [hresolve] at hunique
          rw [← Resolution.unique.inj hunique, hsignature] at hindex
          rw [List.head_eq_of_cons_eq (Option.some.inj hindex)]
          exact hupper
  | noMatch =>
      refine ⟨none, ?_, iff_of_false Bool.false_ne_true
        (hundecided (by simp [hresolve]))⟩
      rw [hanswer, hresolve]
      exact congrArg Except.ok (registry.entryAt?_none test)
  | ambiguous tied =>
      refine ⟨none, ?_, iff_of_false Bool.false_ne_true
        (hundecided (by simp [hresolve]))⟩
      rw [hanswer, hresolve]
      exact congrArg Except.ok (registry.entryAt?_none test)

/-- A derivation succeeds exactly when the link does. -/
theorem derive_of_link {registry : Registry Code}
    (horderly : registry.toCatalog.Orderly) {parent child : Predicate}
    {linked : Hierarchy}
    (hlink : registry.hierarchy.link parent child = .ok linked) :
    ∃ after, registry.derive parent child = (.ok (), after) ∧
      registry.toCatalog.Derived parent child after.toCatalog := by
  rw [derive_eq, hlink]
  dsimp only
  rw [cover_eq]
  cases htest : (registry.relink linked).membershipTest? parent with
  | none =>
      refine ⟨registry.relink linked, rfl, .covered hlink ?_⟩
      intro test function htest' _
      cases htest.symm.trans htest'
  | some test =>
      obtain ⟨function, hfunction⟩ := horderly.exists_function? htest
      have hsound : (registry.relink linked).CacheSound :=
        cacheSound_of_cache_eq_nil rfl
      obtain ⟨covering, hcovering, hcovered⟩ :=
        hsound.exists_covering (horderly.coherent.link hlink) hfunction
          (horderly.nodup test function hfunction)
          (Hierarchy.parentLink_of_link hlink)
      have hcatalog := toCatalog_resolve (registry.relink linked) test [child] true
      dsimp only
      rw [andThen, hcovering]
      dsimp only
      rw [isCovered_congr hcatalog]
      cases hcover : (registry.relink linked).isCovered parent covering with
      | true =>
          refine ⟨_, rfl, ?_⟩
          rw [hcatalog]
          refine .covered hlink fun test' function' htest' hfunction' => ?_
          obtain rfl : test = test' := Option.some.inj (htest.symm.trans htest')
          obtain rfl : function = function' :=
            Option.some.inj (hfunction.symm.trans hfunction')
          exact hcovered.mp hcover
      | false =>
          refine ⟨_, rfl, ?_⟩
          rw [toCatalog_addEntry, hcatalog]
          refine .answered hlink htest hfunction ?_
          rw [← hcovered, hcover]
          exact Bool.false_ne_true

theorem derive_of_error {registry : Registry Code} {parent child : Predicate}
    {cause : LinkError}
    (hlink : registry.hierarchy.link parent child = .error cause) :
    registry.derive parent child = (.error (.link cause), registry) := by
  rw [derive_eq, hlink]

section Fresh

variable {registry : Registry Code} (horderly : registry.toCatalog.Orderly)
  {parent : Predicate} {name : String}

include horderly in
/-- Deriving a new predicate. -/
theorem derive_fresh_of_link {linked : Hierarchy}
    (hlink : (registry.hierarchy.create name).link parent
      (registry.hierarchy.fresh name) = .ok linked) :
    ∃ after, (registry.createPredicate name).derive parent
        (registry.hierarchy.fresh name) = (.ok (), after) ∧
      (registry.toCatalog.create name).Derived parent
        (registry.hierarchy.fresh name) after.toCatalog := by
  have hcreated : (registry.createPredicate name).toCatalog.Orderly :=
    horderly.create name
  exact derive_of_link hcreated hlink

include horderly in
theorem definePredicate_of_link {linked : Hierarchy}
    (hlink : (registry.hierarchy.create name).link parent
      (registry.hierarchy.fresh name) = .ok linked) :
    ∃ derived after,
      (registry.toCatalog.create name).Derived parent
        (registry.hierarchy.fresh name) derived ∧
      registry.definePredicate name parent =
        (.ok (registry.hierarchy.fresh name), after) ∧
      after.toCatalog = derived.attachTest (registry.hierarchy.fresh name) := by
  obtain ⟨derived, hderive, hderived⟩ := derive_fresh_of_link horderly hlink
  refine ⟨derived.toCatalog, { derived with
    toCatalog := derived.attachTest (registry.hierarchy.fresh name) },
    hderived, ?_, rfl⟩
  rw [definePredicate_eq, andThen, hderive]

theorem definePredicate_of_error {cause : LinkError}
    (hlink : (registry.hierarchy.create name).link parent
      (registry.hierarchy.fresh name) = .error cause) :
    registry.definePredicate name parent =
      (.error (.link cause), registry.createPredicate name) := by
  have hderive : (registry.createPredicate name).derive parent
      (registry.hierarchy.fresh name) =
        (.error (.link cause), registry.createPredicate name) :=
    derive_of_error hlink
  rw [definePredicate_eq, andThen, hderive]

end Fresh

theorem definePredicate_of_knows {registry : Registry Code}
    {events : List Event} (hkept : registry.toCatalog.WellKept events)
    {parent : Predicate} (hparent : registry.hierarchy.Knows parent)
    (name : String) :
    ∃ derived after,
      (registry.toCatalog.create name).Derived parent
        (registry.hierarchy.fresh name) derived ∧
      registry.definePredicate name parent =
        (.ok (registry.hierarchy.fresh name), after) ∧
      after.toCatalog = derived.attachTest (registry.hierarchy.fresh name) := by
  obtain ⟨linked, hlink⟩ :=
    hkept.confined.exists_link_fresh hkept.coherent (hparent.ne_fresh name)
  exact definePredicate_of_link hkept.orderly hlink

section Review

variable {registry : Registry Code} {id : ℕ} {function : GenericFunction Code}

theorem reviewRole_of_link (horderly : registry.toCatalog.Orderly)
    (hfunction : registry.function? id = some function)
    (hlink : function.AwaitsPromotion → ∃ linked,
      (registry.hierarchy.create function.name).link Predicate.any
        (registry.hierarchy.fresh function.name) = .ok linked) :
    ∃ after, registry.reviewRole id = (.ok (), after) ∧
      registry.toCatalog.Reviewed id after.toCatalog := by
  rw [reviewRole, hfunction]
  dsimp only
  split
  case h_1 htruth hrole =>
    obtain ⟨linked, hlink⟩ := hlink ⟨htruth, hrole⟩
    obtain ⟨derived, hderive, hderived⟩ := derive_fresh_of_link horderly hlink
    refine ⟨derived.adopt id (registry.hierarchy.fresh function.name), ?_,
      .promoted hfunction htruth hrole hderived⟩
    rw [promote_eq, andThen, hderive]
  case h_2 type htruth hrole =>
    exact ⟨_, rfl, .demoted hfunction htruth hrole⟩
  case h_3 hordinary hpromoted =>
    exact ⟨registry, rfl, .kept hfunction (fun htruth hrole =>
      hordinary htruth hrole) fun htruth type hrole =>
        hpromoted type htruth hrole⟩

theorem reviewRole_of_error
    (hfunction : registry.function? id = some function)
    (hawaits : function.AwaitsPromotion) {cause : LinkError}
    (hlink : (registry.hierarchy.create function.name).link Predicate.any
      (registry.hierarchy.fresh function.name) = .error cause) :
    registry.reviewRole id =
      (.error (.link cause), registry.createPredicate function.name) := by
  obtain ⟨htruth, hrole⟩ := hawaits
  have hderive : (registry.createPredicate function.name).derive Predicate.any
      (registry.hierarchy.fresh function.name) =
        (.error (.link cause), registry.createPredicate function.name) :=
    derive_of_error hlink
  rw [reviewRole, hfunction]
  dsimp only
  rw [htruth, hrole]
  dsimp only
  rw [promote_eq, andThen, hderive]

theorem function?_addEntry (hfunction : registry.function? id = some function)
    (entry : MethodEntry Code) :
    (registry.addEntry id entry).function? id =
      some (function.addEntry entry) := by
  rw [toCatalog_addEntry, function?_modifyFunction_self, hfunction]
  rfl

/-- A registration succeeds if the function need not be promoted, or if it can
be. -/
theorem register_of_link (horderly : registry.toCatalog.Orderly)
    (hfunction : registry.function? id = some function)
    (entry : MethodEntry Code)
    (hlink : (function.addEntry entry).AwaitsPromotion → ∃ linked,
      (registry.hierarchy.create function.name).link Predicate.any
        (registry.hierarchy.fresh function.name) = .ok linked) :
    ∃ after, registry.register id entry = (.ok (), after) ∧
      (registry.toCatalog.modifyFunction id (·.addEntry entry)).Reviewed id
        after.toCatalog := by
  have hadded : (registry.addEntry id entry).toCatalog.Orderly :=
    horderly.addEntry id entry
  rw [register, hfunction]
  exact reviewRole_of_link hadded (function?_addEntry hfunction entry) hlink

theorem register_of_error (hfunction : registry.function? id = some function)
    {entry : MethodEntry Code}
    (hawaits : (function.addEntry entry).AwaitsPromotion) {cause : LinkError}
    (hlink : (registry.hierarchy.create function.name).link Predicate.any
      (registry.hierarchy.fresh function.name) = .error cause) :
    registry.register id entry = (.error (.link cause),
      (registry.addEntry id entry).createPredicate function.name) := by
  rw [register, hfunction]
  exact reviewRole_of_error (function?_addEntry hfunction entry) hawaits hlink

end Review

theorem register_of_function? {registry : Registry Code} {events : List Event}
    (hkept : registry.toCatalog.WellKept events)
    (hany : registry.hierarchy.Knows Predicate.any) {id : ℕ}
    {function : GenericFunction Code}
    (hfunction : registry.function? id = some function)
    (entry : MethodEntry Code) :
    ∃ after, registry.register id entry = (.ok (), after) ∧
      (registry.toCatalog.modifyFunction id (·.addEntry entry)).Reviewed id
        after.toCatalog :=
  register_of_link hkept.orderly hfunction entry fun _ =>
    hkept.confined.exists_link_fresh hkept.coherent
      (hany.ne_fresh function.name)

end Registry

/-! ## Every registry with a past is well kept -/

namespace Catalog

/-- Tests for predicates that are numbered like the functions to come. -/
theorem WellKept.foldl_attachTest {events : List Event} {catalog : Catalog Code}
    (hkept : catalog.WellKept events) {types : List Predicate}
    (hknown : ∀ type ∈ types,
      catalog.hierarchy.predicates[type.id]? = some type)
    (hnumbered : types.map Predicate.id =
      List.range' catalog.nextFunction types.length)
    (hfree : ∀ type, catalog.nextFunction ≤ type →
      catalog.tests[type]? = none) :
    (types.foldl Catalog.attachTest catalog).WellKept
      ((types.map fun type => Event.defined type type.id).reverse ++ events) := by
  induction types generalizing catalog events with
  | nil => exact hkept
  | cons type rest ih =>
      rw [List.map_cons, List.length_cons, List.range'_succ] at hnumbered
      obtain ⟨hid, hrest⟩ := List.cons.inj hnumbered
      obtain ⟨hhead, htail⟩ := List.forall_mem_cons.mp hknown
      have hattached := hkept.attachTest hhead (hfree type.id hid.ge)
      rw [← hid] at hattached
      have hnext : (catalog.attachTest type).nextFunction =
          catalog.nextFunction + 1 := Array.size_push _
      rw [List.foldl_cons, List.map_cons, List.reverse_cons, List.append_assoc]
      refine ih hattached htail (by rw [hnext]; exact hrest) fun key hkey => ?_
      rw [hnext] at hkey
      change (catalog.tests.insert type.id catalog.nextFunction)[key]? = none
      have hne : compare type.id key ≠ .eq := fun heq =>
        absurd (Std.LawfulEqCmp.eq_of_compare heq) (by omega)
      rw [Std.TreeMap.getElem?_insert, if_neg hne]
      exact hfree key (Nat.le_of_succ_le hkey)

theorem wellKept_kernel (metric : Metric) :
    (kernel metric : Catalog Code).WellKept Registry.kernelPast := by
  have hempty : WellKept [] ({ metric := metric, hierarchy := Hierarchy.kernel } :
      Catalog Code) := {
    coherent := Hierarchy.reachable_kernel.coherent
    confined := Hierarchy.confined_kernel
    tests_iff := by
      intro type id
      simp [tested?, role?, function?]
    functions := by
      intro id function hfunction
      simp [function?] at hfunction
    stands := fun event hevent => absurd hevent List.not_mem_nil }
  have hknown : ∀ type ∈ Predicate.kernel,
      Hierarchy.kernel.predicates[type.id]? = some type := by decide
  have hkernel := hempty.foldl_attachTest hknown rfl
    fun _ _ => Std.TreeMap.getElem?_emptyc
  rwa [List.append_nil] at hkernel

end Catalog

namespace Registry

theorem Past.defined_any {registry : Registry Code} {events : List Event}
    (hpast : registry.Past events) :
    Event.defined Predicate.any 0 ∈ events :=
  hpast.kernelPast_subset (by decide)

/-- What an operation makes of a registry, whatever handles it mentions. -/
theorem attempted {registry : Registry Code}
    (horderly : registry.toCatalog.Orderly) (operation : Operation Code) :
    registry.toCatalog.Attempted operation (operation.perform registry).2.toCatalog
      (operation.events registry) := by
  cases operation with
  | inspect => exact .performed .unchanged
  | createPredicate name => exact .performed (.createdPredicate name)
  | definePredicate name parent =>
      rw [Operation.perform, Operation.events]
      cases hlink : (registry.hierarchy.create name).link parent
          (registry.hierarchy.fresh name) with
      | error cause =>
          rw [definePredicate_of_error hlink]
          exact .definitionRefused hlink
      | ok linked =>
          obtain ⟨derived, after, hderived, hdefine, hafter⟩ :=
            definePredicate_of_link horderly hlink
          rw [hdefine, hafter]
          exact .performed (.defined hderived)
  | derive parent child =>
      rw [Operation.perform]
      cases hlink : registry.hierarchy.link parent child with
      | error cause =>
          rw [derive_of_error hlink]
          exact .performed .unchanged
      | ok linked =>
          obtain ⟨after, hderive, hderived⟩ := derive_of_link horderly hlink
          rw [hderive]
          exact .performed (.derived hderived)
  | createFunction name => exact .performed (.createdFunction name)
  | register id entry =>
      rw [Operation.perform, Operation.events]
      cases hfunction : registry.function? id with
      | none =>
          rw [register, hfunction]
          exact .performed .unchanged
      | some function =>
          by_cases hrefused : (function.addEntry entry).AwaitsPromotion ∧
              ∃ cause, (registry.hierarchy.create function.name).link
                Predicate.any (registry.hierarchy.fresh function.name) =
                  .error cause
          · obtain ⟨hawaits, cause, hlink⟩ := hrefused
            rw [register_of_error hfunction hawaits hlink]
            exact .promotionRefused hfunction hawaits hlink
          · obtain ⟨after, hregister, hreviewed⟩ :=
              register_of_link horderly hfunction entry
                fun hawaits => by
                  cases hlink : (registry.hierarchy.create function.name).link
                      Predicate.any (registry.hierarchy.fresh function.name) with
                  | error cause => exact absurd ⟨hawaits, cause, hlink⟩ hrefused
                  | ok linked => exact ⟨linked, rfl⟩
            rw [hregister]
            exact .performed (.registered hfunction hreviewed)
  | setDefault id fallback =>
      rw [Operation.perform, Operation.events]
      cases hfunction : registry.function? id with
      | none =>
          rw [setDefault, hfunction]
          exact .performed .unchanged
      | some function =>
          rw [setDefault, hfunction]
          exact .performed (.defaulted hfunction)
  | resolve id types tolerateTie =>
      rw [Operation.perform, toCatalog_resolve]
      exact .performed .unchanged
  | select id types metric useCache tolerateTie =>
      rw [Operation.perform, toCatalog_select]
      exact .performed .unchanged
  | probe id types =>
      rw [Operation.perform, toCatalog_probe]
      exact .performed .unchanged

theorem Reachable.orderly {registry : Registry Code}
    (hreachable : registry.Reachable) : registry.toCatalog.Orderly := by
  induction hreachable with
  | fresh configuration =>
      exact (Catalog.wellKept_kernel configuration.distance).orderly
  | perform operation _ _ ih => exact (attempted ih operation).orderly ih

/-- What an operation on predicates of the registry makes of it. -/
theorem performed {registry : Registry Code} {events : List Event}
    (hkept : registry.toCatalog.WellKept events)
    (hany : registry.hierarchy.Knows Predicate.any) {operation : Operation Code}
    (hlinks : operation.LinksKnown registry.hierarchy) :
    registry.toCatalog.Performed operation (operation.perform registry).2.toCatalog
      (operation.events registry) :=
  (attempted hkept.orderly operation).performed_of_wellKept hkept hany hlinks

theorem Past.wellKept {registry : Registry Code} {events : List Event}
    (hpast : registry.Past events) : registry.toCatalog.WellKept events := by
  induction hpast with
  | fresh configuration => exact Catalog.wellKept_kernel configuration.distance
  | perform operation hpast _ hlinks ih =>
      have hany := ih.knows_of_defined hpast.defined_any
      exact (performed ih hany hlinks).wellKept ih hany hlinks

theorem Past.knows_any {registry : Registry Code} {events : List Event}
    (hpast : registry.Past events) : registry.hierarchy.Knows Predicate.any :=
  hpast.wellKept.knows_of_defined hpast.defined_any

theorem Past.performed {registry : Registry Code} {events : List Event}
    (hpast : registry.Past events) {operation : Operation Code}
    (hlinks : operation.LinksKnown registry.hierarchy) :
    registry.toCatalog.Performed operation (operation.perform registry).2.toCatalog
      (operation.events registry) :=
  Registry.performed hpast.wellKept hpast.knows_any hlinks

end Registry

end PredicateDispatch
