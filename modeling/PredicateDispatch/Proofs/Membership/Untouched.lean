import PredicateDispatch.Proofs.Membership.Answers

/-!
# Tests that no client touched

The test that was made with a predicate decides the subtype relation, as long as
no client has registered an entry or a default on it and `isAny` is the top of
its tree.  It says yes for the predicate and everything below, however late and
in whatever order the links were made, no for all else below `isAny`, and has no
answer for a type that is below neither.
-/

namespace PredicateDispatch

variable {Code : Type}

namespace Registry

section Untouched

variable {registry : Registry Code} {events : List Event}
  (hpast : registry.Past events) {test : ℕ} {function : GenericFunction Code}
  (hfunction : registry.function? test = some function) {tested : Predicate}
  (hrole : function.role = .defined tested)
  (huntouched : ∀ arguments, Event.registered test arguments ∉ events)
include hpast hfunction hrole huntouched

/-- Every entry says yes for a type below the predicate, or it is the one that
says no for `isAny`. -/
theorem Past.entry_of_untouched {entry : MethodEntry Code}
    (hentry : entry ∈ function.entries) :
    (∃ single, entry = Catalog.fixedAnswer single true ∧
        registry.isA tested single = true) ∨
      entry = Catalog.fixedAnswer Predicate.any false := by
  have hkept := hpast.wellKept
  cases (hkept.functions test function hfunction).origin entry hentry with
  | registered hmem => exact absurd hmem (huntouched _)
  | denial _ _ => exact Or.inr rfl
  | affirmation hdefined =>
      obtain rfl := Role.defined.inj (hrole.symm.trans hdefined)
      exact Or.inl ⟨tested, rfl, Hierarchy.isA_self ..⟩
  | @child lower parent hlink hchild =>
      obtain ⟨rfl, -⟩ := hchild tested hrole
      exact Or.inl ⟨lower, rfl, hkept.coherent.isA_of_parentLink hlink⟩

variable {type : Predicate} (hapart : registry.isA tested type = false)
include hapart

theorem Past.resolve_of_apart (hdirected : registry.metric = .directed)
    (hany : registry.isA Predicate.any type = true) (tolerateTie : Bool) :
    (registry.resolve test [type] tolerateTie).1 =
      .ok (some (Catalog.fixedAnswer Predicate.any false)) := by
  have hkept := hpast.wellKept
  have hwell := hkept.functions test function hfunction
  obtain ⟨root, hroot, hroot_above, -⟩ :=
    GenericFunction.exists_of_declares (hwell.defined tested hrole).2
      registry.hierarchy
  obtain ⟨entry, nearest, hentry, harguments, hnearest, -, hresolve⟩ :=
    hpast.reachable.cacheSound.exists_resolve_eq_entry hfunction hkept.coherent
      hwell.nodup hdirected ⟨root, hroot, (hroot_above type).trans hany⟩
      tolerateTie
  rcases hpast.entry_of_untouched hfunction hrole huntouched hentry with
    ⟨single, rfl, hbelow⟩ | rfl
  · obtain rfl : single = nearest := List.head_eq_of_cons_eq harguments
    have habove := hkept.coherent.isA_trans hbelow hnearest
    exact Bool.noConfusion (hapart.symm.trans habove)
  · exact hresolve

theorem Past.resolve_of_outside
    (hany : registry.isA Predicate.any type = false) (tolerateTie : Bool) :
    (registry.resolve test [type] tolerateTie).1 = .ok none := by
  refine hpast.reachable.cacheSound.resolve_eq_none hfunction
    (fun single hsingle => ?_) tolerateTie
  obtain ⟨entry, hentry, harguments⟩ := List.mem_map.mp hsingle
  rcases hpast.entry_of_untouched hfunction hrole huntouched hentry with
    ⟨lower, rfl, hbelow⟩ | rfl
  · obtain rfl : lower = single := List.head_eq_of_cons_eq harguments
    rw [Bool.eq_false_iff]
    intro hlower
    have habove := hpast.wellKept.coherent.isA_trans hbelow hlower
    exact Bool.noConfusion (hapart.symm.trans habove)
  · obtain rfl : Predicate.any = single := List.head_eq_of_cons_eq harguments
    exact hany

end Untouched

end Registry

/-! ## Main statement -/

/-- The test of a kernel predicate, or of any that was made together with its
test, decides the subtype relation for values of every type. -/
theorem untouched_test_decides_isA {world : World Code} {events : List Event}
    (hpast : world.registry.Past events)
    (hdirected : world.registry.metric = .directed)
    (hroot : world.registry.hierarchy.parent? Predicate.any = none)
    {type : Predicate} {test : ℕ}
    (hdefined : Event.defined type test ∈ events)
    (huntouched : ∀ arguments, Event.registered test arguments ∉ events)
    (hdefault : Event.defaulted test ∉ events) (value : Value)
    (meaning : Code → List Value → Program Code Value) (depth : ℕ) :
    let after := (world.perform (.resolve test [value.type] false)).2
    ∃ function, world.registry.function? test = some function ∧
      world.registry.membershipTest? type = some test ∧
      (Program.call test [value]).exec meaning (depth + 1) world =
        some (if world.registry.isA type value.type then .ok (.boolean true)
          else if world.registry.isA Predicate.any value.type then
            .ok (.boolean false)
          else .error (function.noImplementation [value.type]), after) ∧
      (Program.isCoercible type value).exec meaning (depth + 1) world =
        some (.ok (world.registry.isA type value.type), after) := by
  have hkept := hpast.wellKept
  obtain ⟨function, hfunction, hrole, htest⟩ := hkept.exists_of_defined hdefined
  refine ⟨function, hfunction, htest, ?_⟩
  cases hbelow : world.registry.isA type value.type with
  | true =>
      obtain ⟨single, hresolve⟩ := hpast.resolve_of_defined hdirected hfunction
        (fun declared hmem => absurd hmem (huntouched _)) hbelow hrole false
      rw [hkept.coherent.anyIntervenes_eq_false hroot] at hresolve
      exact World.testAnswers_of_resolve htest hfunction hresolve meaning depth
  | false =>
      cases hany : world.registry.isA Predicate.any value.type with
      | true =>
          have hresolve := hpast.resolve_of_apart hfunction hrole huntouched
            hbelow hdirected hany false
          exact World.testAnswers_of_resolve htest hfunction hresolve meaning
            depth
      | false =>
          have hresolve := hpast.resolve_of_outside hfunction hrole huntouched
            hbelow hany false
          have hfallback : function.fallback = none := by
            by_contra hsome
            exact hdefault
              ((hkept.functions test function hfunction).fallback hsome)
          exact World.testIsMute_of_resolve htest hfunction hresolve hfallback
            meaning (depth + 1)

/-- A predicate below one that stands apart from `isAny`, with a chain of two
that was linked below it when it was complete. -/
def lateTiles : History Unit :=
  History.run (.start {}) [
    .createPredicate "isShape",
    .definePredicate "isSquare" ⟨5, "isShape"⟩,
    .createPredicate "isTile",
    .createPredicate "isFloorTile",
    .derive ⟨7, "isTile"⟩ ⟨8, "isFloorTile"⟩,
    .derive ⟨6, "isSquare"⟩ ⟨7, "isTile"⟩]

/-- Code that answers with null. -/
def answerNull (_ : Unit) (_ : List Value) : Program Unit Value :=
  .done (.ok Value.null)

theorem untouched_test_decides_isA_lateTiles :
    lateTiles.Holds ∧
    lateTiles.registry.metric = .directed ∧
    lateTiles.registry.hierarchy.parent? Predicate.any = none ∧
    Event.defined ⟨6, "isSquare"⟩ 5 ∈ lateTiles.events ∧
    (∀ arguments, Event.registered 5 arguments ∉ lateTiles.events) ∧
    Event.defaulted 5 ∉ lateTiles.events ∧
    (∃ after, (Program.call 5 [.tagged .null ⟨8, "isFloorTile"⟩]).exec
      answerNull 1 { registry := lateTiles.registry } =
        some (.ok (.boolean true), after)) ∧
    (∃ after, (Program.call 5 [Value.null]).exec answerNull 1
      { registry := lateTiles.registry } = some (.ok (.boolean false), after)) ∧
    (∃ after, (Program.isCoercible ⟨6, "isSquare"⟩
      (.tagged .null ⟨5, "isShape"⟩)).exec answerNull 1
        { registry := lateTiles.registry } = some (.ok false, after)) := by
  have hholds : lateTiles.Holds :=
    (History.holds_start {}).run (by decide +kernel)
  have hevents : lateTiles.events =
      .defined ⟨6, "isSquare"⟩ 5 :: Registry.kernelPast := by decide +kernel
  have hdefined : Event.defined ⟨6, "isSquare"⟩ 5 ∈ lateTiles.events := by
    rw [hevents]
    exact List.mem_cons_self
  have huntouched : ∀ arguments,
      Event.registered 5 arguments ∉ lateTiles.events := by
    simp [hevents, Registry.kernelPast]
  have hdefault : Event.defaulted 5 ∉ lateTiles.events := by decide +kernel
  have hroot : lateTiles.registry.hierarchy.parent? Predicate.any = none := by
    decide +kernel
  have hasked := fun value => @untouched_test_decides_isA Unit
    { registry := lateTiles.registry } _ hholds rfl hroot ⟨6, "isSquare"⟩ 5
    hdefined huntouched hdefault value answerNull 0
  refine ⟨hholds, rfl, hroot, hdefined, huntouched, hdefault, ?_, ?_, ?_⟩
  · obtain ⟨function, -, -, hcall, -⟩ :=
      hasked (.tagged .null ⟨8, "isFloorTile"⟩)
    rw [if_pos (by decide +kernel)] at hcall
    exact ⟨_, hcall⟩
  · obtain ⟨function, -, -, hcall, -⟩ := hasked Value.null
    rw [if_neg (by decide +kernel), if_pos (by decide +kernel)] at hcall
    exact ⟨_, hcall⟩
  · obtain ⟨function, -, -, -, hcoercible⟩ :=
      hasked (.tagged .null ⟨5, "isShape"⟩)
    have hapart : lateTiles.registry.isA ⟨6, "isSquare"⟩
        (Value.tagged .null ⟨5, "isShape"⟩).type = false := by decide +kernel
    dsimp only at hcoercible
    rw [hapart] at hcoercible
    exact ⟨_, hcoercible⟩

end PredicateDispatch
