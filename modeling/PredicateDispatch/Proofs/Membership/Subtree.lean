import PredicateDispatch.Proofs.Membership.Answers

/-!
# Tests accept the subtree of their predicate

Whether a link adds an entry to the test of the parent is decided when the link
is made, by what the test would select for the child at that moment.  What comes
later does not undo it: with `isAny` at the top of its tree, and as long as no
client registers an entry on the predicate or below it, the test of a predicate
answers yes for every type properly below, and the entry that says so is one
that the registry made.  Clients may have entries on all other types.
-/

namespace PredicateDispatch

variable {Code : Type}

/-- However a test was made, it selects an entry that says yes for a type
properly below its predicate. -/
theorem Registry.Past.resolve_of_descendant {registry : Registry Code}
    {events : List Event} (hpast : registry.Past events)
    (hdirected : registry.metric = .directed)
    (hroot : registry.hierarchy.parent? Predicate.any = none)
    {type lower : Predicate} {test : ℕ}
    (htest : registry.membershipTest? type = some test)
    (hown : ∀ declared, Event.registered test [declared] ∈ events →
      registry.isA type declared = false)
    (hbelow : registry.isA type lower = true) (hproper : lower.id ≠ type.id)
    (tolerateTie : Bool) :
    ∃ covering, (registry.resolve test [lower] tolerateTie).1 =
      .ok (some (Catalog.fixedAnswer covering true)) := by
  have hkept := hpast.wellKept
  obtain ⟨function, tested, hfunction, htested, hid⟩ :=
    hkept.exists_of_membershipTest? htest
  -- The function is tied to the predicate by a handle of its own.
  have hsame : ∀ other, registry.isA type other = registry.isA tested other :=
    registry.hierarchy.isA_congr_left hid.symm
  rw [hsame] at hbelow
  simp only [hsame] at hown
  rcases GenericFunction.role_of_predicate? htested with hrole | hrole
  · have hfree := hkept.coherent.anyIntervenes_eq_false hroot tested lower
    simpa [hfree] using hpast.resolve_of_defined hdirected hfunction hown hbelow
      hrole tolerateTie
  · exact hpast.resolve_of_promoted hdirected hfunction hown hbelow hrole
      (hid ▸ hproper) tolerateTie

/-! ## Main statement -/

/-- Asked about a value of a type properly below its predicate, a membership
test answers yes by a fixed entry.  No code is run for it, so that the answer
does not depend on what code means, and nothing changes but what is
remembered. -/
theorem test_accepts_subtree {world : World Code} {events : List Event}
    (hpast : world.registry.Past events)
    (hdirected : world.registry.metric = .directed)
    (hroot : world.registry.hierarchy.parent? Predicate.any = none)
    {type : Predicate} {test : ℕ}
    (htest : world.registry.membershipTest? type = some test)
    (hown : ∀ declared, Event.registered test [declared] ∈ events →
      world.registry.isA type declared = false)
    {value : Value} (hbelow : world.registry.isA type value.type = true)
    (hproper : value.type.id ≠ type.id) :
    (∃ covering, (world.registry.resolve test [value.type] false).1 =
      .ok (some (Catalog.fixedAnswer covering true))) ∧
    world.TestAnswers type test value true := by
  have hkept := hpast.wellKept
  obtain ⟨function, -, hfunction, -⟩ := hkept.exists_of_membershipTest? htest
  obtain ⟨covering, hresolve⟩ := hpast.resolve_of_descendant hdirected hroot htest
    hown hbelow hproper false
  exact ⟨⟨covering, hresolve⟩,
    World.testAnswers_of_resolve htest hfunction hresolve⟩

/-- A function with an entry for all values, which makes it a predicate, and a
chain of two types that is linked below it when it is complete. -/
def lateChain : History Unit :=
  History.run (.start {}) [
    .createFunction "isTruthy",
    .register 5 ⟨[Predicate.any], Predicate.boolean, .code ()⟩,
    .createPredicate "isYes",
    .createPredicate "isLoudYes",
    .derive ⟨6, "isYes"⟩ ⟨7, "isLoudYes"⟩,
    .derive ⟨5, "isTruthy"⟩ ⟨6, "isYes"⟩]

theorem test_accepts_subtree_lateChain :
    lateChain.Holds ∧
    lateChain.registry.metric = .directed ∧
    lateChain.registry.hierarchy.parent? Predicate.any = none ∧
    lateChain.registry.membershipTest? ⟨5, "isTruthy"⟩ = some 5 ∧
    (∀ declared, Event.registered 5 [declared] ∈ lateChain.events →
      lateChain.registry.isA ⟨5, "isTruthy"⟩ declared = false) ∧
    (Event.registered 5 [Predicate.any]) ∈ lateChain.events ∧
    lateChain.registry.isA Predicate.any ⟨7, "isLoudYes"⟩ = true ∧
    World.TestAnswers { registry := lateChain.registry } ⟨5, "isTruthy"⟩ 5
      (.tagged .null ⟨7, "isLoudYes"⟩) true := by
  have hholds : lateChain.Holds :=
    (History.holds_start {}).run (by decide +kernel)
  have hroot : lateChain.registry.hierarchy.parent? Predicate.any = none := by
    decide +kernel
  have htest : lateChain.registry.membershipTest? ⟨5, "isTruthy"⟩ = some 5 := by
    decide +kernel
  have hevents : lateChain.events = .registered 5 [Predicate.any] ::
      .created 5 :: Registry.kernelPast := by decide +kernel
  have hown : ∀ declared, Event.registered 5 [declared] ∈ lateChain.events →
      lateChain.registry.isA ⟨5, "isTruthy"⟩ declared = false := by
    intro declared hmem
    have hany : declared = Predicate.any := by
      simpa [hevents, Registry.kernelPast] using hmem
    rw [hany]
    decide +kernel
  have hanswers := @test_accepts_subtree Unit
    { registry := lateChain.registry } _ hholds rfl hroot ⟨5, "isTruthy"⟩ 5 htest
    hown (.tagged .null ⟨7, "isLoudYes"⟩) (by decide +kernel) (by decide)
  refine ⟨hholds, rfl, hroot, htest, hown, ?_, by decide +kernel, hanswers.2⟩
  rw [hevents]
  exact List.mem_cons_self

end PredicateDispatch
