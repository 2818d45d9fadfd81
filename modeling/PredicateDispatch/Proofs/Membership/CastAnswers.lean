import PredicateDispatch.Proofs.Membership.Answers

/-!
# Casting and testing

A cast leaves a value with a type at or below the predicate.  Whether the test
of the predicate then accepts it depends on where the test comes from, as long
as no client has registered an entry for the predicate or below it.  A test that
was made with its predicate accepts it, unless `isAny` stands between the type
and the predicate: then it refuses.  A promoted function accepts every value
whose type is properly below its predicate, but it has no entry for the
predicate itself, and treats a value that a cast has tagged with it like one of
type `isAny`.
-/

namespace PredicateDispatch

variable {Code : Type}

/-- A promoted function does not tell its own predicate from `isAny`. -/
theorem Registry.Past.resolve_of_promoted_self {registry : Registry Code}
    {events : List Event} (hpast : registry.Past events)
    (hdirected : registry.metric = .directed) {test : ℕ}
    {function : GenericFunction Code}
    (hfunction : registry.function? test = some function)
    {tested type : Predicate} (hrole : function.role = .promoted tested)
    (hown : ∀ declared, Event.registered test [declared] ∈ events →
      registry.isA tested declared = false)
    (hid : type.id = tested.id) (tolerateTie : Bool) :
    (registry.resolve test [type] tolerateTie).1 =
      (registry.resolve test [Predicate.any] tolerateTie).1 := by
  have hkept := hpast.wellKept
  have hwell := hkept.functions test function hfunction
  obtain ⟨hlink, hentries⟩ := hwell.promoted tested hrole
  refine hpast.reachable.cacheSound.resolve_eq_of_isA_eq hfunction
    hkept.coherent hwell.nodup hdirected (fun single hsingle => ?_) tolerateTie
  obtain ⟨entry, hentry, harguments⟩ := List.mem_map.mp hsingle
  have hne : single.id ≠ tested.id := by
    intro hself
    have hregistered := hentries entry hentry (by
      rw [harguments, ← hself]
      rfl)
    rw [harguments] at hregistered
    have hbelow : registry.isA tested single = true := by
      rw [Catalog.isA, Hierarchy.isA_congr _ _ hself]
      exact Hierarchy.isA_self ..
    exact Bool.noConfusion (hbelow.symm.trans (hown single hregistered))
  rw [Catalog.isA, Hierarchy.isA_congr _ _ hid, Bool.eq_iff_iff]
  constructor
  · exact fun habove => hkept.coherent.isA_parent_of_parentLink hlink habove hne
  · exact fun habove => hkept.coherent.isA_trans habove
      (hkept.coherent.isA_of_parentLink hlink)

/-! ## Main statement -/

/-- What the test of a predicate says of a value that a cast to the predicate
has left. -/
theorem test_of_cast_answer {world final : World Code} {events : List Event}
    (hpast : final.registry.Past events)
    (hdirected : final.registry.metric = .directed) {type : Predicate}
    {test : ℕ} (htest : final.registry.membershipTest? type = some test)
    {function : GenericFunction Code}
    (hfunction : final.registry.function? test = some function)
    (hown : ∀ declared, Event.registered test [declared] ∈ events →
      final.registry.isA type declared = false)
    {meaning : Code → List Value → Program Code Value} {depth : ℕ}
    {value answer : Value}
    (hcast : (Program.cast type value).exec meaning depth world =
      some (.ok answer, final)) :
    (∃ tested, function.role = .defined tested ∧ tested.id = type.id ∧
      final.TestAnswers type test answer
        (!final.registry.hierarchy.anyIntervenes type answer.type)) ∨
    (∃ tested, function.role = .promoted tested ∧ tested.id = type.id ∧
      (answer.type.id ≠ type.id →
        final.TestAnswers type test answer true) ∧
      (answer.type.id = type.id →
        (final.registry.resolve test [answer.type] false).1 =
          (final.registry.resolve test [Predicate.any] false).1 ∧
        ((∀ single, [single] ∈ function.signatures →
            final.registry.isA single Predicate.any = false) →
          function.fallback = none →
            final.TestIsMute type test function answer))) := by
  have hkept := hpast.wellKept
  have hbelow : final.registry.isA type answer.type = true :=
    Program.isA_of_runWith_coerce hcast
  obtain ⟨tested, htested, hid⟩ := hkept.exists_tested htest hfunction
  -- The handle that the function is tied to denotes the same type.
  have hsame : ∀ lower, final.registry.isA type lower =
      final.registry.isA tested lower :=
    final.registry.hierarchy.isA_congr_left hid.symm
  rw [hsame] at hbelow
  simp only [hsame] at hown
  cases hrole : function.role with
  | ordinary =>
      rw [GenericFunction.predicate?, hrole] at htested
      cases htested
  | defined made =>
      obtain rfl : made = tested := Option.some.inj
        ((GenericFunction.predicate?_of_defined hrole).symm.trans htested)
      obtain ⟨single, hresolve⟩ := hpast.resolve_of_defined hdirected hfunction
        hown hbelow hrole false
      have hintervenes :
          final.registry.hierarchy.anyIntervenes made answer.type =
            final.registry.hierarchy.anyIntervenes type answer.type := by
        simp only [Hierarchy.anyIntervenes, hid, Hierarchy.isA_congr_left _ hid]
      rw [hintervenes] at hresolve
      exact Or.inl ⟨made, rfl, hid,
        World.testAnswers_of_resolve htest hfunction hresolve⟩
  | promoted made =>
      obtain rfl : made = tested := Option.some.inj
        ((GenericFunction.predicate?_of_promoted hrole).symm.trans htested)
      refine Or.inr ⟨made, rfl, hid, fun hne => ?_, fun hself => ?_⟩
      · obtain ⟨single, hresolve⟩ := hpast.resolve_of_promoted hdirected
          hfunction hown hbelow hrole (hid ▸ hne) false
        exact World.testAnswers_of_resolve htest hfunction hresolve
      · have hresolve := hpast.resolve_of_promoted_self hdirected hfunction hrole
          hown (hself.trans hid.symm) false
        refine ⟨hresolve, fun hrejects hfallback => ?_⟩
        have hnone := hpast.reachable.cacheSound.resolve_eq_none hfunction
          hrejects false
        exact World.testIsMute_of_resolve htest hfunction (hresolve.trans hnone)
          hfallback

/-- A promoted function with one entry, for truth values. -/
def truthTest : GenericFunction Unit where
  name := "isTruthy"
  entries := [⟨[Predicate.boolean], Predicate.boolean, .code ()⟩]
  role := .promoted ⟨5, "isTruthy"⟩

def truthHistory : History Unit :=
  History.run (.start {}) [
    .createFunction "isTruthy",
    .register 5 ⟨[Predicate.boolean], Predicate.boolean, .code ()⟩]

/-- A cast of a truth value asks the function about it. -/
def castHistory : History Unit :=
  truthHistory.step (.resolve 5 [Predicate.boolean] false)

/-- Code that answers with its first argument. -/
def answerFirst (_ : Unit) (arguments : List Value) : Program Unit Value :=
  .done (.ok (arguments.headD Value.null))

theorem test_of_cast_answer_truthTest :
    castHistory.Holds ∧
    castHistory.registry.metric = .directed ∧
    castHistory.registry.membershipTest? ⟨5, "isTruthy"⟩ = some 5 ∧
    castHistory.registry.function? 5 = some truthTest ∧
    (∀ declared, Event.registered 5 [declared] ∈ castHistory.events →
      castHistory.registry.isA ⟨5, "isTruthy"⟩ declared = false) ∧
    (Program.cast ⟨5, "isTruthy"⟩ (.boolean true)).exec answerFirst 2
        { registry := truthHistory.registry } =
      some (.ok (.tagged (.boolean true) ⟨5, "isTruthy"⟩),
        { registry := castHistory.registry }) ∧
    World.TestIsMute { registry := castHistory.registry } ⟨5, "isTruthy"⟩ 5
      truthTest (.tagged (.boolean true) ⟨5, "isTruthy"⟩) := by
  have hholds : castHistory.Holds :=
    ((History.holds_start {}).run (by decide +kernel)).step rfl
  have htest : castHistory.registry.membershipTest? ⟨5, "isTruthy"⟩ = some 5 := by
    decide +kernel
  have hfunction : castHistory.registry.function? 5 = some truthTest := by rfl
  have hevents : castHistory.events = .registered 5 [Predicate.boolean] ::
      .created 5 :: Registry.kernelPast := by decide +kernel
  have hown : ∀ declared, Event.registered 5 [declared] ∈ castHistory.events →
      castHistory.registry.isA ⟨5, "isTruthy"⟩ declared = false := by
    intro declared hmem
    have hboolean : declared = Predicate.boolean := by
      simpa [hevents, Registry.kernelPast] using hmem
    rw [hboolean]
    decide +kernel
  have hcast : (Program.cast ⟨5, "isTruthy"⟩ (.boolean true)).exec answerFirst 2
        { registry := truthHistory.registry } =
      some (.ok (.tagged (.boolean true) ⟨5, "isTruthy"⟩),
        { registry := castHistory.registry }) := by rfl
  refine ⟨hholds, rfl, htest, hfunction, hown, hcast, ?_⟩
  rcases @test_of_cast_answer Unit _ { registry := castHistory.registry } _
      hholds rfl _ _ htest _ hfunction hown _ _ _ _ hcast with
    ⟨tested, hrole, -⟩ | ⟨tested, -, -, -, hself⟩
  · cases hrole
  · refine (hself rfl).2 (fun single hsingle => ?_) rfl
    have hboolean : single = Predicate.boolean := by
      simpa [truthTest, GenericFunction.signatures] using hsingle
    rw [hboolean]
    decide +kernel

end PredicateDispatch
