import PredicateDispatch.Proofs.Registry.Effects

/-!
# Promotion

A function that a client created is tied to a predicate exactly while it has
entries and all of them are one-argument truth tests, whatever was registered
before and in whatever order.  The test map and the roles are inverse to each
other all the time, and a test that was made with its predicate never loses it.
-/

namespace PredicateDispatch

variable {Code : Type}

namespace GenericFunction

theorem isTruthTest_iff {function : GenericFunction Code} :
    function.isTruthTest = true ↔ ∀ entry ∈ function.entries,
      entry.arguments.length = 1 ∧ entry.returns.id = Predicate.boolean.id := by
  simp [isTruthTest]

theorem putEntry_ne_nil (entry : MethodEntry Code)
    (entries : List (MethodEntry Code)) : putEntry entry entries ≠ [] := by
  cases entries with
  | nil => exact List.cons_ne_nil _ _
  | cons existing rest =>
      rw [putEntry]
      split <;> exact List.cons_ne_nil _ _

/-- The role is the one that the entries demand. -/
def Settled (function : GenericFunction Code) : Prop :=
  match function.role with
  | .ordinary => function.entries = [] ∨ function.isTruthTest = false
  | .defined _ => True
  | .promoted _ => function.entries ≠ [] ∧ function.isTruthTest = true

/-- An answer for one more type is a truth test, so that it settles nothing
anew. -/
theorem Settled.addAnswer {function : GenericFunction Code}
    (hsettled : function.Settled) {tested : Predicate}
    (htested : function.predicate? = some tested) (type : Predicate) :
    (function.addEntry (Catalog.fixedAnswer type true)).Settled := by
  rcases role_of_predicate? htested with hrole | hrole
  · rw [Settled, addEntry, hrole]
    trivial
  · rw [Settled, hrole] at hsettled
    rw [Settled, addEntry, hrole]
    refine ⟨putEntry_ne_nil _ _, isTruthTest_iff.mpr fun entry hentry => ?_⟩
    rcases mem_putEntry hentry with rfl | hold
    · exact ⟨rfl, rfl⟩
    · exact isTruthTest_iff.mp hsettled.2 entry hold

/-- A settled function that was not made with a predicate is tied to one
exactly if its entries demand it. -/
theorem Settled.predicate?_isSome_iff {function : GenericFunction Code}
    (hsettled : function.Settled) (hrole : ∀ type, function.role ≠ .defined type) :
    function.predicate?.isSome = true ↔
      function.entries ≠ [] ∧ ∀ entry ∈ function.entries,
        entry.arguments.length = 1 ∧
          entry.returns.id = Predicate.boolean.id := by
  rw [← isTruthTest_iff, predicate?]
  cases hcase : function.role with
  | defined type => exact absurd hcase (hrole type)
  | promoted type =>
      rw [Settled, hcase] at hsettled
      exact iff_of_true rfl hsettled
  | ordinary =>
      rw [Settled, hcase] at hsettled
      refine iff_of_false Bool.false_ne_true fun hdemand => ?_
      rcases hsettled with hempty | hother
      · exact hdemand.1 hempty
      · exact Bool.noConfusion (hother.symm.trans hdemand.2)

end GenericFunction

namespace Catalog

/-- The function of this number is settled, if there is one. -/
def SettledAt (catalog : Catalog Code) (id : ℕ) : Prop :=
  ∀ function, catalog.function? id = some function → function.Settled

/-! ## What one change settles -/

theorem SettledAt.addFunction {catalog : Catalog Code} {id : ℕ}
    (hsettled : catalog.SettledAt id) {function : GenericFunction Code}
    (hfunction : function.Settled) : (catalog.addFunction function).SettledAt id := by
  intro found hfound
  rcases function?_addFunction_eq_some_iff.mp hfound with hold | ⟨-, rfl⟩
  · exact hsettled found hold
  · exact hfunction

theorem SettledAt.modifyFunction_of_ne {catalog : Catalog Code} {id other : ℕ}
    (hsettled : catalog.SettledAt other) (hne : other ≠ id)
    (change : GenericFunction Code → GenericFunction Code) :
    (catalog.modifyFunction id change).SettledAt other := by
  intro found hfound
  rw [Registry.function?_modifyFunction_of_ne _ hne] at hfound
  exact hsettled found hfound

theorem SettledAt.modifyFunction {catalog : Catalog Code} {other : ℕ}
    (hsettled : catalog.SettledAt other) (id : ℕ)
    {change : GenericFunction Code → GenericFunction Code}
    (hchange : ∀ function, function.Settled → (change function).Settled) :
    (catalog.modifyFunction id change).SettledAt other := by
  by_cases hid : other = id
  · subst hid
    intro found hfound
    rw [Registry.function?_modifyFunction_self] at hfound
    obtain ⟨function, hfunction, rfl⟩ := Option.map_eq_some_iff.mp hfound
    exact hchange function (hsettled function hfunction)
  · exact hsettled.modifyFunction_of_ne hid change

theorem SettledAt.foldl_attachTest {catalog : Catalog Code} {id : ℕ}
    (hsettled : catalog.SettledAt id) (types : List Predicate) :
    (types.foldl attachTest catalog).SettledAt id := by
  induction types generalizing catalog with
  | nil => exact hsettled
  | cons type rest ih => exact ih (hsettled.addFunction trivial)

theorem Derived.settledAt {events : List Event} {catalog after : Catalog Code}
    {parent child : Predicate} (hderived : catalog.Derived parent child after)
    (hkept : catalog.WellKept events) {id : ℕ}
    (hsettled : catalog.SettledAt id) : after.SettledAt id := by
  intro found hfound
  obtain ⟨function, hfunction⟩ := hderived.exists_function? hfound
  rcases hderived.function?_of_some hfunction with hsame | ⟨htest, -, hextended⟩
  · rw [Option.some.inj (hfound.symm.trans hsame)]
    exact hsettled function hfunction
  · obtain ⟨tested, htested, -⟩ := hkept.exists_tested htest hfunction
    rw [Option.some.inj (hfound.symm.trans hextended)]
    exact (hsettled function hfunction).addAnswer htested child

section Reviewed

variable {events : List Event} {catalog after : Catalog Code} {id : ℕ}
  (hreviewed : catalog.Reviewed id after) (hkept : catalog.WellKept events)
include hreviewed hkept

/-- A review settles the function that it is about. -/
theorem Reviewed.settledAt_self {function : GenericFunction Code}
    (hfunction : catalog.function? id = some function)
    (hentries : function.entries ≠ []) : after.SettledAt id := by
  intro found hfound
  cases hreviewed with
  | kept hfunction' hordinary hpromoted =>
      obtain rfl := Option.some.inj (hfunction.symm.trans hfunction')
      obtain rfl := Option.some.inj (hfunction.symm.trans hfound)
      cases hrole : function.role with
      | defined type => rw [GenericFunction.Settled, hrole]; trivial
      | ordinary =>
          rw [GenericFunction.Settled, hrole]
          exact Or.inr (Bool.eq_false_iff.mpr fun htruth =>
            hordinary htruth hrole)
      | promoted type =>
          rw [GenericFunction.Settled, hrole]
          exact ⟨hentries, Bool.eq_true_of_not_eq_false fun htruth =>
            hpromoted htruth type hrole⟩
  | promoted hfunction' htruth hrole hderived =>
      obtain rfl := Option.some.inj (hfunction.symm.trans hfunction')
      have hsame := hkept.function?_of_ordinary hderived hfunction hrole
      change (modifyFunction _ id _).function? id = some found at hfound
      rw [Registry.function?_modifyFunction_self, hsame] at hfound
      obtain rfl := Option.some.inj hfound
      exact ⟨hentries, htruth⟩
  | demoted hfunction' htruth hrole =>
      obtain rfl := Option.some.inj (hfunction.symm.trans hfunction')
      change (modifyFunction _ id _).function? id = some found at hfound
      rw [Registry.function?_modifyFunction_self, hfunction] at hfound
      obtain rfl := Option.some.inj hfound
      exact Or.inr htruth

theorem Reviewed.settledAt_of_ne {other : ℕ} (hne : other ≠ id)
    (hsettled : catalog.SettledAt other) : after.SettledAt other := by
  cases hreviewed with
  | kept _ _ _ => exact hsettled
  | @promoted function _ _ _ _ hderived =>
      have hcreated : (catalog.create function.name).SettledAt other := hsettled
      exact (hderived.settledAt (hkept.create function.name)
        hcreated).modifyFunction_of_ne hne _
  | demoted _ _ _ => exact hsettled.modifyFunction_of_ne hne _

end Reviewed

/-- An operation leaves every function settled. -/
theorem Performed.settledAt {catalog after : Catalog Code}
    {operation : Operation Code} {events new : List Event}
    (hperformed : catalog.Performed operation after new)
    (hkept : catalog.WellKept events) {id : ℕ}
    (hsettled : catalog.SettledAt id) : after.SettledAt id := by
  -- Settling looks at functions only.
  have hcreated (name : String) : (catalog.create name).SettledAt id := hsettled
  cases hperformed with
  | unchanged => exact hsettled
  | createdPredicate name => exact hcreated name
  | @defined name _ _ hderived =>
      have hderived_settled :=
        hderived.settledAt (hkept.create name) (hcreated name)
      exact hderived_settled.addFunction trivial
  | derived hderived => exact hderived.settledAt hkept hsettled
  | createdFunction name => exact hsettled.addFunction (Or.inl rfl)
  | @registered registered entry function _ hfunction hreviewed =>
      have hadded := hkept.addEntry hfunction entry
      by_cases hid : id = registered
      · have hfunction' : (catalog.modifyFunction registered
            (·.addEntry entry)).function? registered =
              some (function.addEntry entry) := by
          rw [Registry.function?_modifyFunction_self, hfunction]
          rfl
        rw [hid]
        exact hreviewed.settledAt_self hadded hfunction'
          (GenericFunction.putEntry_ne_nil entry function.entries)
      · exact hreviewed.settledAt_of_ne hadded hid
          (hsettled.modifyFunction_of_ne hid _)
  | defaulted _ => exact hsettled.modifyFunction _ fun _ hold => hold

end Catalog

namespace Registry

/-! ## Every registry with a past -/

theorem Past.settledAt {registry : Registry Code} {events : List Event}
    (hpast : registry.Past events) (id : ℕ) :
    registry.toCatalog.SettledAt id := by
  induction hpast with
  | fresh configuration =>
      apply Catalog.SettledAt.foldl_attachTest
      intro function hfunction
      simp [Catalog.function?] at hfunction
  | perform operation hpast _ hlinks ih =>
      exact (hpast.performed hlinks).settledAt hpast.wellKept ih

end Registry

/-! ## Main statement -/

/-- In every registry that is reached by operations on its own predicates, the
test map and the roles are inverse to each other, and a test has the name of its
predicate; a function that a client created is tied to a predicate exactly if it
has entries and all of them are one-argument truth tests; and the test that was
made with a predicate, as those of the kernel were, keeps it. -/
theorem tests_and_roles_agree {registry : Registry Code} {events : List Event}
    (hpast : registry.Past events) :
    (∀ (type : Predicate) (id : ℕ),
      registry.membershipTest? type = some id ↔
        ∃ function tested, registry.function? id = some function ∧
          function.predicate? = some tested ∧ tested.id = type.id) ∧
    (∀ (id : ℕ) function tested, registry.function? id = some function →
      function.predicate? = some tested →
        registry.hierarchy.predicates[tested.id]? = some tested ∧
        function.name = tested.name) ∧
    (∀ (left right : Predicate) (id : ℕ),
      registry.membershipTest? left = some id →
        registry.membershipTest? right = some id → left.id = right.id) ∧
    (∀ id, Event.created id ∈ events →
      ∃ function, registry.function? id = some function ∧
        (function.predicate?.isSome = true ↔
          function.entries ≠ [] ∧ ∀ entry ∈ function.entries,
            entry.arguments.length = 1 ∧
              entry.returns.id = Predicate.boolean.id)) ∧
    Registry.kernelPast ⊆ events ∧
    (∀ type test, Event.defined type test ∈ events →
      registry.membershipTest? type = some test ∧
        ∃ function, registry.function? test = some function ∧
          function.predicate? = some type) := by
  have hkept := hpast.wellKept
  have htests : ∀ (type : Predicate) (id : ℕ),
      registry.membershipTest? type = some id ↔
        ∃ function tested, registry.function? id = some function ∧
          function.predicate? = some tested ∧ tested.id = type.id :=
    fun type id => (hkept.tests_iff type.id id).trans Catalog.tested?_eq_some_iff
  refine ⟨htests, ?_, ?_, ?_, hpast.kernelPast_subset, ?_⟩
  · intro id function tested hfunction htested
    exact (hkept.functions id function hfunction).tested tested htested
  · intro left right id hleft hright
    obtain ⟨function, tested, hfunction, htested, hid⟩ := (htests left id).mp hleft
    obtain ⟨function', tested', hfunction', htested', hid'⟩ :=
      (htests right id).mp hright
    obtain rfl := Option.some.inj (hfunction.symm.trans hfunction')
    obtain rfl := Option.some.inj (htested.symm.trans htested')
    exact hid.symm.trans hid'
  · intro id hcreated
    obtain ⟨role, hrole, hother⟩ := hkept.stands _ hcreated
    obtain ⟨function, hfunction, rfl⟩ := Option.map_eq_some_iff.mp hrole
    exact ⟨function, hfunction,
      (hpast.settledAt id function hfunction).predicate?_isSome_iff hother⟩
  · intro type test hdefined
    obtain ⟨function, hfunction, hrole, htest⟩ := hkept.exists_of_defined hdefined
    exact ⟨htest, function, hfunction,
      GenericFunction.predicate?_of_defined hrole⟩

/-- A function that is promoted, that answers for a predicate derived from its
own, that is demoted by an entry for null values, and promoted again when that
entry is replaced. -/
def repromotion : History Unit :=
  History.run (.start {}) [
    .createFunction "isTruthy",
    .register 5 ⟨[Predicate.boolean], Predicate.boolean, .code ()⟩,
    .createPredicate "isYes",
    .derive ⟨5, "isTruthy"⟩ ⟨6, "isYes"⟩,
    .register 5 ⟨[Predicate.null], Predicate.null, .code ()⟩,
    .register 5 ⟨[Predicate.null], Predicate.boolean, .code ()⟩]

theorem tests_and_roles_agree_repromotion :
    repromotion.Holds ∧
    Event.created 5 ∈ repromotion.events ∧
    repromotion.registry.membershipTest? ⟨7, "isTruthy"⟩ = some 5 ∧
    repromotion.registry.membershipTest? ⟨5, "isTruthy"⟩ ≠ some 5 ∧
    (∃ function, repromotion.registry.function? 5 = some function ∧
      function.predicate?.isSome = true ∧ function.entries.length = 3 ∧
      ∀ entry ∈ function.entries, entry.arguments.length = 1 ∧
        entry.returns.id = Predicate.boolean.id) ∧
    repromotion.registry.membershipTest? Predicate.null = some 4 := by
  have hholds : repromotion.Holds :=
    (History.holds_start {}).run (by decide +kernel)
  have hcreated : Event.created 5 ∈ repromotion.events := by decide +kernel
  have htest : repromotion.registry.membershipTest? ⟨7, "isTruthy"⟩ = some 5 := by
    decide +kernel
  obtain ⟨htests, -, hinjective, hlinked, hkernel, hmade⟩ :=
    tests_and_roles_agree hholds
  obtain ⟨function, hfunction, htied⟩ := hlinked 5 hcreated
  obtain ⟨function', tested, hfunction', htested, -⟩ := (htests _ _).mp htest
  obtain rfl := Option.some.inj (hfunction.symm.trans hfunction')
  have hsome : function.predicate?.isSome = true := by
    rw [htested]
    rfl
  have hlength : (repromotion.registry.function? 5).map
      (fun function => function.entries.length) = some 3 := by decide +kernel
  rw [hfunction] at hlength
  refine ⟨hholds, hcreated, htest, fun hother => ?_,
    ⟨function, hfunction, hsome, Option.some.inj hlength, (htied.mp hsome).2⟩,
    (hmade Predicate.null 4 (hkernel (by decide))).1⟩
  exact absurd (hinjective _ _ 5 htest hother) (by decide)

end PredicateDispatch
