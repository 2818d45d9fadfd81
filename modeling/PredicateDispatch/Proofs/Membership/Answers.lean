import PredicateDispatch.Proofs.Dispatch.Forecast
import PredicateDispatch.Proofs.Registry.Effects
import PredicateDispatch.Proofs.Resolution.Lowest

/-!
# What membership tests answer

Under the directed metric a call with one argument runs the entry for the
lowest declared type, and an entry with a fixed answer gives it whatever the
value is.  A test that no client has touched therefore answers as the forest
says: yes for its predicate and everything below, no for all else below `isAny`,
and nothing for types outside both.
-/

namespace PredicateDispatch

variable {Code : Type}

/-! ## Selecting for one argument -/

namespace Registry

variable {registry : Registry Code} (hsound : registry.CacheSound) {id : ℕ}
  {function : GenericFunction Code}
  (hfunction : registry.function? id = some function) {type : Predicate}
include hsound hfunction

/-- Of the entries that accept the argument, the one for the lowest type is
selected. -/
theorem CacheSound.exists_resolve_eq_entry
    (hcoherent : registry.hierarchy.Coherent)
    (hnodup : function.argumentIds.Nodup)
    (hdirected : registry.metric = .directed)
    (haccepts : ∃ single, [single] ∈ function.signatures ∧
      registry.isA single type = true) (tolerateTie : Bool) :
    ∃ entry nearest, entry ∈ function.entries ∧
      entry.arguments = [nearest] ∧ registry.isA nearest type = true ∧
      (∀ other, [other] ∈ function.signatures →
        registry.isA other type = true → registry.isA other nearest = true) ∧
      (registry.resolve id [type] tolerateTie).1 = .ok (some entry) := by
  rw [← GenericFunction.map_ids_signatures] at hnodup
  obtain ⟨index, nearest, hindex, hnearest, hlowest, hresolve⟩ :=
    hcoherent.exists_resolve_eq_unique hnodup haccepts
  obtain ⟨entry, hentry, -, hentry_at⟩ :=
    exists_entry_of_resolve_eq_unique hfunction hresolve
  have harguments : entry.arguments = [nearest] := by
    rw [GenericFunction.signatures, List.getElem?_map, hentry] at hindex
    exact Option.some.inj hindex
  refine ⟨entry, nearest, List.mem_of_getElem? hentry, harguments, hnearest,
    hlowest, ?_⟩
  rw [hsound.resolve_answer hfunction, hdirected, hresolve]
  exact congrArg Except.ok hentry_at

theorem CacheSound.resolve_eq_none
    (hrejects : ∀ single, [single] ∈ function.signatures →
      registry.isA single type = false) (tolerateTie : Bool) :
    (registry.resolve id [type] tolerateTie).1 = .ok none := by
  have hresolve : registry.hierarchy.resolve registry.metric
      function.signatures [type] = .noMatch := by
    refine Hierarchy.resolveBy_eq_noMatch fun declared hdeclared => ?_
    rw [Bool.eq_false_iff]
    intro haccepts
    obtain ⟨single, rfl, habove⟩ := Hierarchy.accepts_singleton_iff.mp haccepts
    exact Bool.noConfusion ((hrejects single hdeclared).symm.trans habove)
  rw [hsound.resolve_answer hfunction, hresolve]
  exact congrArg Except.ok (registry.entryAt?_none id)

/-- Two types that the same entries accept select the same entry. -/
theorem CacheSound.resolve_eq_of_isA_eq
    (hcoherent : registry.hierarchy.Coherent)
    (hnodup : function.argumentIds.Nodup)
    (hdirected : registry.metric = .directed) {other : Predicate}
    (hsame : ∀ single, [single] ∈ function.signatures →
      registry.isA single type = registry.isA single other)
    (tolerateTie : Bool) :
    (registry.resolve id [type] tolerateTie).1 =
      (registry.resolve id [other] tolerateTie).1 := by
  by_cases haccepts : ∃ single, [single] ∈ function.signatures ∧
      registry.isA single type = true
  · have haccepts' : ∃ single, [single] ∈ function.signatures ∧
        registry.isA single other = true := by
      obtain ⟨single, hmem, habove⟩ := haccepts
      exact ⟨single, hmem, (hsame single hmem).symm.trans habove⟩
    obtain ⟨left, first, hleft, hfirst, hfirst_above, hfirst_lowest, hresolve⟩ :=
      hsound.exists_resolve_eq_entry hfunction hcoherent hnodup hdirected
        haccepts tolerateTie
    obtain ⟨right, second, hright, hsecond, hsecond_above, hsecond_lowest,
      hresolve'⟩ := hsound.exists_resolve_eq_entry hfunction hcoherent hnodup
        hdirected haccepts' tolerateTie
    have hfirst_mem : [first] ∈ function.signatures :=
      hfirst ▸ List.mem_map_of_mem hleft
    have hsecond_mem : [second] ∈ function.signatures :=
      hsecond ▸ List.mem_map_of_mem hright
    -- Each of the two is at or below the other.
    have hids : first.id = second.id := hcoherent.id_eq_of_isA_of_isA
      (hsecond_lowest first hfirst_mem
        ((hsame first hfirst_mem).symm.trans hfirst_above))
      (hfirst_lowest second hsecond_mem
        ((hsame second hsecond_mem).trans hsecond_above))
    have hentries : left = right := by
      refine List.inj_on_of_nodup_map hnodup hleft hright ?_
      rw [hfirst, hsecond]
      exact congrArg (fun id => [id]) hids
    rw [hresolve, hresolve', hentries]
  · have hrejects : ∀ single, [single] ∈ function.signatures →
        registry.isA single type = false := fun single hmem =>
      Bool.eq_false_iff.mpr fun habove => haccepts ⟨single, hmem, habove⟩
    rw [hsound.resolve_eq_none hfunction hrejects tolerateTie,
      hsound.resolve_eq_none hfunction
        (fun single hmem => (hsame single hmem).symm.trans (hrejects single hmem))
        tolerateTie]

end Registry

/-! ## Fixed answers -/

namespace Program

/-- A value of the expected type is left as it is. -/
theorem runWith_coerce_of_isA (runTask : Runner Code) {expected : Predicate}
    {value : Value} {world : World Code}
    (habove : world.registry.isA expected value.type = true) (failure : Error) :
    (coerce expected value failure).runWith runTask world =
      some (.ok value, world) := by
  rw [runWith_coerce, if_pos habove]

theorem runTask_fixedAnswer (meaning : Code → List Value → Program Code Value)
    (depth : ℕ) (function : String) (truth : Bool) (arguments : List Value)
    (world : World Code) :
    runTask meaning (depth + 1)
        (.typed function Predicate.boolean (.answer truth)) arguments world =
      some (.ok (.boolean truth), world) := by
  have hself : world.registry.isA Predicate.boolean
      (Value.boolean truth).type = true := Hierarchy.isA_self ..
  change (castOrFail function Predicate.boolean (.boolean truth)).runWith
    (runTask meaning depth) world = _
  exact runWith_coerce_of_isA _ hself _

section Call

variable (meaning : Code → List Value → Program Code Value) (depth : ℕ)
  {world : World Code} {id : ℕ} {function : GenericFunction Code}
  (hfunction : world.registry.function? id = some function) (value : Value)
include hfunction

/-- A selected entry with a fixed answer gives it. -/
theorem exec_call_of_fixedAnswer {type : Predicate} {truth : Bool}
    (hresolve : (world.registry.resolve id [value.type] false).1 =
      .ok (some (Catalog.fixedAnswer type truth))) :
    (call id [value]).exec meaning (depth + 1) world =
      some (.ok (.boolean truth),
        (world.perform (.resolve id [value.type] false)).2) := by
  have hselected : (world.registry.resolve id ([value].map Value.type) false).1 =
      .ok (some (Catalog.fixedAnswer type truth)) := hresolve
  rw [exec, runWith_call _ hfunction]
  dsimp only
  rw [hselected]
  exact runTask_fixedAnswer ..

/-- Without an entry and without a default there is no answer. -/
theorem exec_call_of_none
    (hresolve : (world.registry.resolve id [value.type] false).1 = .ok none)
    (hfallback : function.fallback = none) :
    (call id [value]).exec meaning depth world =
      some (.error (function.noImplementation [value.type]),
        (world.perform (.resolve id [value.type] false)).2) := by
  have hselected : (world.registry.resolve id ([value].map Value.type) false).1 =
      .ok none := hresolve
  have hnone : function.task? none = none := by
    simp only [GenericFunction.task?, hfallback]
  rw [exec, runWith_call _ hfunction]
  dsimp only
  rw [hselected]
  dsimp only
  rw [hnone]
  rfl

end Call

/-- What coercibility makes of the outcome of the membership test. -/
def coercibility : Except Error Value → Except Error Bool
  | .ok answer => .ok (answer.payload.boolean? == some true)
  | .error (.noImplementation _ _ _) => .ok false
  | .error error => .error error

/-- Nothing is coercible to a predicate without a test. -/
theorem runWith_isCoercible_of_no_test (runTask : Runner Code)
    {expected : Predicate} {world : World Code}
    (htest : world.registry.membershipTest? expected = none) (value : Value) :
    (isCoercible expected value).runWith runTask world =
      some (.ok false, world) := by
  rw [isCoercible_eq, runWith_bind, runWith_inspect]
  dsimp only
  rw [htest]
  rfl

/-- Coercibility is asked of the membership test. -/
theorem runWith_isCoercible (runTask : Runner Code) {expected : Predicate}
    {test : ℕ} {world : World Code}
    (htest : world.registry.membershipTest? expected = some test)
    (value : Value) :
    (isCoercible expected value).runWith runTask world =
      ((call test [value]).runWith runTask world).map fun ran =>
        (coercibility ran.1, ran.2) := by
  rw [isCoercible_eq, runWith_bind, runWith_inspect]
  dsimp only
  rw [htest]
  dsimp only
  rw [runWith_rescue, runWith_bind]
  rcases (call test [value]).runWith runTask world with _ | ⟨error | answer, _⟩
  · rfl
  · cases error <;> rfl
  · rfl

theorem exec_isCoercible (meaning : Code → List Value → Program Code Value)
    (depth : ℕ) {expected : Predicate} {test : ℕ} {world after : World Code}
    (htest : world.registry.membershipTest? expected = some test)
    {value : Value} {outcome : Except Error Value}
    (hcall : (call test [value]).exec meaning depth world =
      some (outcome, after)) :
    (isCoercible expected value).exec meaning depth world =
      some (coercibility outcome, after) := by
  rw [exec] at hcall
  rw [exec, runWith_isCoercible _ htest, hcall, Option.map_some]

end Program

/-! ## Tests that are asked about a value -/

/-- Asked about a value, the test of a predicate gives this truth value, and
coercibility agrees.  Nothing changes but what is remembered. -/
def World.TestAnswers (world : World Code) (type : Predicate) (test : ℕ)
    (value : Value) (truth : Bool) : Prop :=
  ∀ (meaning : Code → List Value → Program Code Value) (depth : ℕ),
    (Program.call test [value]).exec meaning (depth + 1) world =
      some (.ok (.boolean truth),
        (world.perform (.resolve test [value.type] false)).2) ∧
    (Program.isCoercible type value).exec meaning (depth + 1) world =
      some (.ok truth, (world.perform (.resolve test [value.type] false)).2)

/-- Asked about a value, the test of a predicate has no answer, which for
coercibility means no. -/
def World.TestIsMute (world : World Code) (type : Predicate) (test : ℕ)
    (function : GenericFunction Code) (value : Value) : Prop :=
  ∀ (meaning : Code → List Value → Program Code Value) (depth : ℕ),
    (Program.call test [value]).exec meaning depth world =
      some (.error (function.noImplementation [value.type]),
        (world.perform (.resolve test [value.type] false)).2) ∧
    (Program.isCoercible type value).exec meaning depth world =
      some (.ok false, (world.perform (.resolve test [value.type] false)).2)

section Asked

variable {world : World Code} {type : Predicate} {test : ℕ}
  (htest : world.registry.membershipTest? type = some test)
  {function : GenericFunction Code}
  (hfunction : world.registry.function? test = some function) {value : Value}
include htest hfunction

theorem World.testAnswers_of_resolve {single : Predicate} {truth : Bool}
    (hresolve : (world.registry.resolve test [value.type] false).1 =
      .ok (some (Catalog.fixedAnswer single truth))) :
    world.TestAnswers type test value truth := by
  intro meaning depth
  have hcall := Program.exec_call_of_fixedAnswer meaning depth hfunction value
    hresolve
  refine ⟨hcall, ?_⟩
  rw [Program.exec_isCoercible meaning (depth + 1) htest hcall]
  cases truth <;> rfl

theorem World.testIsMute_of_resolve
    (hresolve : (world.registry.resolve test [value.type] false).1 = .ok none)
    (hfallback : function.fallback = none) :
    world.TestIsMute type test function value := by
  intro meaning depth
  have hcall := Program.exec_call_of_none meaning depth hfunction value hresolve
    hfallback
  exact ⟨hcall, Program.exec_isCoercible meaning depth htest hcall⟩

end Asked

/-! ## What a test selects below its predicate -/

/-- `isAny` stands properly below the upper type, and not below the lower. -/
def Hierarchy.anyIntervenes (hierarchy : Hierarchy) (upper lower : Predicate) :
    Bool :=
  upper.id != Predicate.any.id && hierarchy.isA upper Predicate.any &&
    hierarchy.isA Predicate.any lower

theorem Hierarchy.anyIntervenes_iff {hierarchy : Hierarchy}
    {upper lower : Predicate} :
    hierarchy.anyIntervenes upper lower = true ↔
      upper.id ≠ Predicate.any.id ∧
        hierarchy.isA upper Predicate.any = true ∧
        hierarchy.isA Predicate.any lower = true := by
  simp [anyIntervenes, and_assoc]

/-- At the top of its tree, `isAny` intervenes nowhere. -/
theorem Hierarchy.Coherent.anyIntervenes_eq_false {hierarchy : Hierarchy}
    (hcoherent : hierarchy.Coherent)
    (hroot : hierarchy.parent? Predicate.any = none) (upper lower : Predicate) :
    hierarchy.anyIntervenes upper lower = false := by
  rw [Bool.eq_false_iff]
  intro hbetween
  obtain ⟨hne, hupper, -⟩ := anyIntervenes_iff.mp hbetween
  exact hne (hcoherent.id_eq_of_isA_root hroot hupper)

namespace Registry

section Below

variable {registry : Registry Code} {events : List Event}
  (hpast : registry.Past events) (hdirected : registry.metric = .directed)
  {test : ℕ} {function : GenericFunction Code}
  (hfunction : registry.function? test = some function) {tested type : Predicate}
  (hown : ∀ declared, Event.registered test [declared] ∈ events →
    registry.isA tested declared = false)
  (hbelow : registry.isA tested type = true)
include hpast hdirected hfunction hown hbelow

/-- The test that was made with a predicate says yes for what is below the
predicate, unless `isAny` intervenes.  Then it says no. -/
theorem Past.resolve_of_defined (hrole : function.role = .defined tested)
    (tolerateTie : Bool) :
    ∃ single, (registry.resolve test [type] tolerateTie).1 =
      .ok (some (Catalog.fixedAnswer single
        (!registry.hierarchy.anyIntervenes tested type))) := by
  have hkept := hpast.wellKept
  have hwell := hkept.functions test function hfunction
  obtain ⟨hself_declared, hany_declared⟩ := hwell.defined tested hrole
  obtain ⟨self, hself, hself_above, -⟩ :=
    GenericFunction.exists_of_declares hself_declared registry.hierarchy
  obtain ⟨root, hroot, hroot_above, -⟩ :=
    GenericFunction.exists_of_declares hany_declared registry.hierarchy
  have haccepts : registry.isA self type = true := (hself_above type).trans hbelow
  obtain ⟨entry, nearest, hentry, harguments, hnearest, hlowest, hresolve⟩ :=
    hpast.reachable.cacheSound.exists_resolve_eq_entry hfunction hkept.coherent
      hwell.nodup hdirected ⟨self, hself, haccepts⟩ tolerateTie
  have hupper : registry.isA tested nearest = true :=
    (hself_above nearest).symm.trans (hlowest self hself haccepts)
  -- Where `isAny` intervenes, the nearest entry is at or below `isAny`.
  have hbetween : registry.hierarchy.anyIntervenes tested type = true →
      registry.isA Predicate.any nearest = true := by
    intro hintervenes
    have habove := (Hierarchy.anyIntervenes_iff.mp hintervenes).2.2
    exact (hroot_above nearest).symm.trans
      (hlowest root hroot ((hroot_above type).trans habove))
  have hapart : registry.hierarchy.anyIntervenes tested type = true →
      registry.isA Predicate.any tested = false := by
    intro hintervenes
    obtain ⟨hne, htested, -⟩ := Hierarchy.anyIntervenes_iff.mp hintervenes
    rw [Bool.eq_false_iff]
    exact fun habove => hne (hkept.coherent.id_eq_of_isA_of_isA htested habove)
  rw [hresolve]
  cases hwell.origin entry hentry with
  | registered hmem =>
      rw [harguments] at hmem
      exact Bool.noConfusion (hupper.symm.trans (hown nearest hmem))
  | denial hdefined hne =>
      obtain rfl := Role.defined.inj (hrole.symm.trans hdefined)
      obtain rfl : Predicate.any = nearest := List.head_eq_of_cons_eq harguments
      have hintervenes := Hierarchy.anyIntervenes_iff.mpr ⟨hne, hupper, hnearest⟩
      exact ⟨Predicate.any, by rw [hintervenes]; rfl⟩
  | affirmation hdefined =>
      obtain rfl := Role.defined.inj (hrole.symm.trans hdefined)
      obtain rfl : tested = nearest := List.head_eq_of_cons_eq harguments
      have hfree : registry.hierarchy.anyIntervenes tested type = false := by
        rw [Bool.eq_false_iff]
        intro hintervenes
        exact Bool.noConfusion
          ((hapart hintervenes).symm.trans (hbetween hintervenes))
      exact ⟨tested, by rw [hfree]; rfl⟩
  | @child lower parent hlink hchild =>
      obtain ⟨rfl, hne⟩ := hchild tested hrole
      obtain rfl : lower = nearest := List.head_eq_of_cons_eq harguments
      have hfree : registry.hierarchy.anyIntervenes tested type = false := by
        rw [Bool.eq_false_iff]
        intro hintervenes
        have hparent := hkept.coherent.isA_parent_of_parentLink hlink
          (hbetween hintervenes) (Ne.symm hne)
        exact Bool.noConfusion ((hapart hintervenes).symm.trans hparent)
      exact ⟨lower, by rw [hfree]; rfl⟩

/-- The test of a promoted function says yes for what is properly below its
predicate. -/
theorem Past.resolve_of_promoted (hrole : function.role = .promoted tested)
    (hne : type.id ≠ tested.id) (tolerateTie : Bool) :
    ∃ single, (registry.resolve test [type] tolerateTie).1 =
      .ok (some (Catalog.fixedAnswer single true)) := by
  have hkept := hpast.wellKept
  have hwell := hkept.functions test function hfunction
  have htested := GenericFunction.predicate?_of_promoted hrole
  -- The test answers for the child of its predicate that is above the type.
  obtain ⟨child, hlink, hchild⟩ :=
    hkept.coherent.exists_child_of_isA hbelow (Ne.symm hne)
  have hcovers : ∃ cover, [cover] ∈ function.signatures ∧
      registry.isA tested cover = true ∧ registry.isA cover type = true := by
    rcases hwell.covers tested htested child hlink with hdeclares | hdeclares
    · obtain ⟨cover, hcover, hid⟩ := GenericFunction.declares_iff.mp hdeclares
      have hparent : registry.hierarchy.ParentLink cover.id tested.id := by
        rw [hid]
        exact hlink
      exact ⟨cover, hcover, hkept.coherent.isA_of_parentLink hparent,
        hchild cover hid⟩
    · obtain ⟨cover, hcover, hcover_above, hcover_below⟩ :=
        GenericFunction.exists_of_declares hdeclares registry.hierarchy
      exact ⟨cover, hcover, (hcover_below tested).trans (Hierarchy.isA_self ..),
        (hcover_above type).trans hbelow⟩
  obtain ⟨cover, hcover, hcover_below, hcover_above⟩ := hcovers
  obtain ⟨entry, nearest, hentry, harguments, -, hlowest, hresolve⟩ :=
    hpast.reachable.cacheSound.exists_resolve_eq_entry hfunction hkept.coherent
      hwell.nodup hdirected ⟨cover, hcover, hcover_above⟩ tolerateTie
  have hupper : registry.isA tested nearest = true :=
    hkept.coherent.isA_trans hcover_below (hlowest cover hcover hcover_above)
  rw [hresolve]
  cases hwell.origin entry hentry with
  | registered hmem =>
      rw [harguments] at hmem
      exact Bool.noConfusion (hupper.symm.trans (hown nearest hmem))
  | denial hdefined _ => cases hrole.symm.trans hdefined
  | affirmation hdefined => cases hrole.symm.trans hdefined
  | @child lower _ _ _ => exact ⟨lower, rfl⟩

end Below

end Registry

end PredicateDispatch
